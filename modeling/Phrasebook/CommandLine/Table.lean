import Phrasebook.Reading.Lines
import Phrasebook.Unicode.TextWidth

/-! A table is a box of columns under a header, as wide as its widest cells. -/

namespace Phrasebook

/-- A cell of a table, as its lines. -/
abbrev Cell := List String

/-- The cell that a text fills. -/
def Cell.of (text : String) : Cell :=
  -- Each line feed starts another line, even at the end of the text.
  (splitAt '\n' text.toList).map String.ofList

/-- The number of columns that a cell takes on a terminal. -/
def Cell.width (cell : Cell) : Nat :=
  -- The widest line decides.
  cell.foldl (fun width line => max width (textWidth line)) 0

/-- The widths of the columns of a table. -/
def columnWidths (header : List Cell) (rows : List (List Cell)) : List Nat :=
  -- A column is as wide as the widest of its cells and its heading.
  rows.foldl (fun widths row => List.zipWith max widths (row.map Cell.width)) (header.map Cell.width)

/-- A line of a cell filled up with blanks to the width of its column. -/
def padLine (width : Nat) (line : String) : String :=
  -- Cells are aligned to the left.
  line ++ String.ofList (List.replicate (width - textWidth line) ' ')

/-- One line of a row, made of the lines of its cells at the same height. -/
def rowLine (widths : List Nat) (cells : List Cell) (height : Nat) : String :=
  -- A blank stands on both sides of a cell, and another one between two columns.
  let padded := List.zipWith (fun width cell => " " ++ padLine width (cell.getD height "") ++ " ") widths cells
  "│" ++ String.intercalate " " padded ++ "│"

/-- The lines of a row. -/
def rowLines (widths : List Nat) (cells : List Cell) : List String :=
  -- A row is as high as the highest of its cells.
  let height := cells.foldl (fun height cell => max height cell.length) 0
  (List.range height).map (rowLine widths cells)

/-- A horizontal rule between two corners. -/
def tableRule (left line right : Char) (widths : List Nat) : String :=
  -- The rule is as long as a row is between its borders.
  let length := widths.foldl (fun length width => length + width + 2) (widths.length - 1)
  String.ofList (left :: List.replicate length line ++ [right])

/-- A table of a header and rows of as many texts. -/
def renderTable (header : List String) (rows : List (List String)) : String :=
  -- A double rule sets off the header.
  let header := header.map Cell.of
  let rows := rows.map fun row => row.map Cell.of
  let widths := columnWidths header rows
  String.intercalate "\n"
    ([tableRule '┌' '─' '┐' widths] ++ rowLines widths header ++ [tableRule '╞' '═' '╡' widths] ++
      rows.flatMap (rowLines widths) ++ [tableRule '└' '─' '┘' widths])

end Phrasebook
