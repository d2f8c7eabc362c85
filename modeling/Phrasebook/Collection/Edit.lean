import Phrasebook.Collection.Load
import Phrasebook.Expression.Builtin

/-! Edits change the text of a file and leave the lines they do not concern as they are. -/

namespace Phrasebook

/-- The line end that a text uses: a lone line feed, unless some line ends otherwise. -/
def lineEndOf (content : List Char) : List Char :=
  -- A single other line end is enough.
  if containsText ['\r', '\n'] content then ['\r', '\n'] else ['\n']

/-- The text of a template: its name line and its body lines. -/
def formatTemplate (name : String) (parameters : List String) (body : String) (lineEnd : List Char) : List Char :=
  -- White space at the end of the body is dropped, and no line end follows the last line.
  let header := if parameters.isEmpty then "# " ++ name
    else "# " ++ name ++ "(" ++ String.intercalate ", " parameters ++ ")"
  header.toList ++ (linesOf (trimBack body.toList)).flatMap fun line => lineEnd ++ line

/-- The text after a template has been added at its end. -/
def appendTemplate (content : String) (name : String) (parameters : List String) (body : String) : String :=
  -- A blank line stands between the old text and the new template.
  let lineEnd := lineEndOf content.toList
  let kept := trimBack content.toList
  let gap := if kept.isEmpty then [] else lineEnd ++ lineEnd
  String.ofList (kept ++ gap ++ formatTemplate name parameters body lineEnd ++ lineEnd)

/-- The lines before and after a range of lines. -/
def aroundRange (lines : List (List Char)) (range : LineRange) : List (List Char) × List (List Char) :=
  -- Lines are counted from one, and both ends belong to the range.
  let start := min (range.first - 1) lines.length
  (lines.take start, lines.drop (max start (min range.last lines.length)))

/-- Drop blank lines at the end of a list of lines. -/
def dropBlankEnd (lines : List (List Char)) : List (List Char) :=
  -- The end is the front of the reversed list.
  (lines.reverse.dropWhile isBlankLine).reverse

/-- The text without a range of lines. -/
def removeLines (content : String) (range : LineRange) : String :=
  -- Blank lines are dropped that would be left at an end of the text or doubled inside it.
  let (before, after) := aroundRange (linesWithEnds content.toList) range
  let opensGap := match before.getLast? with
    | some line => isBlankLine line
    | none => true
  let after := if opensGap then after.dropWhile isBlankLine else after
  let before := if after.isEmpty then dropBlankEnd before else before
  String.ofList (before.flatten ++ after.flatten)

/-- The text with a range of lines replaced by others. -/
def replaceLines (content : String) (range : LineRange) (replacement : List Char) : String :=
  -- The last line of the text keeps its end, or the lack of one.
  let chars := content.toList
  let lineEnd := lineEndOf chars
  let (before, after) := aroundRange (linesWithEnds chars) range
  let lines := (linesOf replacement).flatMap (· ++ lineEnd)
  let lines := if after.isEmpty && chars.getLast? != some '\n' then lines.take (lines.length - lineEnd.length)
    else lines
  String.ofList (before.flatten ++ lines ++ after.flatten)

/-- The text after a template has been added, unless its name is taken. -/
def LoadedFile.addTemplate (file : LoadedFile) (name : String) (parameters : List String) (body : String) :
    Option String :=
  -- Only templates of the file itself count.
  if (file.template? name).isSome then none else some (appendTemplate file.content name parameters body)

/-- The text after a template has been replaced, if there is one of that name. -/
def LoadedFile.updateTemplate (file : LoadedFile) (name newName : String) (parameters : List String)
    (body : String) : Option String :=
  -- The new lines stand where the old ones stood.
  (file.template? name).map fun template =>
    replaceLines file.content template.range
      (formatTemplate newName parameters body (lineEndOf file.content.toList))

/-- The text after a template has been removed, if there is one of that name. -/
def LoadedFile.deleteTemplate (file : LoadedFile) (name : String) : Option String :=
  -- The lines of the template go as a whole.
  (file.template? name).map fun template => removeLines file.content template.range

end Phrasebook
