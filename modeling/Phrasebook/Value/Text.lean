import Phrasebook.Value.Basic
import Phrasebook.Decimal.Shortest

/-! Values are written as JSON: on one line without blanks, or over indented lines. -/

namespace Phrasebook

/-- The hexadecimal digit of a number below sixteen. -/
def hexDigit (n : Nat) : Char :=
  -- Letters are written in lower case.
  if n < 10 then Char.ofNat (48 + n) else Char.ofNat (87 + n)

/-- The written form of one character inside a quoted text. -/
def escapeChar (c : Char) : List Char :=
  -- Only the quote, the backslash and control characters below the space are escaped.
  if c == '\x22' then ['\\', '\x22']
  else if c == '\\' then ['\\', '\\']
  else if c == '\x08' then ['\\', 'b']
  else if c == '\x0c' then ['\\', 'f']
  else if c == '\n' then ['\\', 'n']
  else if c == '\r' then ['\\', 'r']
  else if c == '\t' then ['\\', 't']
  else if c.toNat < 0x20 then ['\\', 'u', '0', '0', hexDigit (c.toNat / 16), hexDigit (c.toNat % 16)]
  else [c]

/-- A text between quotes. -/
def quoteChars (text : List Char) : List Char :=
  -- Every character is written on its own.
  '\x22' :: text.flatMap escapeChar ++ ['\x22']

namespace Value

mutual

/-- The characters of a value on one line. -/
def compactChars : Value → List Char
  -- Fields stand in the order of their names.
  | .null => "null".toList
  | .bool true => "true".toList
  | .bool false => "false".toList
  | .int n => (toString n).toList
  | .float x => (floatText x).toList
  | .str s => quoteChars s.toList
  | .arr items => '[' :: compactItems items ++ [']']
  | .obj fields => '\x7b' :: compactFields fields ++ ['\x7d']

/-- The characters of list elements with commas between them. -/
def compactItems : List Value → List Char
  -- No comma follows the last element.
  | [] => []
  | [item] => compactChars item
  | item :: next :: rest => compactChars item ++ ',' :: compactItems (next :: rest)

/-- The characters of fields with commas between them. -/
def compactFields : List (String × Value) → List Char
  -- A colon divides the name from the value.
  | [] => []
  | [(name, value)] => quoteChars name.toList ++ ':' :: compactChars value
  | (name, value) :: next :: rest =>
    quoteChars name.toList ++ ':' :: compactChars value ++ ',' :: compactFields (next :: rest)

end

/-- A value as JSON on one line. -/
def compact (value : Value) : String :=
  -- The text is assembled from its characters.
  String.ofList value.compactChars

/-- A value inside running text: texts stand as they are, all else as JSON. -/
def text : Value → String
  -- Quotes would be wrong in the middle of a sentence.
  | .str s => s
  | value => value.compact

/-- A value that takes part in joining, where null leaves nothing behind. -/
def joinText : Value → String
  -- An absent value is not spelled out.
  | .null => ""
  | value => value.text

/-- A new line followed by two blanks for each level. -/
def newLine (level : Nat) : List Char :=
  -- Each level of nesting indents by two.
  '\n' :: List.replicate (2 * level) ' '

mutual

/-- The characters of a value over indented lines. -/
def prettyChars (level : Nat) : Value → List Char
  -- Empty containers stay on one line.
  | .arr [] => ['[', ']']
  | .obj [] => ['\x7b', '\x7d']
  | .arr (item :: rest) =>
    '[' :: newLine (level + 1) ++ prettyChars (level + 1) item ++ prettyItems (level + 1) rest ++
      newLine level ++ [']']
  | .obj ((name, value) :: rest) =>
    '\x7b' :: newLine (level + 1) ++ quoteChars name.toList ++ ':' :: ' ' ::
      prettyChars (level + 1) value ++ prettyFields (level + 1) rest ++ newLine level ++ ['\x7d']
  | value => value.compactChars

/-- The characters of the elements after the first, each on a line of its own. -/
def prettyItems (level : Nat) : List Value → List Char
  -- The comma ends the line before.
  | [] => []
  | item :: rest => ',' :: newLine level ++ prettyChars level item ++ prettyItems level rest

/-- The characters of the fields after the first, each on a line of its own. -/
def prettyFields (level : Nat) : List (String × Value) → List Char
  -- A blank follows the colon.
  | [] => []
  | (name, value) :: rest =>
    ',' :: newLine level ++ quoteChars name.toList ++ ':' :: ' ' :: prettyChars level value ++
      prettyFields level rest

end

/-- A value as JSON over indented lines. -/
def pretty (value : Value) : String :=
  -- The outermost value starts at the margin.
  String.ofList (value.prettyChars 0)

end Value

end Phrasebook
