import Phrasebook.Reading.Lines
import Phrasebook.Unicode.Casing

/-! Options control evaluation; files declare them, and callers override what files declare. -/

namespace Phrasebook

/-- How line breaks in a result are written. -/
inductive LineBreaks where
  /-- As they are. -/
  | plain
  /-- Doubled, so that marked-up text keeps them. -/
  | doubled
  deriving DecidableEq, Repr, Inhabited

/-- Options of an evaluation; what is not set is left to others. -/
structure Options where
  /-- Whether null and failing expressions are errors. -/
  strict : Option Bool := none
  /-- What is written in place of null. -/
  placeholder : Option String := none
  /-- How line breaks are written. -/
  lineBreaks : Option LineBreaks := none
  deriving DecidableEq, Repr, Inhabited

/-- The key and the value of an option line. -/
def parseOption (line : String) : Option (String × String) :=
  -- At-signs in front of the key and the case of the key do not matter.
  match cutAt ['='] line.toList with
  | none => none
  | some (left, right) =>
    let key := lowerText (String.ofList (trimChars ((trimChars left).dropWhile (· == '@'))))
    if key == "" then none else some (key, String.ofList (trimChars right))

namespace Options

/-- The truth value that a word spells. -/
def truthOf? (word : String) : Option Bool :=
  -- Only lower case is read.
  if word == "true" then some true else if word == "false" then some false else none

/-- The way of writing line breaks that a word names. -/
def lineBreaksOf? (word : String) : Option LineBreaks :=
  -- The case of the word does not matter.
  let word := lowerText word
  if word == "markdown" then some .doubled else if word == "default" then some .plain else none

/-- The options after one more option line. -/
def withLine (options : Options) (line : String) : Options :=
  -- A later line overrides an earlier one of its key, even by a value that means nothing.
  match parseOption line with
  | some ("strict", value) => { options with strict := truthOf? value }
  | some ("replacenull", value) => { options with placeholder := some value }
  | some ("linebreakstyle", value) => { options with lineBreaks := lineBreaksOf? value }
  | _ => options

/-- The options that option lines declare. -/
def ofLines (lines : List String) : Options :=
  -- Lines with other keys do nothing.
  lines.foldl withLine {}

/-- Options completed by others. -/
def orElse (options fallback : Options) : Options :=
  -- What is set stays.
  ⟨options.strict <|> fallback.strict, options.placeholder <|> fallback.placeholder,
    options.lineBreaks <|> fallback.lineBreaks⟩

/-- Whether evaluation is strict. -/
def isStrict (options : Options) : Bool :=
  -- Lenience is the default.
  options.strict.getD false

/-- How line breaks are written. -/
def breaks (options : Options) : LineBreaks :=
  -- Leaving them alone is the default.
  options.lineBreaks.getD .plain

end Options

end Phrasebook
