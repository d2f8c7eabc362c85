import Phrasebook.Unicode.Letter
import Phrasebook.Unicode.Blank

/-! Rules read parts from the front of a text; a refusal lets other rules try, a failure does not. -/

namespace Phrasebook

/-- What reading a part of a text gives, with the text at which reading stopped. -/
inductive Outcome (α : Type) where
  /-- A part was read. -/
  | done (value : α) (rest : List Char)
  /-- Nothing fits here, and another rule may be tried. -/
  | refused (rest : List Char)
  /-- Nothing fits here, and no other rule may be tried. -/
  | failed (rest : List Char)

/-- A rule reads a part from the front of a text. -/
def Rule (α : Type) := List Char → Outcome α

namespace Rule

/-- The rule that reads nothing. -/
def succeed {α : Type} (value : α) : Rule α :=
  -- The text stays as it is.
  fun text => .done value text

/-- One rule after another; a failure stays where it happened. -/
def andThen {α β : Type} (first : Rule α) (next : α → Rule β) : Rule β :=
  -- The second rule starts where the first stopped.
  fun text =>
    match first text with
    | .done value rest => next value rest
    | .refused rest => .refused rest
    | .failed rest => .failed rest

instance : Monad Rule where
  pure := succeed
  bind := andThen

/-- Try a rule, and if it refuses, another one from the same place. -/
def orElse {α : Type} (first second : Rule α) : Rule α :=
  -- The place of a failure is that of the second rule.
  fun text =>
    match first text with
    | .refused _ => second text
    | outcome => outcome

/-- Read a part that may be absent. -/
def optional {α : Type} (rule : Rule α) : Rule (Option α) :=
  -- A refusal reads nothing.
  fun text =>
    match rule text with
    | .done value rest => .done (some value) rest
    | .refused _ => .done none text
    | .failed rest => .failed rest

/-- Read given characters. -/
def exactly (expected : List Char) : Rule Unit :=
  -- A refusal reads nothing.
  fun text =>
    if expected.isPrefixOf text then .done () (text.drop expected.length) else .refused text

/-- Skip white space. -/
def blanks : Rule Unit :=
  -- There may be none.
  fun text => .done () (trimFront text)

/-- Read a separator between white space. -/
def between (separator : List Char) : Rule Unit := do
  -- White space on both sides belongs to the separator.
  blanks
  exactly separator
  blanks

/-- Further elements, each after a separator; a refused element gives back its separator. -/
def moreElements {α : Type} (separator : Rule Unit) (element : Rule α) : Nat → Rule (List α)
  -- Each turn reads a separator, so the length of the text bounds the turns.
  | 0 => succeed []
  | turns + 1 => fun text =>
    match separator text with
    | .done _ rest =>
      match element rest with
      | .done value rest =>
        match moreElements separator element turns rest with
        | .done values rest => .done (value :: values) rest
        | outcome => outcome
      | .refused _ => .done [] text
      | .failed rest => .failed rest
    | .refused _ => .done [] text
    | .failed rest => .failed rest

/-- Elements with separators between them, perhaps none. -/
def elements {α : Type} (separator : Rule Unit) (element : Rule α) : Rule (List α) :=
  -- A refused first element means that there are none.
  fun text =>
    match element text with
    | .done value rest =>
      match moreElements separator element rest.length rest with
      | .done values rest => .done (value :: values) rest
      | outcome => outcome
    | .refused _ => .done [] text
    | .failed rest => .failed rest

/-- A part inside an opening and a closing sign, with white space allowed next to the signs. -/
def enclosed {α : Type} (opening closing : Char) (content : Rule α) : Rule α := do
  -- The closing sign is missed after the white space in front of it.
  exactly [opening]
  blanks
  let value ← content
  blanks
  exactly [closing]
  return value

end Rule

/-- Whether a character can start an identifier. -/
def startsIdentifier (c : Char) : Bool :=
  -- Letters of all scripts and the underscore can.
  isAlphabetic c || c == '_'

/-- Whether a character can stand inside an identifier. -/
def continuesIdentifier (c : Char) : Bool :=
  -- Numerals may follow the first character.
  isAlphanumeric c || c == '_'

/-- Read an identifier. -/
def identifier : Rule String := fun text =>
  -- A refusal reads nothing.
  match text with
  | c :: rest =>
    if startsIdentifier c then
      .done (String.ofList (c :: rest.takeWhile continuesIdentifier)) (rest.dropWhile continuesIdentifier)
    else .refused text
  | [] => .refused text

end Phrasebook
