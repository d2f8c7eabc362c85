import Phrasebook.Text.Reader

/-! Template text is split at separators outside escapes and expressions. -/

namespace Phrasebook

/-- The characters before the first live separator, and those after it if there is one. -/
def cutAtSeparator (separator : Char) : Nat → List Char → List Char × Option (List Char)
  -- Escaped characters and whole expressions are passed over; each turn reads a character.
  | 0, text => (text, none)
  | _ + 1, [] => ([], none)
  | turns + 1, c :: rest =>
    if c == '\\' then
      match rest with
      | [] => ([c], none)
      | escaped :: after =>
        let (before, cut) := cutAtSeparator separator turns after
        (c :: escaped :: before, cut)
    else
      let expression := match c, rest with
        | '$', '\x7b' :: inner => closeExpression .start inner
        | _, _ => none
      match expression with
      | some (body, after) =>
        let (before, cut) := cutAtSeparator separator turns after
        ('$' :: '\x7b' :: body ++ '\x7d' :: before, cut)
      | none =>
        if c == separator then ([], some rest)
        else
          let (before, cut) := cutAtSeparator separator turns rest
          (c :: before, cut)

/-- Split a text at its first live separator. -/
def splitOnce (separator : Char) (text : List Char) : Option (List Char × List Char) :=
  -- The separator itself is dropped.
  match cutAtSeparator separator text.length text with
  | (before, some after) => some (before, after)
  | (_, none) => none

/-- The pieces of a text between its live separators, with a bound on their number. -/
def splitPieces (separator : Char) : Nat → List Char → List (List Char)
  -- Each turn reads a separator, so the length of the text bounds the turns.
  | 0, text => [text]
  | turns + 1, text =>
    match cutAtSeparator separator text.length text with
    | (before, some after) => before :: splitPieces separator turns after
    | (before, none) => [before]

/-- Split a text at all its live separators. -/
def splitAll (separator : Char) (text : List Char) : List (List Char) :=
  -- There is always one piece more than there are separators.
  splitPieces separator text.length text

end Phrasebook
