import Phrasebook.Reading.Lines

/-! Locale tags are subtags with dashes between them: a language, and perhaps script, region, variants and extensions. -/

namespace Phrasebook

/-- A subtag, as its characters. -/
abbrev Subtag := List Char

namespace Subtag

/-- Whether all characters of a subtag are letters of ASCII. -/
def letters (tag : Subtag) : Bool :=
  -- Case does not matter.
  tag.all Char.isAlpha

/-- Whether all characters of a subtag are letters or digits of ASCII. -/
def alphanumeric (tag : Subtag) : Bool :=
  -- Case does not matter.
  tag.all Char.isAlphanum

/-- Whether the length of a subtag lies between two bounds. -/
def sized (low high : Nat) (tag : Subtag) : Bool :=
  -- Both bounds are included.
  low ≤ tag.length && tag.length ≤ high

/-- Whether a subtag names a language. -/
def isLanguage (tag : Subtag) : Bool :=
  -- Languages have two or three letters.
  sized 2 3 tag && letters tag

/-- Whether a subtag names a script. -/
def isScript (tag : Subtag) : Bool :=
  -- Scripts have four letters.
  sized 4 4 tag && letters tag

/-- Whether a subtag names a region. -/
def isRegion (tag : Subtag) : Bool :=
  -- Regions have two letters or three digits.
  (sized 2 2 tag && letters tag) || (sized 3 3 tag && tag.all Char.isDigit)

/-- Whether a subtag names a variant. -/
def isVariant (tag : Subtag) : Bool :=
  -- A variant of four characters starts with a digit.
  alphanumeric tag && (sized 5 8 tag || (sized 4 4 tag && (tag.head?.map Char.isDigit).getD false))

/-- Whether a subtag is a key of a locale extension: a letter or digit and then a letter. -/
def isKey : Subtag → Bool
  -- Keys have two characters.
  | [a, b] => a.isAlphanum && b.isAlpha
  | _ => false

/-- Whether a subtag is a key of a transform extension: a letter and then a digit. -/
def isTransformKey : Subtag → Bool
  -- Keys have two characters.
  | [a, b] => a.isAlpha && b.isDigit
  | _ => false

/-- Whether a subtag is an attribute or a value of an extension. -/
def isValue (tag : Subtag) : Bool :=
  -- Values have three to eight characters.
  sized 3 8 tag && alphanumeric tag

/-- The lower-case form of a subtag. -/
def lower (tag : Subtag) : Subtag :=
  -- Subtags are compared without regard to case.
  tag.map Char.toLower

end Subtag

/-- Skip variants, none of which may be repeated; the result is absent if one is. -/
def skipVariants (seen : List Subtag) : List Subtag → Option (List Subtag)
  -- The first subtag that is no variant ends them.
  | tag :: rest =>
    if tag.isVariant then
      if seen.contains tag.lower then none else skipVariants (tag.lower :: seen) rest
    else some (tag :: rest)
  | [] => some []

/-- Skip the first subtag if it belongs to a class. -/
def skipOne (belongs : Subtag → Bool) : List Subtag → List Subtag
  -- It may be absent.
  | tag :: rest => if belongs tag then rest else tag :: rest
  | [] => []

/-- What follows the script, region and variants after a language. -/
def skipLanguageParts (tags : List Subtag) : Option (List Subtag) :=
  -- The parts come in this order.
  skipVariants [] (skipOne Subtag.isRegion (skipOne Subtag.isScript tags))

/-- What follows keys and their values; a value needs a key in front of it. -/
def skipKeywords (keyed : Bool) : List Subtag → Option (List Subtag)
  -- Any subtag of two characters must be a key.
  | tag :: rest =>
    if tag.length == 2 then (if tag.isKey then skipKeywords true rest else none)
    else if keyed && tag.isValue then skipKeywords keyed rest
    else some (tag :: rest)
  | [] => some []

/-- What follows the attributes and keywords of a locale extension. -/
def skipLocaleExtension (tags : List Subtag) : Option (List Subtag) := do
  -- There must be at least one of them.
  let rest ← skipKeywords false (tags.dropWhile Subtag.isValue)
  if rest.length == tags.length then none else some rest

/-- What follows fields, each a key with at least one value. -/
def skipFields : Nat → List Subtag → Option (List Subtag)
  -- Each turn reads a key, so the number of subtags bounds the turns.
  | 0, tags => some tags
  | turns + 1, tag :: rest =>
    if tag.isTransformKey then
      let after := rest.dropWhile Subtag.isValue
      if after.length == rest.length then none else skipFields turns after
    else some (tag :: rest)
  | _ + 1, [] => some []

/-- What follows the language and fields of a transform extension. -/
def skipTransform (tags : List Subtag) : Option (List Subtag) := do
  -- There must be a language or a field.
  let rest ← match tags with
    | tag :: rest => if tag.isLanguage then skipLanguageParts rest else some tags
    | [] => some []
  let rest ← skipFields rest.length rest
  if rest.length == tags.length then none else some rest

/-- Whether a subtag can stand in an extension of no known kind. -/
def fitsOther (tag : Subtag) : Bool :=
  -- The size is counted in bytes.
  let size := (String.ofList tag).utf8ByteSize
  2 ≤ size && size ≤ 8

/-- What follows the subtags of an extension of no known kind. -/
def skipOther (tags : List Subtag) : Option (List Subtag) :=
  -- At least one of them must be made of letters and digits.
  if (tags.takeWhile fitsOther).any Subtag.alphanumeric then some (tags.dropWhile fitsOther) else none

/-- Whether subtags are extensions, each opened by a letter or digit that no earlier one has. -/
def areExtensions : Nat → List Char → List Subtag → Bool
  -- Each turn reads what opens an extension, so the number of subtags bounds the turns.
  | _, _, [] => true
  | 0, _, _ :: _ => false
  | turns + 1, seen, tag :: rest =>
    match tag.lower with
    | [c] =>
      if !c.isAlphanum || seen.contains c then false
      else if c == 'x' then !rest.isEmpty && rest.all fun tag => Subtag.sized 1 8 tag && tag.alphanumeric
      else
        let after := if c == 'u' then skipLocaleExtension rest
          else if c == 't' then skipTransform rest
          else skipOther rest
        match after with
        | some after => areExtensions turns (c :: seen) after
        | none => false
    | _ => false

/-- Whether a text is a locale tag whose language is not undetermined. -/
def isLocale (text : String) : Bool :=
  -- An underscore stands for a dash.
  let dashed := text.toList.map fun c => if c == '_' then '-' else c
  match splitAt '-' dashed with
  | language :: rest =>
    if Subtag.isLanguage language && Subtag.lower language != "und".toList then
      match skipLanguageParts rest with
      | some rest => areExtensions rest.length [] rest
      | none => false
    else false
  | [] => false

end Phrasebook
