import Phrasebook.Locale.Tag
import Phrasebook.SortedMap
import Phrasebook.Unicode.Casing
import Phrasebook.Unicode.Blank

/-! Localized files are named after their resource and locale, and found through a chain of locales. -/

namespace Phrasebook

/-- The id of a file, split into the name of its resource and its locale. -/
structure ResourceId where
  /-- The id as given. -/
  id : String
  /-- The id without extension and locale. -/
  name : String
  /-- The locale tag in lower case, empty for a file of no locale. -/
  locale : String
  deriving DecidableEq, Repr, Inhabited

/-- A locale tag in lower case and with dashes. -/
def normalizeLocale (tag : List Char) : String :=
  -- An underscore stands for a dash.
  lowerText (String.ofList (tag.map fun c => if c == '_' then '-' else c))

/-- An id without the extension of template files. -/
def withoutExtension (id : List Char) : List Char :=
  -- The case of the extension does not matter.
  match id.reverse with
  | g :: l :: '.' :: stem =>
    if (g == 'g' || g == 'G') && (l == 'l' || l == 'L') then stem.reverse else id
  | _ => id

/-- Split an id into name and locale. -/
def ResourceId.parse (id : String) : ResourceId :=
  -- The last dotted part counts as a locale only if it is a locale tag.
  let stem := withoutExtension id.toList
  let tail := (stem.reverse.takeWhile (· != '.')).reverse
  let name := stem.take (stem.length - tail.length - 1)
  if stem.contains '.' && !name.isEmpty && isLocale (String.ofList tail) then
    ⟨id, String.ofList name, normalizeLocale tail⟩
  else ⟨id, String.ofList stem, ""⟩

/-- Files by locale. -/
abbrev LocaleGroups := SortedMap (List ResourceId)

/-- Files by name and then by locale, those of one locale in the order given. -/
def groupByLocale (ids : List ResourceId) : SortedMap LocaleGroups :=
  -- A file goes to the end of its group.
  ids.foldl
    (fun groups id =>
      SortedMap.alter id.name [] (fun locales => SortedMap.alter id.locale [] (· ++ [id]) locales) groups)
    []

/-- The locales to try for a requested one, most specific first. -/
def fallbackChain (locale : String) : List String :=
  -- The language alone comes after the full tag, and no locale comes last.
  let tag := normalizeLocale (trimChars locale.toList)
  let chars := tag.toList
  let language := String.ofList (chars.takeWhile (· != '-'))
  if tag == "" then [""]
  else if chars.contains '-' then [tag, language, ""]
  else [tag, ""]

/-- The files of the first locale in the chain of a requested one that has any. -/
def selectLocale (groups : LocaleGroups) (locale : String) : Option (List ResourceId) :=
  -- A locale without files is passed over.
  (fallbackChain locale).findSome? fun candidate =>
    match groups.get? candidate with
    | some (first :: rest) => some (first :: rest)
    | _ => none

end Phrasebook
