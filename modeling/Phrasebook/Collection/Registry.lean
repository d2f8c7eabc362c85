import Phrasebook.Collection.Basic
import Phrasebook.SortedMap

/-! A registry holds every template that can be called from a collection, by the name it is called by. -/

namespace Phrasebook

/-- Templates by the names they are called by. -/
abbrev Registry := SortedMap Template

/-- The templates that a collection calls by an alias, under their full names. -/
def Collection.aliasedTemplates (collection : Collection) : List (String × Template) :=
  -- A full name is the alias and the name with a dot between them.
  collection.allNamedReferences.flatMap fun (qualifier, id) =>
    (collection.focus id).allTemplates.map fun template => (qualifier ++ "." ++ template.name, template)

/-- The templates that can be called from a collection. -/
def Collection.registry (collection : Collection) : Registry :=
  -- Plain names come before names with an alias, and the first of a name wins.
  let plain := collection.allTemplates.map fun template => (template.name, template)
  (plain ++ collection.aliasedTemplates).foldl
    (fun registry (name, template) => SortedMap.insertNew name template registry) []

/-- A call name without the exclamation mark that asks for a fresh result, and whether it has one. -/
def splitRerun (name : String) : String × Bool :=
  -- Only one mark is taken off.
  match name.toList.reverse with
  | '!' :: base => (String.ofList base.reverse, true)
  | _ => (name, false)

/-- A call name without an exclamation mark is the name of the template itself. -/
theorem eq_of_splitRerun {name base : String} (parts : splitRerun name = (base, false)) : name = base := by
  -- A mark would have been taken off.
  unfold splitRerun at parts
  split at parts
  · cases parts
  · exact (Prod.mk.inj parts).1

/-- A call name with an exclamation mark is the name of the template and the mark. -/
theorem eq_append_of_splitRerun {name base : String} (parts : splitRerun name = (base, true)) : name = base ++ "!" := by
  -- The mark stands at the end.
  unfold splitRerun at parts
  split at parts
  · rename_i front reversed
    obtain rfl := (Prod.mk.inj parts).1
    have chars : name.toList = front.reverse ++ ['!'] := by simpa using congrArg List.reverse reversed
    rw [← String.ofList_toList (s := name), chars, String.ofList_append]
  · cases parts

/-- A call name is the name of the template, perhaps with a mark. -/
theorem eq_or_eq_append_of_splitRerun {name base : String} (same : (splitRerun name).1 = base) :
    name = base ∨ name = base ++ "!" := by
  -- The second part tells which of them it is.
  cases parts : splitRerun name with | mk front rerun =>
  rw [parts] at same
  subst same
  cases rerun with
  | false => exact .inl (eq_of_splitRerun parts)
  | true => exact .inr (eq_append_of_splitRerun parts)

/-- A call name that does not end with an exclamation mark is taken as it is. -/
theorem splitRerun_of_getLast? {name : String} (unmarked : name.toList.getLast? ≠ some '!') :
    splitRerun name = (name, false) := by
  -- There is no mark to take off.
  unfold splitRerun
  split
  · rename_i base reversed
    rw [← List.head?_reverse, reversed] at unmarked
    exact absurd rfl unmarked
  · rfl

end Phrasebook
