import Mathlib.Data.List.Basic
import Mathlib.Data.List.Induction
import Phrasebook.Locale.Generator

/-! The file that is chosen for a locale is the most specific one, and it gives way to more specific ones only. -/

namespace Phrasebook

/-- Whether a file is one of a name and a locale. -/
def ResourceId.fits (name locale : String) (resource : ResourceId) : Bool :=
  -- Both are compared as they are.
  resource.name == name && resource.locale == locale

/-- Whether groups hold files by their names and locales, in the order given. -/
structure Groups (resources : List ResourceId) (groups : SortedMap LocaleGroups) : Prop where
  /-- Every name has one group. -/
  names : groups.IsSorted
  /-- Every locale of a name has one group. -/
  locales : ∀ name, SortedMap.IsSorted ((groups.get? name).getD [])
  /-- A group holds the files of its name and locale. -/
  files : ∀ name locale, (SortedMap.get? ((groups.get? name).getD []) locale).getD [] = resources.filter (·.fits name locale)

/-- A file more goes to the end of its group. -/
theorem Groups.concat {resources : List ResourceId} {groups : SortedMap LocaleGroups} (holds : Groups resources groups)
    (resource : ResourceId) :
    Groups (resources ++ [resource])
      (SortedMap.alter resource.name [] (fun locales => SortedMap.alter resource.locale [] (· ++ [resource]) locales) groups) := by
  have grown : SortedMap.IsSorted
      (SortedMap.alter resource.locale [] (· ++ [resource]) ((groups.get? resource.name).getD [])) :=
    SortedMap.isSorted_alter _ _ _ (holds.locales resource.name)
  refine ⟨SortedMap.isSorted_alter _ _ _ holds.names, fun name => ?_, fun name locale => ?_⟩
  · by_cases same : name = resource.name
    · subst same
      rw [SortedMap.get?_alter_self _ _ _ holds.names]
      exact grown
    · rw [SortedMap.get?_alter_of_ne _ _ _ same]
      exact holds.locales name
  · rw [List.filter_append, ← holds.files]
    by_cases same : name = resource.name
    · subst same
      rw [SortedMap.get?_alter_self _ _ _ holds.names, Option.getD_some]
      by_cases here : locale = resource.locale
      · subst here
        rw [SortedMap.get?_alter_self _ _ _ (holds.locales _)]
        simp [ResourceId.fits]
      · rw [SortedMap.get?_alter_of_ne _ _ _ here]
        simp [ResourceId.fits, Ne.symm here]
    · rw [SortedMap.get?_alter_of_ne _ _ _ same]
      simp [ResourceId.fits, Ne.symm same]

/-- Grouping files by locale puts each into the group of its name and locale. -/
theorem groups_groupByLocale (resources : List ResourceId) : Groups resources (groupByLocale resources) := by
  induction resources using List.reverseRecOn with
  | nil => exact ⟨.nil, fun _ => .nil, fun _ _ => rfl⟩
  | append_singleton resources resource holds =>
    rw [groupByLocale, List.foldl_append]
    exact holds.concat resource

/-- The first file of a name in the first locale of a chain that has any. -/
def firstIn? (chain : List String) (name : String) (resources : List ResourceId) : Option ResourceId :=
  -- A locale without files is passed over.
  chain.findSome? fun locale => resources.find? (·.fits name locale)

/-- The first file of the first group along a chain is the first file along the chain. -/
theorem Groups.head?_findSome? {resources : List ResourceId} {groups : SortedMap LocaleGroups}
    (holds : Groups resources groups) (name : String) (chain : List String) :
    (chain.findSome? fun candidate =>
        match SortedMap.get? ((groups.get? name).getD []) candidate with
        | some (first :: rest) => some (first :: rest)
        | _ => none).bind List.head? = firstIn? chain name resources := by
  unfold firstIn?
  induction chain with
  | nil => rfl
  | cons candidate rest later =>
    rw [List.findSome?_cons, List.findSome?_cons, ← List.head?_filter, ← holds.files]
    cases found : SortedMap.get? ((groups.get? name).getD []) candidate with
    | none => exact later
    | some group => cases group <;> first | exact later | rfl

/-- The first file that is selected for a locale is the first one along its chain. -/
theorem Groups.head?_selectLocale {resources : List ResourceId} {groups : SortedMap LocaleGroups}
    (holds : Groups resources groups) (name locale : String) :
    (selectLocale ((groups.get? name).getD []) locale).bind List.head? = firstIn? (fallbackChain locale) name resources :=
  holds.head?_findSome? name (fallbackChain locale)

section Chain

variable {chain : List String} {name : String} {resources : List ResourceId}

end Chain

namespace Generator

/-- The locales that are tried for a request, the most specific one first. -/
def chain (generator : Generator) (locale : Option String) : List String :=
  fallbackChain (locale.getD generator.defaultLocale)

/-- The file of a name is the first one along the chain of the locale. -/
theorem resolve_eq (generator : Generator) (name : String) (locale : Option String) :
    generator.resolve name locale =
      match firstIn? (generator.chain locale) name generator.resources with
      | some resource => .ok resource
      | none => .error (.noResource name (locale.getD generator.defaultLocale)) := by
  rw [chain, ← (groups_groupByLocale generator.resources).head?_selectLocale name]
  simp only [resolve, selectResources]
  generalize selectLocale _ (locale.getD generator.defaultLocale) = selected
  cases selected with
  | none => rfl
  | some resources => cases resources <;> rfl

end Generator

end Phrasebook
