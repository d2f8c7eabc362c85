import Mathlib.Data.List.Basic
import Phrasebook.Proofs.Collection.Loaded
import Phrasebook.Proofs.Evaluation.Mirrors
import Phrasebook.Proofs.Expression.Names
import Phrasebook.Proofs.Reading.Splitting
import Phrasebook.Proofs.Value.Unions

/-! A template that is called by an alias does what it does in its own file, as far as the same templates are found there. -/

namespace Phrasebook

/-- An alias without dots is told by a full name, and so is the name behind it. -/
theorem qualified_inj {first second name other : String} (plain : '.' ∉ first.toList) (plain' : '.' ∉ second.toList)
    (same : first ++ "." ++ name = second ++ "." ++ other) : first = second ∧ name = other := by
  have chars : first.toList ++ '.' :: name.toList = second.toList ++ '.' :: other.toList := by
    simpa using congrArg String.toList same
  obtain ⟨aliases, names⟩ := append_cons_inj plain plain' chars
  exact ⟨String.toList_inj.mp aliases, String.toList_inj.mp names⟩

/-- A full name with an alias finds the template of that plain name among those with the alias. -/
theorem find?_qualified {qualifier : String} (plain : '.' ∉ qualifier.toList) (templates : List Template) (name : String) :
    (templates.map fun template => (qualifier ++ "." ++ template.name, template)).find? (·.1 == qualifier ++ "." ++ name) =
      (templates.find? (·.name == name)).map fun template => (qualifier ++ "." ++ template.name, template) := by
  -- Full names with the same alias differ where plain names do.
  have told : ((·.1 == qualifier ++ "." ++ name) ∘ fun template : Template => (qualifier ++ "." ++ template.name, template)) =
      (·.name == name) := by
    funext template
    rw [Function.comp_apply, Bool.eq_iff_iff, beq_iff_eq, beq_iff_eq]
    exact ⟨fun same => (qualified_inj plain plain same).2, fun same => by rw [same]⟩
  rw [List.find?_map, told]

/-- A full name finds nothing among the templates with another alias. -/
theorem find?_qualified_of_ne {qualifier other : String} (plain : '.' ∉ qualifier.toList) (plain' : '.' ∉ other.toList)
    (differ : other ≠ qualifier) (templates : List Template) (name : String) :
    (templates.map fun template => (other ++ "." ++ template.name, template)).find? (·.1 == qualifier ++ "." ++ name) = none := by
  refine List.find?_eq_none.mpr fun pair among same => ?_
  obtain ⟨template, _, rfl⟩ := List.mem_map.mp among
  exact differ (qualified_inj plain' plain (beq_iff_eq.mp same)).1

namespace Collection

variable {collection : Collection}

/-- A name finds the template of that plain name, or else the first one with that full name. -/
theorem get?_registry (collection : Collection) (name : String) :
    collection.registry.get? name =
      (collection.allTemplates.find? (·.name == name) <|> (collection.aliasedTemplates.find? (·.1 == name)).map (·.2)) := by
  have empty : SortedMap.IsSorted ([] : Registry) := List.Pairwise.nil
  have whole := SortedMap.get?_unite
    (collection.allTemplates.map (fun template => (template.name, template)) ++ collection.aliasedTemplates) empty name
  have plain : (collection.allTemplates.map fun template => (template.name, template)).find? (·.1 == name) =
      (collection.allTemplates.find? (·.name == name)).map fun template => (template.name, template) := by
    rw [List.find?_map]
    rfl
  rw [List.find?_append, plain] at whole
  refine Eq.trans whole ?_
  cases collection.allTemplates.find? (·.name == name) <;> rfl

/-- Another file of the load sees the same files. -/
@[simp] theorem fileOf_focus (collection : Collection) (id other : String) :
    (collection.focus id).fileOf other = collection.fileOf other :=
  rfl

/-- A plain name calls the template of the first file that defines one, among those that share their names. -/
theorem get?_registry_of_first {name id : String} {before after : List String} {template : Template}
    (files : collection.merged = before ++ id :: after)
    (others : ∀ other ∈ before, (collection.fileOf other).template? name = none)
    (defined : (collection.fileOf id).template? name = some template) : collection.registry.get? name = some template := by
  have found : collection.allTemplates.find? (·.name == name) = some template := by
    have passed : before.findSome? (fun other => (collection.fileOf other).template? name) = none :=
      List.findSome?_eq_none_iff.mpr others
    rw [allTemplates, find?_firstByKey List.not_mem_nil, List.find?_flatMap, files, List.findSome?_append, List.findSome?_cons]
    simp only [LoadedFile.template?] at passed defined
    rw [passed, defined]
    rfl
  rw [get?_registry, found]
  rfl

/-- A template that shares the names of a file is called from there by its name. -/
theorem get?_registry_of_mem_allTemplates {template : Template} (inside : template ∈ collection.allTemplates) :
    collection.registry.get? template.name = some template := by
  rw [get?_registry, show collection.allTemplates.find? (·.name == template.name) = some template from
    find?_of_mem_firstByKey inside]
  rfl

/-- A file that another one calls by an alias is imported by it. -/
theorem leads_of_mem_linkedNamed {id : String} {reference : String × String} (inside : reference ∈ collection.linkedNamed id) :
    collection.Leads id reference.2 :=
  .single (List.mem_append_right _ (List.mem_map_of_mem inside))

/-- The aliases that a file gives are those of its links. -/
theorem exists_link_of_mem_linkedNamed {id : String} {reference : String × String}
    (inside : reference ∈ collection.linkedNamed id) :
    ∃ link ∈ (collection.fileOf id).links, link.qualifier = some reference.1 := by
  rcases List.mem_append.mp inside with imports | cycles
  · obtain ⟨link, among, named⟩ := List.mem_filterMap.mp imports
    refine ⟨link, among, ?_⟩
    split at named
    · cases named
    · obtain ⟨qualifier, aliased, rfl⟩ := Option.map_eq_some_iff.mp named
      exact aliased
  · obtain ⟨link, among, named⟩ := List.mem_filterMap.mp cycles
    refine ⟨link, among, ?_⟩
    split at named
    · obtain ⟨qualifier, aliased, rfl⟩ := Option.map_eq_some_iff.mp named
      exact aliased
    · cases named

/-- The aliases by which the templates of other files are called are identifiers. -/
theorem IsLoaded.isIdentifier_alias (loaded : collection.IsLoaded) {id : String} {reference : String × String}
    (inside : reference ∈ collection.linkedNamed id) : IsIdentifier reference.1 := by
  obtain ⟨link, among, aliased⟩ := exists_link_of_mem_linkedNamed inside
  cases found : collection.graph.file? id with
  | none => simp [fileOf, found] at among
  | some file =>
    have read := loaded.isOfText found
    have same : collection.fileOf id = file := by simp [fileOf, found]
    -- The link has the alias of an import line.
    obtain ⟨entry, imported, named⟩ := read.links link (same ▸ among)
    exact TemplateFile.isIdentifier_of_mem_parse (read.imports ▸ imported) (named.trans aliased)

/-- There are no dots in the aliases by which the templates of other files are called. -/
theorem IsLoaded.dot_not_mem_alias (loaded : collection.IsLoaded) {id : String} {reference : String × String}
    (inside : reference ∈ collection.linkedNamed id) : '.' ∉ reference.1.toList :=
  (loaded.isIdentifier_alias inside).dot_not_mem

/-- A character that neither starts nor continues a name does not stand in the names by which templates can be called, unless it
    is the dot behind an alias. -/
theorem IsLoaded.not_mem_of_mem_registry (loaded : collection.IsLoaded) {c : Char} (noName : isNameChar c = false)
    (noStart : startsIdentifier c = false) (noLetter : continuesIdentifier c = false) (noDot : c ≠ '.') {name : String}
    {template : Template} (inside : (name, template) ∈ collection.registry) : c ∉ name.toList := by
  have unspelled {id : String} {template : Template} (defined : template ∈ (collection.fileOf id).templates) :
      c ∉ template.name.toList := by
    intro there
    rw [(loaded.isRead defined).spelled c there] at noName
    cases noName
  rcases mem_of_mem_foldl_insertNew inside with among | before
  · rcases List.mem_append.mp among with plain | aliased
    · obtain ⟨_, shared, same⟩ := List.mem_map.mp plain
      obtain ⟨rfl, rfl⟩ := Prod.mk.inj same
      obtain ⟨id, _, defined⟩ := exists_of_mem_allTemplates shared
      exact unspelled defined
    · obtain ⟨⟨qualifier, target⟩, named, among⟩ := List.mem_flatMap.mp aliased
      obtain ⟨own, shared, same⟩ := List.mem_map.mp among
      obtain ⟨rfl, -⟩ := Prod.mk.inj same
      obtain ⟨id, _, defined⟩ := exists_of_mem_allTemplates shared
      obtain ⟨importer, _, linked⟩ := List.mem_flatMap.mp (mem_of_mem_firstByKey named)
      have before : c ∉ qualifier.toList := (loaded.isIdentifier_alias linked).not_mem noStart noLetter
      have behind : c ∉ own.name.toList := unspelled defined
      simp [before, behind, noDot]
  · cases before

/-- The first file with an alias is the one that the alias leads to. -/
theorem find?_allNamedReferences {qualifier target : String}
    (first : (collection.linkedNamed collection.id).find? (·.1 == qualifier) = some (qualifier, target)) :
    collection.allNamedReferences.find? (·.1 == qualifier) = some (qualifier, target) := by
  obtain ⟨others, merged⟩ := Graph.exists_reachable_eq_cons collection.graph collection.id
  rw [allNamedReferences, find?_firstByKey List.not_mem_nil, Collection.merged, merged, List.flatMap_cons, List.find?_append,
    first]
  rfl

/-- Where an entry is found among others that give nothing, the first result is what it gives. -/
theorem findSome?_of_find? {α β : Type} {entries : List α} {wanted : α → Bool} {gives : α → Option β} {entry : α} {result : β}
    (found : entries.find? wanted = some entry) (given : gives entry = some result)
    (others : ∀ other ∈ entries, wanted other = false → gives other = none) : entries.findSome? gives = some result := by
  induction entries with
  | nil => cases found
  | cons head rest ih =>
    rw [List.find?_cons] at found
    split at found
    · cases found
      simp [given]
    · rename_i unwanted
      rw [List.findSome?_cons, others head List.mem_cons_self unwanted]
      exact ih found fun other inside => others other (List.mem_cons_of_mem head inside)

/-- A template of a file with an alias is called by the alias and its name, unless a template has that plain name. -/
theorem IsLoaded.get?_registry_qualified (loaded : collection.IsLoaded) {qualifier target : String}
    (first : (collection.linkedNamed collection.id).find? (·.1 == qualifier) = some (qualifier, target)) {template : Template}
    (defined : template ∈ (collection.focus target).allTemplates)
    (unshadowed : ∀ other ∈ collection.allTemplates, other.name ≠ qualifier ++ "." ++ template.name) :
    collection.registry.get? (qualifier ++ "." ++ template.name) = some template := by
  have plain : collection.allTemplates.find? (·.name == qualifier ++ "." ++ template.name) = none :=
    List.find?_eq_none.mpr fun other inside => by simpa using unshadowed other inside
  have found := find?_allNamedReferences first
  have undotted : ∀ reference ∈ collection.allNamedReferences, '.' ∉ reference.1.toList := by
    intro reference inside
    obtain ⟨id, _, named⟩ := List.mem_flatMap.mp (mem_of_mem_firstByKey inside)
    exact loaded.dot_not_mem_alias named
  have undotted' := undotted _ (List.mem_of_find?_eq_some found)
  have aliased : collection.aliasedTemplates.find? (·.1 == qualifier ++ "." ++ template.name) =
      some (qualifier ++ "." ++ template.name, template) := by
    rw [aliasedTemplates, List.find?_flatMap]
    refine findSome?_of_find? found ?_ ?_
    · have first : (collection.focus target).allTemplates.find? (·.name == template.name) = some template :=
        find?_of_mem_firstByKey defined
      rw [find?_qualified undotted', first]
      rfl
    · rintro ⟨other, id⟩ inside differ
      exact find?_qualified_of_ne undotted' (undotted _ inside) (by simpa using differ) _ _
  rw [get?_registry, plain, aliased]
  rfl

/-- What a collection without errors imports has no errors either. -/
theorem errors_focus (sound : collection.errors = []) {target : String} (leads : collection.Leads collection.id target) :
    (collection.focus target).errors = [] := by
  rw [errors, List.filter_eq_nil_iff] at sound ⊢
  intro finding inside
  obtain ⟨id, further, found⟩ := mem_allFindings_iff.mp inside
  exact sound finding (mem_allFindings (leads.trans further) found)

/-- The environment of a collection, given that it has no errors. -/
def environment (collection : Collection) (options : Options) (files : FileTree) (functions : FunctionTable) : Environment :=
  -- Given options come before those of its file.
  ⟨collection.registry, options.orElse collection.file.evaluationOptions, collection.id, files, functions⟩

/-- The environment of a collection has its registry. -/
@[simp] theorem registry_environment (options : Options) (files : FileTree) (functions : FunctionTable) :
    (collection.environment options files functions).registry = collection.registry :=
  rfl

/-- A collection without errors is evaluated in its environment. -/
theorem environment_eq (sound : collection.errors = []) (options : Options) (files : FileTree) (functions : FunctionTable) :
    Environment.of collection options files functions = .ok (collection.environment options files functions) := by
  rw [Environment.of, sound]
  rfl

/-- The templates of files that a loaded collection imports are called by names without an exclamation mark. -/
theorem IsLoaded.splitRerun_of_get?_registry (loaded : collection.IsLoaded) {name : String} {template : Template}
    (found : collection.registry.get? name = some template) : splitRerun name = (name, false) :=
  splitRerun_of_mem_registry (fun _ _ defined => loaded.isRead defined) (SortedMap.mem_of_get? found)

end Collection

/-- **Templates behave under an alias as in their own file.** In a collection without errors, a template of a file that is imported
    by an alias gives the same values under its full name as by its plain name in the collection of that file, and fails in both
    cases or in neither: provided that no plain name hides the full one, that the options in effect are the same, and that all
    that the template leads to is found alike from both files and calls the template under neither name. -/
theorem evaluate_qualified {collection : Collection} (loaded : collection.IsLoaded) (sound : collection.errors = [])
    {qualifier target : String}
    (first : (collection.linkedNamed collection.id).find? (·.1 == qualifier) = some (qualifier, target)) {template : Template}
    (defined : template ∈ (collection.focus target).allTemplates)
    (unshadowed : ∀ other ∈ collection.allTemplates, other.name ≠ qualifier ++ "." ++ template.name)
    {options : Options} {files : FileTree} {functions : FunctionTable}
    (same : options.orElse collection.file.evaluationOptions =
      options.orElse (collection.focus target).file.evaluationOptions)
    (resolves : (collection.environment options files functions).ResolvesLike
      ((collection.focus target).environment options files functions) (qualifier ++ "." ++ template.name) template.name) :
    Environment.of collection options files functions = .ok (collection.environment options files functions) ∧
      Environment.of (collection.focus target) options files functions =
        .ok ((collection.focus target).environment options files functions) ∧
      ∀ scope picks value,
        ((evaluate (collection.environment options files functions) (qualifier ++ "." ++ template.name) scope).ending {} picks).result
            = .ok value ↔
          ((evaluate ((collection.focus target).environment options files functions) template.name scope).ending {} picks).result
            = .ok value := by
  have leads := Collection.leads_of_mem_linkedNamed (List.mem_of_find?_eq_some first)
  have loaded' : (collection.focus target).IsLoaded := loaded
  have found₁ := loaded.get?_registry_qualified first defined unshadowed
  have found₂ := Collection.get?_registry_of_mem_allTemplates defined
  refine ⟨Collection.environment_eq sound options files functions,
    Collection.environment_eq (Collection.errors_focus sound leads) options files functions, fun scope picks => ?_⟩
  exact (evaluate_mirrors resolves rfl same (found₁.trans found₂.symm) (loaded.splitRerun_of_get?_registry found₁)
    (loaded'.splitRerun_of_get?_registry found₂) scope picks).ok_iff

/-- A file that calls a template by an alias, which calls one that both files import. -/
def postcard : Collection :=
  -- The mark is one of two, picked at random.
  (Collection.load (.table [("marks.lg", "# mark\n- !\n- ?"),
    ("card.lg", "[marks](marks.lg)\n# hello(n)\n- Hi $\x7bn\x7d$\x7bmark()\x7d")])
    "[marks](marks.lg)\n[card](card.lg) as card\n# top\n- $\x7bcard.hello('Ann')\x7d" "root.lg").root

/-- Both files of the postcard find the same mark. -/
theorem postcard_mark : postcard.registry.get? "mark" = (postcard.focus "card.lg").registry.get? "mark" := by
  obtain ⟨present, here, there, root, card⟩ : ((postcard.fileOf "marks.lg").template? "mark").isSome = true ∧
      ((postcard.fileOf "root.lg").template? "mark").isNone = true ∧
      ((postcard.fileOf "card.lg").template? "mark").isNone = true ∧ postcard.merged = ["root.lg"] ++ "marks.lg" :: [] ∧
      (postcard.focus "card.lg").merged = ["card.lg"] ++ "marks.lg" :: [] := by decide +kernel
  obtain ⟨mark, defined⟩ := Option.isSome_iff_exists.mp present
  rw [Collection.get?_registry_of_first root (by simpa using here) defined,
    Collection.get?_registry_of_first card (by simpa using there) (by rw [Collection.fileOf_focus, defined])]

/-- What the greeting of the postcard leads to is found alike from both files. -/
theorem postcard_resolvesLike :
    (postcard.environment {} {} []).ResolvesLike ((postcard.focus "card.lg").environment {} {} []) "card.hello" "hello" := by
  have names : ((postcard.focus "card.lg").environment {} {} []).callNames = [("hello", "mark")] := by decide +kernel
  have held {caller name : String} {args : List Expression}
      (holds : ((postcard.focus "card.lg").environment {} {} []).Holds caller name args) : name = "mark" := by
    have listed := holds.mem_callNames
    rw [names, List.mem_singleton] at listed
    exact (Prod.mk.inj listed).2
  have unmarked : splitRerun "mark" = ("mark", false) := by decide +kernel
  have called {args : List Expression} {callee : String} (may : mayCall "mark" args callee) : callee = "mark" := by
    rwa [mayCall_iff_of_ne (by decide), unmarked] at may
  refine ⟨?_, ?_, ?_⟩
  · intro caller name args _ holds
    rw [held holds]
    decide +kernel
  · intro caller name args callee _ holds asked
    obtain rfl := held holds
    rcases asked with may | ⟨tests, _⟩
    · rw [called may, Collection.registry_environment, Collection.registry_environment, postcard_mark]
    · exact absurd tests (by decide)
  · rintro caller callee _ ⟨name, args, holds, may⟩
    obtain rfl := held holds
    rw [called may]
    decide

/-- The greeting of the postcard gives the same under both of its names. -/
theorem postcard_hello :
    postcard.IsLoaded ∧ postcard.errors = [] ∧
      (postcard.linkedNamed postcard.id).find? (·.1 == "card") = some ("card", "card.lg") ∧
      (postcard.focus "card.lg").allTemplates.map (·.name) = ["hello", "mark"] ∧
      (∀ other ∈ postcard.allTemplates, other.name ≠ "card.hello") ∧
      (∀ scope picks value,
        ((evaluate (postcard.environment {} {} []) "card.hello" scope).ending {} picks).result = .ok value ↔
          ((evaluate ((postcard.focus "card.lg").environment {} {} []) "hello" scope).ending {} picks).result = .ok value) ∧
      ((evaluate (postcard.environment {} {} []) "card.hello" (.ofValue (.obj [("n", .str "Ann")]))).ending {}
        [1]).result.toOption.map Value.text = some "Hi Ann?" := by
  have loaded : postcard.IsLoaded := ⟨_, _, _, rfl⟩
  obtain ⟨clean, first, names, unshadowed, same, greeted⟩ : postcard.errors.length = 0 ∧
      (postcard.linkedNamed postcard.id).find? (·.1 == "card") = some ("card", "card.lg") ∧
      (postcard.focus "card.lg").allTemplates.map (·.name) = ["hello", "mark"] ∧
      (∀ other ∈ postcard.allTemplates, other.name ≠ "card.hello") ∧
      Options.orElse {} postcard.file.evaluationOptions =
        Options.orElse {} (postcard.focus "card.lg").file.evaluationOptions ∧
      ((evaluate (postcard.environment {} {} []) "card.hello" (.ofValue (.obj [("n", .str "Ann")]))).ending {}
        [1]).result.toOption.map Value.text = some "Hi Ann?" := by
    decide +kernel
  have sound : postcard.errors = [] := List.eq_nil_of_length_eq_zero clean
  obtain ⟨hello, defined, named⟩ : ∃ hello ∈ (postcard.focus "card.lg").allTemplates, hello.name = "hello" :=
    List.mem_map.mp (names ▸ List.mem_cons_self)
  have full : "card" ++ "." ++ hello.name = "card.hello" := by
    rw [named]
    decide +kernel
  have resolves : (postcard.environment {} {} []).ResolvesLike ((postcard.focus "card.lg").environment {} {} [])
      ("card" ++ "." ++ hello.name) hello.name := by
    rw [full, named]
    exact postcard_resolvesLike
  have alike := evaluate_qualified loaded sound first defined (by rwa [full]) same resolves
  rw [full, named] at alike
  exact ⟨loaded, sound, first, names, unshadowed, alike.2.2, greeted⟩

/-- A file that calls templates by an alias which lead to others, call themselves, or rely on the options of their own file. -/
def estranged : Collection :=
  -- One of them stands in a third file, which both of the others import.
  (Collection.load (.table [("twice.lg", "# again\n- $\x7bagain()\x7d\n- done"),
    ("d.lg", "[twice](twice.lg)\n> !# @replaceNull = -\n# hi\n- $\x7bname()\x7d\n\n# name\n- Bob\n\n# gap\n- $\x7bgone\x7d")])
    "[twice](twice.lg)\n[d](d.lg) as d\n# top\n- x" "root.lg").root

/-- Under an alias, templates miss others of their file, run a second time inside themselves, and have other options. -/
theorem estranged_differs :
    estranged.IsLoaded ∧ estranged.errors = [] ∧
      (estranged.linkedNamed estranged.id).find? (·.1 == "d") = some ("d", "d.lg") ∧
      estranged.allTemplates.map (·.name) = ["top", "again"] ∧
      (estranged.focus "d.lg").allTemplates.map (·.name) = ["hi", "name", "gap", "again"] ∧
      ((estranged.focus "d.lg").environment {} {} []).callNames = [("again", "again"), ("hi", "name")] ∧
      (((evaluate (estranged.environment {} {} []) "d.hi" (.ofValue .null)).ending {} []).result.toOption.map Value.text = none ∧
        ((evaluate ((estranged.focus "d.lg").environment {} {} []) "hi" (.ofValue .null)).ending {} []).result.toOption.map
          Value.text = some "Bob") ∧
      (((evaluate (estranged.environment {} {} []) "d.again" (.ofValue .null)).ending {} [0, 1]).result.toOption.map
          Value.text = some "done" ∧
        ((evaluate ((estranged.focus "d.lg").environment {} {} []) "again" (.ofValue .null)).ending {} [0, 1]).result.toOption.map
          Value.text = none) ∧
      ((evaluate (estranged.environment {} {} []) "d.gap" (.ofValue .null)).ending {} []).result.toOption.map Value.text =
          some "null" ∧
        ((evaluate ((estranged.focus "d.lg").environment {} {} []) "gap" (.ofValue .null)).ending {} []).result.toOption.map
          Value.text = some "-" := by
  refine ⟨⟨_, _, _, rfl⟩, List.eq_nil_of_length_eq_zero ?_, ?_⟩ <;> decide +kernel

end Phrasebook
