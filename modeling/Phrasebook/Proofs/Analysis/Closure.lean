import Mathlib.Logic.Relation
import Phrasebook.Proofs.Analysis.Coverage
import Phrasebook.Proofs.Collection.Loaded

/-! The analysis of a template is the closure of the calls between templates. -/

namespace Phrasebook

open Relation

/-- Whether a template of a registry calls another one, as far as the forms of its calls tell. -/
def Registry.Calls (registry : Registry) (caller callee : String) : Prop :=
  -- The function that takes a template's name tells it by a literal, and stands for no template itself.
  registry.has callee = true ∧ ∃ template, registry.get? caller = some template ∧
    ∃ embedded ∈ template.expressions, ∃ name args, .call name args ∈ embedded.expression.nodes ∧
      (name ≠ "template" ∧ (splitRerun name).1 = callee ∨
        (splitRerun name).1 = "template" ∧ ∃ rest, args = .literal (.str callee) :: rest)

/-- Whether a template looks at a path of the data. -/
def Template.LooksAt (template : Template) (path : String) : Prop :=
  -- Chains of members count as a whole, unless they start with a parameter.
  ∃ embedded ∈ template.expressions, ∃ part, embedded.expression.HoldsChain part ∧ part.staticPath? = some path ∧
    part.root ∉ template.parameters

section Walk

variable (registry : Registry)

/-- Whether a template of a registry mentions another one. -/
def Registry.Mentions (caller callee : String) : Prop :=
  -- What is mentioned has been told by one visit.
  ∃ template, registry.get? caller = some template ∧ callee ∈ (template.mentions registry).templates

/-- An analysis tells nothing twice. -/
theorem Template.distinct_dependenciesWithin (depth : Nat) (active : List String) (template : Template) :
    (template.dependenciesWithin registry depth active).Distinct := by
  cases depth with
  | zero => exact ⟨.nil, .nil⟩
  | succ depth =>
    rw [dependenciesWithin_succ]
    exact Dependencies.foldl_withCallee_induction _ _ _ (Dependencies.distinct_mentions registry template)
      fun _ distinct _ _ _ _ _ => distinct.union _

/-- Whether dependencies tell nothing but what a template leads to. -/
structure Dependencies.FoundFrom (registry : Registry) (name : String) (found : Dependencies) : Prop where
  /-- Every template is reached by mentions. -/
  templates : ∀ callee ∈ found.templates, TransGen registry.Mentions name callee
  /-- Every path is mentioned in the template or in one that is reached. -/
  paths : ∀ path ∈ found.paths, ∃ member template, ReflTransGen registry.Mentions name member ∧
    registry.get? member = some template ∧ path ∈ (template.mentions registry).paths

variable {registry} in
/-- What a mentioned template leads to is what the template leads to. -/
theorem Dependencies.FoundFrom.union {name through : String} {found further : Dependencies} (from' : found.FoundFrom registry name)
    (mentioned : registry.Mentions name through) (from'' : further.FoundFrom registry through) :
    (found.union further).FoundFrom registry name := by
  constructor
  · intro callee inside
    rcases mem_foldl_addNew.mp inside with before | added
    · exact from'.templates callee before
    · exact .head mentioned (from''.templates callee added)
  · intro path inside
    rcases mem_foldl_addNew.mp inside with before | added
    · exact from'.paths path before
    · obtain ⟨member, template, leads, rest⟩ := from''.paths path added
      exact ⟨member, template, .head mentioned leads, rest⟩

/-- An analysis tells nothing but what its template leads to. -/
theorem Template.foundFrom_dependenciesWithin (depth : Nat) (active : List String) {name : String} {template : Template}
    (defined : registry.get? name = some template) :
    (template.dependenciesWithin registry depth active).FoundFrom registry name := by
  induction depth generalizing active name template with
  | zero => exact ⟨nofun, nofun⟩
  | succ depth deeper =>
    rw [dependenciesWithin_succ]
    have own : (template.mentions registry).FoundFrom registry name :=
      ⟨fun callee inside => .single ⟨template, defined, inside⟩, fun path inside => ⟨name, template, .refl, defined, inside⟩⟩
    refine Dependencies.foldl_withCallee_induction registry active _ own ?_
    intro found from' through mentioned _ callee reached
    exact from'.union ⟨template, defined, mentioned⟩ (deeper (through :: active) reached)

/-- An analysis is the same however deep it may go, if it may go deeper than there are templates. -/
theorem Template.dependenciesWithin_eq (depth depth' : Nat) (active : List String) (template : Template)
    (distinct : active.Nodup) (known : active ⊆ registry.keys) (deep : registry.length < depth + active.length)
    (deep' : registry.length < depth' + active.length) :
    template.dependenciesWithin registry depth active = template.dependenciesWithin registry depth' active := by
  -- So many different templates cannot be active that none is left.
  have fewer := SortedMap.length_le_of_subset_keys distinct known
  induction depth generalizing depth' active template with
  | zero => omega
  | succ depth deeper =>
    cases depth' with
    | zero => omega
    | succ depth' =>
      rw [dependenciesWithin_succ, dependenciesWithin_succ]
      refine List.foldl_ext _ _ _ fun found name _ => ?_
      unfold Dependencies.withCallee
      cases reached : registry.get? name with
      | none => rfl
      | some callee =>
        dsimp only
        split
        · rfl
        · rename_i idle
          have absent : name ∉ active := by simpa using idle
          have known' : (name :: active) ⊆ registry.keys :=
            List.cons_subset.mpr ⟨SortedMap.mem_keys_of_get? reached, known⟩
          have distinct' : (name :: active).Nodup := List.nodup_cons.mpr ⟨absent, distinct⟩
          rw [deeper depth' (name :: active) callee distinct' known' (by rw [List.length_cons]; omega)
            (by rw [List.length_cons]; omega) (SortedMap.length_le_of_subset_keys distinct' known')]

variable {registry} in
/-- The dependencies of a template are the templates that it leads to. -/
theorem Registry.mem_templates_of_analyze {name : String} (plain : (splitRerun name).1 = name) {found : Dependencies}
    (analyzed : registry.analyze name = .ok found) {callee : String} (leads : TransGen registry.Mentions name callee) :
    callee ∈ found.templates := by
  induction leads with
  | single mentioned =>
    obtain ⟨template, defined, inside⟩ := mentioned
    exact (within_of_analyze analyzed (.inl plain.symm) defined).templates inside
  | tail _ mentioned later =>
    obtain ⟨template, defined, inside⟩ := mentioned
    exact (within_of_analyze analyzed (.inr later) defined).templates inside

end Walk

/-- Relations that agree on all that is reached reach the same. -/
theorem transGen_iff_of_agree {α : Type} {r s : α → α → Prop} {start : α}
    (agree : ∀ middle, ReflTransGen s start middle → ∀ last, r middle last ↔ s middle last) {last : α} :
    TransGen r start last ↔ TransGen s start last := by
  constructor
  · intro leads
    induction leads with
    | single edge => exact .single ((agree start .refl _).mp edge)
    | tail _ edge later => exact later.tail ((agree _ later.to_reflTransGen _).mp edge)
  · intro leads
    induction leads with
    | single edge => exact .single ((agree start .refl _).mpr edge)
    | tail before edge later => exact later.tail ((agree _ before.to_reflTransGen _).mpr edge)

/-- What a template mentions is what it calls, unless it calls a template named like the function with an exclamation mark. -/
theorem Registry.mentions_iff_calls {registry : Registry} {caller : String}
    (unshadowed : registry.has "template" = true → ∀ template, registry.get? caller = some template →
      ∀ embedded ∈ template.expressions, ∀ node ∈ embedded.expression.nodes, node.rerunsTemplate = false) (callee : String) :
    registry.Mentions caller callee ↔ registry.Calls caller callee := by
  constructor
  · rintro ⟨template, defined, inside⟩
    obtain ⟨embedded, among, node, part, called⟩ := Dependencies.mem_templates_mentions.mp inside
    cases node with
    | call name args =>
      obtain ⟨named, known⟩ := Option.filter_eq_some_iff.mp called
      refine ⟨known, template, defined, embedded, among, name, args, part, ?_⟩
      simp only [callTarget?] at named
      split at named
      · rename_i function
        split at named
        · obtain rfl := Option.some.inj named
          exact .inr ⟨by simpa using function, _, rfl⟩
        · cases named
      · rename_i other
        obtain rfl := Option.some.inj named
        exact .inl ⟨fun same => other (by rw [same]; decide), rfl⟩
    | _ => cases called
  · rintro ⟨known, template, defined, embedded, among, name, args, part, named⟩
    refine ⟨template, defined, Dependencies.mem_templates_mentions.mpr ⟨embedded, among, _, part, ?_⟩⟩
    rw [Expression.callee?, Option.filter_eq_some_iff]
    refine ⟨?_, known⟩
    unfold callTarget?
    rcases named with ⟨other, rfl⟩ | ⟨function, rest, rfl⟩
    · by_cases function : (splitRerun name).1 = "template"
      · -- The mark would make it a call of a template named like the function.
        have absent := unshadowed (function ▸ known) template defined embedded among _ part
        simp [Expression.rerunsTemplate, (eq_or_eq_append_of_splitRerun function).resolve_left other] at absent
      · simp [function]
    · simp [function]

/-- The paths that a template mentions are those that it looks at, where names are identifiers. -/
theorem Template.looksAt_iff {registry : Registry} {template : Template} (named : AllWellNamed template.expressions) (path : String) :
    path ∈ (template.mentions registry).paths ↔ template.LooksAt path := by
  have root {embedded : Embedded} (among : embedded ∈ template.expressions) {part : Expression}
      (inside : part ∈ embedded.expression.paths) (chain : part.staticPath? = some path) : pathRoot path = part.root := by
    have parts := (Expression.of_mem_paths inside).2
    have named : part.WellNamed := fun node within => named embedded among node (parts within)
    exact (Expression.pathValue_eq_getPath? (.ofValue .null) named chain).2
  rw [Dependencies.mem_paths_mentions]
  constructor
  · rintro ⟨free, embedded, among, part, inside, chain⟩
    exact ⟨embedded, among, part, Expression.mem_paths_iff.mp inside, chain, root among inside chain ▸ free⟩
  · rintro ⟨embedded, among, part, holds, chain, free⟩
    have inside := Expression.mem_paths_iff.mpr holds
    exact ⟨root among inside chain ▸ free, embedded, among, part, inside, chain⟩

/-- **Analysis is the closure of the calls between templates.** The analysis of a template of a collection without errors comes
    to an end, however deep it may go. It tells, each of them once, the templates that are reached by one call or several, and
    the paths that the template or one of those looks at. The function that takes a template's name stands for no template of
    that name; where there is one, no template that is reached may call it with an exclamation mark. -/
theorem analyze_isClosure {collection : Collection} (loaded : collection.IsLoaded) (sound : collection.errors = [])
    {name : String} {template : Template} (defined : collection.registry.get? name = some template)
    (unshadowed : collection.registry.has "template" = true → ∀ member, ReflTransGen collection.registry.Calls name member →
      ∀ template, collection.registry.get? member = some template → ∀ embedded ∈ template.expressions,
        ∀ node ∈ embedded.expression.nodes, node.rerunsTemplate = false) :
    ∃ found, collection.analyze name = .ok found ∧
      (∀ depth, collection.registry.length < depth →
        template.dependenciesWithin collection.registry depth [name] = found) ∧
      found.templates.Nodup ∧ (∀ callee, callee ∈ found.templates ↔ TransGen collection.registry.Calls name callee) ∧
      found.paths.Nodup ∧ ∀ path, path ∈ found.paths ↔ ∃ member, (member = name ∨ member ∈ found.templates) ∧
        ∃ template, collection.registry.get? member = some template ∧ template.LooksAt path := by
  have plain : (splitRerun name).1 = name := by
    rw [Collection.splitRerun_of_mem_registry (fun id template listed => loaded.isRead listed) (SortedMap.mem_of_get? defined)]
  have named {member : String} {template : Template} (defined : collection.registry.get? member = some template) :
      AllWellNamed template.expressions := by
    obtain ⟨id, _, _, listed, _⟩ := Collection.exists_of_mem_registry (SortedMap.mem_of_get? defined)
    exact (loaded.isRead listed).named
  generalize whole : template.dependenciesWithin collection.registry (collection.registry.length + 1) [name] = found
  have analyzed : collection.registry.analyze name = .ok found := by
    simp only [Registry.analyze, plain, defined, whole]
  have distinct := template.distinct_dependenciesWithin collection.registry (collection.registry.length + 1) [name]
  have from' := Template.foundFrom_dependenciesWithin collection.registry (collection.registry.length + 1) [name] defined
  rw [whole] at distinct from'
  have leads (callee : String) : callee ∈ found.templates ↔ TransGen collection.registry.Mentions name callee :=
    ⟨from'.templates callee, Registry.mem_templates_of_analyze plain analyzed⟩
  have known : [name] ⊆ collection.registry.keys :=
    List.cons_subset.mpr ⟨SortedMap.mem_keys_of_get? defined, List.nil_subset _⟩
  refine ⟨found, by simpa only [Collection.analyze, sound] using analyzed, fun depth deep => ?_, distinct.templates,
    fun callee => ?_, distinct.paths, fun path => ⟨fun inside => ?_, ?_⟩⟩
  · rw [← whole]
    exact template.dependenciesWithin_eq collection.registry depth _ [name] (List.pairwise_singleton _ _) known
      (Nat.lt_succ_of_lt deep) (Nat.lt_succ_of_lt (Nat.lt_succ_self _))
  · rw [leads, transGen_iff_of_agree fun member reached =>
      Registry.mentions_iff_calls fun shadowed => unshadowed shadowed member reached]
  · obtain ⟨member, template, reached, defined, mentioned⟩ := from'.paths path inside
    refine ⟨member, ?_, template, defined, (Template.looksAt_iff (named defined) path).mp mentioned⟩
    rcases reflTransGen_iff_eq_or_transGen.mp reached with same | further
    · exact .inl same
    · exact .inr ((leads member).mpr further)
  · rintro ⟨member, reached, template, defined, looks⟩
    have within := Registry.within_of_analyze analyzed (plain.symm ▸ reached) defined
    exact within.paths ((Template.looksAt_iff (named defined) path).mpr looks)

/-- A file with two templates that call each other, and one that is called by its name as a text. -/
def carousel : Collection :=
  -- Some of the data are looked at through parameters.
  .ofText "# a(x)\n- $\x7bx.y\x7d $\x7bp.q[0]\x7d $\x7bb(r)\x7d\n\n# b(z)\n- $\x7ba!(z)\x7d $\x7btemplate('c')\x7d\n\n# c\n- $\x7bs\x7d"

/-- The analysis of a template that calls itself through another one. -/
theorem carousel_isClosure :
    carousel.IsLoaded ∧ carousel.errors = [] ∧ (∃ template, carousel.registry.get? "a" = some template) ∧
      carousel.registry.has "template" = false ∧ carousel.analyze "a" = .ok ⟨["p.q", "r", "s"], ["b", "a", "c"]⟩ ∧
      (∀ callee, callee ∈ ["b", "a", "c"] ↔ TransGen carousel.registry.Calls "a" callee) ∧
      ∀ path, path ∈ ["p.q", "r", "s"] ↔ ∃ member, (member = "a" ∨ member ∈ ["b", "a", "c"]) ∧
        ∃ template, carousel.registry.get? member = some template ∧ template.LooksAt path := by
  have loaded : carousel.IsLoaded := ⟨_, _, _, rfl⟩
  obtain ⟨clean, present, plain, told⟩ : carousel.errors.length = 0 ∧ (carousel.registry.get? "a").isSome = true ∧
      carousel.registry.has "template" = false ∧
      (carousel.analyze "a").toOption = some ⟨["p.q", "r", "s"], ["b", "a", "c"]⟩ := by
    decide +kernel
  have sound : carousel.errors = [] := List.eq_nil_of_length_eq_zero clean
  have defined : ∃ template, carousel.registry.get? "a" = some template := Option.isSome_iff_exists.mp present
  have analyzed : carousel.analyze "a" = .ok ⟨["p.q", "r", "s"], ["b", "a", "c"]⟩ := eq_ok_of_toOption told
  have ⟨template, given⟩ := defined
  obtain ⟨found, same, _, _, templates, _, paths⟩ :=
    analyze_isClosure loaded sound given (fun shadowed => by simp [plain] at shadowed)
  obtain rfl := Except.ok.inj (analyzed.symm.trans same)
  exact ⟨loaded, sound, defined, plain, analyzed, templates, paths⟩

/-- A file with a template that is named like the function, and with a call of the function. -/
def namesake : Collection :=
  -- The call names another template.
  .ofText "# template(x)\n- hi\n\n# t\n- $\x7btemplate('other')\x7d\n\n# other\n- ho"

/-- A call of the function is none of a template that is named like it. -/
theorem namesake_isLeftOut :
    namesake.IsLoaded ∧ namesake.errors = [] ∧ namesake.registry.has "template" = true ∧
      (∃ template, namesake.registry.get? "t" = some template ∧ ∃ embedded ∈ template.expressions,
        ∃ args, .call "template" args ∈ embedded.expression.nodes) ∧
      ∃ found, namesake.analyze "t" = .ok found ∧ "template" ∉ found.templates := by
  obtain ⟨clean, told, shadowed, called⟩ : namesake.errors.length = 0 ∧
      (namesake.analyze "t").toOption = some ⟨[], ["other"]⟩ ∧ namesake.registry.has "template" = true ∧
      (namesake.registry.get? "t").map (fun template => (callsOf template.expressions).any (·.1 == "template")) =
        some true := by
    decide +kernel
  have sound : namesake.errors = [] := List.eq_nil_of_length_eq_zero clean
  have analyzed : namesake.analyze "t" = .ok ⟨[], ["other"]⟩ := eq_ok_of_toOption told
  obtain ⟨template, defined, called⟩ := Option.map_eq_some_iff.mp called
  obtain ⟨⟨name, args⟩, held, same⟩ := List.any_eq_true.mp called
  obtain rfl : name = "template" := by simpa using same
  obtain ⟨embedded, among, node⟩ := mem_callsOf_iff.mp held
  exact ⟨⟨_, _, _, rfl⟩, sound, shadowed, ⟨template, defined, embedded, among, args, node⟩, _, analyzed, by decide⟩

end Phrasebook
