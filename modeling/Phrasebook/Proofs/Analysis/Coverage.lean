import Phrasebook.Proofs.Expression.Paths

/-! Analysis covers everything that is mentioned in a template, or in one that it leads to. -/

namespace Phrasebook

/-- The template of a registry that an expression calls, if its form tells it. -/
def Expression.callee? (registry : Registry) : Expression → Option String
  -- Only calls call anything.
  | .call name args => (callTarget? name args).filter registry.has
  | _ => none

/-- Whether a part of an expression calls, with an exclamation mark, a template named like the function. -/
def Expression.rerunsTemplate (node : Expression) : Bool :=
  -- The function itself is never called with the mark.
  match node with
  | .call name _ => name == "template!"
  | _ => false

namespace Dependencies

/-- Whether some dependencies are all among others. -/
structure Within (fewer more : Dependencies) : Prop where
  /-- The paths are. -/
  paths : fewer.paths ⊆ more.paths
  /-- The templates are. -/
  templates : fewer.templates ⊆ more.templates

/-- Dependencies are among themselves. -/
theorem Within.refl (found : Dependencies) : found.Within found :=
  ⟨fun _ inside => inside, fun _ inside => inside⟩

/-- What is among some is among more. -/
theorem Within.trans {few more most : Dependencies} (first : few.Within more) (second : more.Within most) :
    few.Within most :=
  ⟨List.Subset.trans first.paths second.paths, List.Subset.trans first.templates second.templates⟩

/-- A name that is added is there afterwards, and so are those that were there before. -/
theorem mem_addNew {names : List String} {name other : String} :
    other ∈ addNew names name ↔ other ∈ names ∨ other = name := by
  unfold addNew
  split
  · rename_i known
    simp only [List.contains_iff_mem] at known
    refine ⟨.inl, fun either => ?_⟩
    rcases either with before | rfl
    · exact before
    · exact known
  · simp

/-- The names that are there after some have been added are those before and the added ones. -/
theorem mem_foldl_addNew {added names : List String} {other : String} :
    other ∈ added.foldl addNew names ↔ other ∈ names ∨ other ∈ added := by
  induction added generalizing names with
  | nil => simp
  | cons name rest ih =>
    rw [List.foldl_cons, ih, mem_addNew, List.mem_cons, or_assoc]

/-- Adding a name repeats none. -/
theorem nodup_addNew {names : List String} (distinct : names.Nodup) (name : String) : (addNew names name).Nodup := by
  unfold addNew
  split
  · exact distinct
  · rename_i unknown
    have absent : name ∉ names := by simpa using unknown
    rw [List.nodup_append]
    refine ⟨distinct, List.pairwise_singleton _ _, fun other inside last among same => absent ?_⟩
    rwa [← List.mem_singleton.mp among, ← same]

/-- Adding names repeats none. -/
theorem nodup_foldl_addNew {names : List String} (distinct : names.Nodup) (added : List String) :
    (added.foldl addNew names).Nodup := by
  induction added generalizing names with
  | nil => exact distinct
  | cons name rest later => exact later (nodup_addNew distinct name)

/-- Whether dependencies tell nothing twice. -/
structure Distinct (found : Dependencies) : Prop where
  /-- No path comes twice. -/
  paths : found.paths.Nodup
  /-- No template comes twice. -/
  templates : found.templates.Nodup

/-- Dependencies together tell nothing twice. -/
theorem Distinct.union {left : Dependencies} (distinct : left.Distinct) (right : Dependencies) : (left.union right).Distinct :=
  ⟨nodup_foldl_addNew distinct.paths _, nodup_foldl_addNew distinct.templates _⟩

/-- The first dependencies are among the union. -/
theorem within_union_left (left right : Dependencies) : left.Within (left.union right) :=
  ⟨fun _ inside => mem_foldl_addNew.mpr (.inl inside), fun _ inside => mem_foldl_addNew.mpr (.inl inside)⟩

/-- The second dependencies are among the union. -/
theorem within_union_right (left right : Dependencies) : right.Within (left.union right) :=
  ⟨fun _ inside => mem_foldl_addNew.mpr (.inr inside), fun _ inside => mem_foldl_addNew.mpr (.inr inside)⟩

/-- Dependencies with the paths of some chains of members and the templates that some parts call. -/
def told (registry : Registry) (found : Dependencies) (chains nodes : List Expression) : Dependencies :=
  -- What is there already is not added again.
  ⟨(chains.filterMap Expression.staticPath?).foldl addNew found.paths,
    (nodes.filterMap (Expression.callee? registry)).foldl addNew found.templates⟩

section Told

variable (registry : Registry) (found : Dependencies)

/-- Telling one thing after another is telling all of them. -/
theorem told_append (chains chains' nodes nodes' : List Expression) :
    found.told registry (chains ++ chains') (nodes ++ nodes') = (found.told registry chains nodes).told registry chains' nodes' := by
  simp only [told, List.filterMap_append, List.foldl_append]

/-- The paths that are told are those before and those of the chains. -/
theorem mem_paths_told {chains nodes : List Expression} {path : String} :
    path ∈ (found.told registry chains nodes).paths ↔
      path ∈ found.paths ∨ ∃ part ∈ chains, part.staticPath? = some path := by
  rw [told, mem_foldl_addNew, List.mem_filterMap]

/-- The templates that are told are those before and those that the parts call. -/
theorem mem_templates_told {chains nodes : List Expression} {name : String} :
    name ∈ (found.told registry chains nodes).templates ↔
      name ∈ found.templates ∨ ∃ node ∈ nodes, node.callee? registry = some name := by
  rw [told, mem_foldl_addNew, List.mem_filterMap]

/-- Visiting several expressions is visiting one after another. -/
theorem visitItems_eq (items : List Expression) : visitItems registry found items = items.foldl (visit registry) found := by
  induction items generalizing found with
  | nil => rfl
  | cons item rest later => rw [visitItems, later, List.foldl_cons]

/-- Visiting the values of object entries is visiting one after another. -/
theorem visitEntries_eq (entries : List (String × Expression)) :
    visitEntries registry found entries = (entries.map (·.2)).foldl (visit registry) found := by
  induction entries generalizing found with
  | nil => rfl
  | cons entry rest later => rw [visitEntries, later, List.map_cons, List.foldl_cons]

/-- Visiting an expression that is no chain of members tells what it calls and visits its immediate parts. -/
theorem visit_of_children {expression : Expression} (none : expression.staticPath? = none) :
    visit registry found expression =
      expression.children.foldl (visit registry) (found.told registry [] [expression]) := by
  unfold visit
  rw [none]
  cases expression with
  | call name args =>
    have called : Expression.callee? registry (.call name args) = (callTarget? name args).filter registry.has := rfl
    dsimp only
    rw [visitItems_eq]
    refine congrArg (fun start => args.foldl (visit registry) start) ?_
    rw [told, List.filterMap_cons, called]
    cases callTarget? name args with
    | none => rfl
    | some target => by_cases known : registry.has target = true <;> simp [Option.filter, known]
  | array items => exact visitItems_eq registry found items
  | object entries => exact visitEntries_eq registry found entries
  | literal | «variable» | member | index | unary | binary => rfl

/-- Visiting an expression tells its chains of members and what its parts call. -/
theorem visit_eq (expression : Expression) :
    visit registry found expression = found.told registry expression.paths expression.nodes := by
  induction expression using Expression.inductionOnChildren generalizing found with
  | whole expression later =>
  cases chain : expression.staticPath? with
  | some path =>
    -- A chain calls nothing.
    have calls : expression.nodes.filterMap (Expression.callee? registry) = [] := by
      refine List.filterMap_eq_nil_iff.mpr fun node inside => ?_
      have chained := Expression.staticPath?_isSome_of_mem_nodes (by simp [chain]) inside
      cases node with
      | call name args => simp [Expression.staticPath?] at chained
      | _ => rfl
    unfold visit
    rw [told, Expression.paths_of_chain chain, calls, List.filterMap_cons, chain]
    rfl
  | none =>
    have visits (start : Dependencies) : ∀ items : List Expression, (∀ item ∈ items, item ∈ expression.children) →
        items.foldl (visit registry) start =
          start.told registry (items.flatMap Expression.paths) (items.flatMap Expression.nodes) := by
      intro items among
      induction items generalizing start with
      | nil => rfl
      | cons item rest others =>
        obtain ⟨here, there⟩ := List.forall_mem_cons.mp among
        rw [List.foldl_cons, later item here, others _ there, List.flatMap_cons, List.flatMap_cons, told_append]
    rw [visit_of_children registry found chain, visits _ _ fun _ inside => inside, ← told_append,
      Expression.paths_of_children chain, Expression.nodes_eq expression]
    rfl

/-- Visiting several expressions tells the chains of members of each and what their parts call. -/
theorem foldl_visit_eq (expressions : List Expression) : expressions.foldl (visit registry) found =
    found.told registry (expressions.flatMap Expression.paths) (expressions.flatMap Expression.nodes) := by
  induction expressions generalizing found with
  | nil => rfl
  | cons expression rest later =>
    rw [List.foldl_cons, later, visit_eq, ← told_append, List.flatMap_cons, List.flatMap_cons]

end Told

/-- Whether dependencies tell all that the expressions of a template mention, its own parameters left out. -/
structure Covers (found : Dependencies) (registry : Registry) (template : Template) : Prop where
  /-- Every chain of members is told by its path, unless it starts with a parameter. -/
  paths : ∀ embedded ∈ template.expressions, ∀ part ∈ embedded.expression.paths, ∀ path, part.staticPath? = some path →
    path ∈ found.paths ∨ pathRoot path ∈ template.parameters
  /-- Every call of a template is told by the name of the template. -/
  templates : ∀ embedded ∈ template.expressions, ∀ name args, .call name args ∈ embedded.expression.nodes →
    ∀ target, callTarget? name args = some target → registry.has target = true → target ∈ found.templates

variable {registry : Registry}

/-- More dependencies cover as much. -/
theorem Covers.of_within {found more : Dependencies} {template : Template} (covers : found.Covers registry template)
    (within : found.Within more) : more.Covers registry template := by
  refine ⟨fun embedded among part inside path chain => ?_, fun embedded among name args inside target named known => ?_⟩
  · rcases covers.paths embedded among part inside path chain with told | parameter
    · exact .inl (within.paths told)
    · exact .inr parameter
  · exact within.templates (covers.templates embedded among name args inside target named known)

/-- Something holds of a part of some items if it does of a part of one of them. -/
theorem exists_mem_flatMap {α β : Type} {items : List α} {parts : α → List β} {Holds : β → Prop} :
    (∃ part ∈ items.flatMap parts, Holds part) ↔ ∃ item ∈ items, ∃ part ∈ parts item, Holds part := by
  constructor
  · rintro ⟨part, inside, holds⟩
    obtain ⟨item, among, within⟩ := List.mem_flatMap.mp inside
    exact ⟨item, among, part, within, holds⟩
  · rintro ⟨item, among, part, within, holds⟩
    exact ⟨part, List.mem_flatMap.mpr ⟨item, among, within⟩, holds⟩

/-- A template mentions the paths of its chains of members whose roots are no parameters. -/
theorem mem_paths_mentions {template : Template} {path : String} :
    path ∈ (template.mentions registry).paths ↔ pathRoot path ∉ template.parameters ∧
      ∃ embedded ∈ template.expressions, ∃ part ∈ embedded.expression.paths, part.staticPath? = some path := by
  rw [Template.mentions, foldl_visit_eq]
  rw [List.mem_filter, mem_paths_told, and_comm, exists_mem_flatMap]
  simp

/-- A template mentions the templates that it calls. -/
theorem mem_templates_mentions {template : Template} {name : String} :
    name ∈ (template.mentions registry).templates ↔
      ∃ embedded ∈ template.expressions, ∃ node ∈ embedded.expression.nodes, node.callee? registry = some name := by
  rw [Template.mentions, foldl_visit_eq]
  rw [mem_templates_told, exists_mem_flatMap]
  simp

/-- A template mentions nothing twice. -/
theorem distinct_mentions (registry : Registry) (template : Template) : (template.mentions registry).Distinct := by
  rw [Template.mentions, foldl_visit_eq]
  exact ⟨(nodup_foldl_addNew .nil _).filter _, nodup_foldl_addNew .nil _⟩

/-- What a template mentions covers it. -/
theorem mentions_covers (registry : Registry) (template : Template) :
    (template.mentions registry).Covers registry template := by
  constructor
  · intro embedded among part inside path chain
    by_cases parameter : pathRoot path ∈ template.parameters
    · exact .inr parameter
    · exact .inl (mem_paths_mentions.mpr ⟨parameter, embedded, among, part, inside, chain⟩)
  · intro embedded among name args inside target named known
    have called : Expression.callee? registry (.call name args) = some target := by
      rw [Expression.callee?, named, Option.filter_some, if_pos known]
    exact mem_templates_mentions.mpr ⟨embedded, among, _, inside, called⟩

end Dependencies

namespace Dependencies

/-- Dependencies together with those of a callee, unless it is being analyzed already. -/
def withCallee (registry : Registry) (active : List String) (callees : String → Template → Dependencies)
    (dependencies : Dependencies) (name : String) : Dependencies :=
  -- A name that no template has adds nothing.
  match registry.get? name with
  | some callee => if active.contains name then dependencies else dependencies.union (callees name callee)
  | none => dependencies

variable (registry : Registry) (active : List String) (callees : String → Template → Dependencies)

/-- A callee adds its dependencies and nothing else. -/
theorem withCallee_spec (start : Dependencies) (name : String) :
    start.Within (withCallee registry active callees start name) ∧
      (name ∉ active → ∀ callee, registry.get? name = some callee →
        (callees name callee).Within (withCallee registry active callees start name)) ∧
      ∀ other ∈ (withCallee registry active callees start name).templates, other ∈ start.templates ∨
        name ∉ active ∧ ∃ callee, registry.get? name = some callee ∧ other ∈ (callees name callee).templates := by
  unfold withCallee
  cases found : registry.get? name with
  | none => exact ⟨.refl start, nofun, fun other inside => .inl inside⟩
  | some callee =>
    dsimp only
    split
    · rename_i running
      have known : name ∈ active := by simpa using running
      exact ⟨.refl start, fun absent => absurd known absent, fun other inside => .inl inside⟩
    · rename_i idle
      have absent : name ∉ active := by simpa using idle
      refine ⟨within_union_left _ _, fun _ other same => ?_, fun other inside => ?_⟩
      · obtain rfl := Option.some.inj same
        exact within_union_right _ _
      · rcases mem_foldl_addNew.mp inside with before | added
        · exact .inl before
        · exact .inr ⟨absent, callee, rfl, added⟩

/-- What holds of some dependencies, and goes on to hold with those of a callee, holds with those of several. -/
theorem foldl_withCallee_induction {Holds : Dependencies → Prop} {names : List String} {start : Dependencies} (holds : Holds start)
    (union : ∀ found, Holds found → ∀ name ∈ names, name ∉ active → ∀ callee, registry.get? name = some callee →
      Holds (found.union (callees name callee))) : Holds (names.foldl (withCallee registry active callees) start) := by
  induction names generalizing start with
  | nil => exact holds
  | cons name rest later =>
    obtain ⟨here, others⟩ := List.forall_mem_cons.mp fun name inside found holds => union found holds name inside
    refine later ?_ fun found holds other inside => others other inside found holds
    unfold withCallee
    cases defined : registry.get? name with
    | none => exact holds
    | some callee =>
      dsimp only
      split
      · exact holds
      · rename_i idle
        exact here start holds (by simpa using idle) callee defined

/-- Several callees add their dependencies and nothing else. -/
theorem foldl_withCallee_spec (names : List String) (start : Dependencies) :
    start.Within (names.foldl (withCallee registry active callees) start) ∧
      (∀ name ∈ names, name ∉ active → ∀ callee, registry.get? name = some callee →
        (callees name callee).Within (names.foldl (withCallee registry active callees) start)) ∧
      ∀ other ∈ (names.foldl (withCallee registry active callees) start).templates, other ∈ start.templates ∨
        ∃ name ∈ names, name ∉ active ∧ ∃ callee, registry.get? name = some callee ∧
          other ∈ (callees name callee).templates := by
  induction names generalizing start with
  | nil => exact ⟨.refl start, nofun, fun other inside => .inl inside⟩
  | cons head rest ih =>
    obtain ⟨within, added, only⟩ := withCallee_spec registry active callees start head
    obtain ⟨within', added', only'⟩ := ih (withCallee registry active callees start head)
    rw [List.foldl_cons]
    refine ⟨within.trans within', fun name inside absent callee found => ?_, fun other inside => ?_⟩
    · rcases List.mem_cons.mp inside with rfl | later
      · exact (added absent callee found).trans within'
      · exact added' name later absent callee found
    · rcases only' other inside with before | ⟨name, later, rest⟩
      · rcases only other before with first | here
        · exact .inl first
        · exact .inr ⟨head, List.mem_cons_self, here⟩
      · exact .inr ⟨name, List.mem_cons_of_mem head later, rest⟩

end Dependencies

/-- One level of an analysis: what the template mentions, and the dependencies of its callees. -/
theorem Template.dependenciesWithin_succ (registry : Registry) (depth : Nat) (active : List String)
    (template : Template) :
    template.dependenciesWithin registry (depth + 1) active =
      (template.mentions registry).templates.foldl
        (Dependencies.withCallee registry active fun name callee =>
          callee.dependenciesWithin registry depth (name :: active))
        (template.mentions registry) :=
  -- The callees are analyzed with one more template active.
  rfl

/-- An analysis contains what its template mentions, and what every template in it mentions that was not active. -/
theorem Template.dependenciesWithin_closed (registry : Registry) (depth : Nat) (active : List String)
    (template : Template) (distinct : active.Nodup) (known : active ⊆ registry.keys)
    (deep : registry.length < depth + active.length) :
    (template.mentions registry).Within (template.dependenciesWithin registry depth active) ∧
      ∀ name ∈ (template.dependenciesWithin registry depth active).templates, name ∉ active →
        ∀ callee, registry.get? name = some callee →
          (callee.mentions registry).Within (template.dependenciesWithin registry depth active) := by
  induction depth generalizing active template with
  | zero =>
    -- So many different templates cannot be active.
    have fewer := SortedMap.length_le_of_subset_keys distinct known
    omega
  | succ depth deeper =>
    rw [Template.dependenciesWithin_succ]
    obtain ⟨within, added, only⟩ := Dependencies.foldl_withCallee_spec registry active
      (fun name callee => callee.dependenciesWithin registry depth (name :: active))
      (template.mentions registry).templates (template.mentions registry)
    -- The callees that are not active are analyzed with one more template active and one level less.
    have callees (name : String) (absent : name ∉ active) (callee : Template)
        (found : registry.get? name = some callee) := by
      have known' : (name :: active) ⊆ registry.keys :=
        List.cons_subset.mpr ⟨SortedMap.mem_keys_of_get? found, known⟩
      have distinct' : (name :: active).Nodup := List.nodup_cons.mpr ⟨absent, distinct⟩
      have deep' : registry.length < depth + (name :: active).length := by
        rw [List.length_cons]
        omega
      exact deeper (name :: active) callee distinct' known' deep'
    refine ⟨within, fun name inside absent callee found => ?_⟩
    rcases only name inside with mentioned | ⟨through, mentioned, absent', caller, found', later⟩
    · exact (callees name absent callee found).1.trans (added name mentioned absent callee found)
    · have sub := added through mentioned absent' caller found'
      by_cases same : name = through
      · obtain rfl := same
        obtain rfl := Option.some.inj (found.symm.trans found')
        exact (callees name absent callee found).1.trans sub
      · have absent'' : name ∉ through :: active := by simp [same, absent]
        exact ((callees through absent' caller found').2 name later absent'' callee found).trans sub

/-- The dependencies of a template hold what the template mentions, and what every template among them does. -/
theorem Registry.within_of_analyze {registry : Registry} {name : String} {found : Dependencies}
    (analyzed : registry.analyze name = .ok found) {member : String}
    (reached : member = (splitRerun name).1 ∨ member ∈ found.templates) {template : Template}
    (defined : registry.get? member = some template) : (template.mentions registry).Within found := by
  simp only [Registry.analyze] at analyzed
  cases start : registry.get? (splitRerun name).1 with
  | none => simp [start] at analyzed
  | some root =>
    rw [start] at analyzed
    obtain rfl := Except.ok.inj analyzed
    have known : [(splitRerun name).1] ⊆ registry.keys :=
      List.cons_subset.mpr ⟨SortedMap.mem_keys_of_get? start, List.nil_subset _⟩
    obtain ⟨own, others⟩ := root.dependenciesWithin_closed registry (registry.length + 1) [(splitRerun name).1]
      (List.pairwise_singleton _ _) known (Nat.lt_succ_of_lt (Nat.lt_succ_self _))
    by_cases same : member = (splitRerun name).1
    · subst same
      obtain rfl := Option.some.inj (start.symm.trans defined)
      exact own
    · exact others member (reached.resolve_left same) (by simpa using same) template defined

/-- The dependencies of a template cover the template, and every template among them. -/
theorem Registry.covers_of_analyze {registry : Registry} {name : String} {found : Dependencies}
    (analyzed : registry.analyze name = .ok found) {member : String}
    (reached : member = (splitRerun name).1 ∨ member ∈ found.templates) {template : Template}
    (defined : registry.get? member = some template) : found.Covers registry template :=
  (Dependencies.mentions_covers registry template).of_within (Registry.within_of_analyze analyzed reached defined)

end Phrasebook
