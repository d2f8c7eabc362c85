import Phrasebook.Analysis
import Phrasebook.Proofs.Evaluation.Congruence
import Phrasebook.Proofs.Expression.Everywhere
import Phrasebook.Proofs.Expression.Names
import Phrasebook.Proofs.Expression.Shape
import Phrasebook.Proofs.Reading.Splitting

/-! The value of a chain of members is what its dotted path names. -/

namespace Phrasebook

namespace Scope

/-- A path without dots is a name. -/
theorem getPath?_of_dot_not_mem (scope : Scope) {name : String} (plain : '.' ∉ name.toList) :
    scope.getPath? name = scope.get? name := by
  simp [getPath?, splitAt_of_not_mem plain]

/-- The last segment of a path steps into the value that the path before it names. -/
theorem getPath?_member (scope : Scope) (path : String) {property : String} (plain : '.' ∉ property.toList) :
    scope.getPath? (path ++ "." ++ property) = (scope.getPath? path).bind (step? · property) := by
  have chars : (path ++ "." ++ property).toList = path.toList ++ '.' :: property.toList := by
    simp [String.toList_append]
  rw [getPath?, getPath?, chars, splitAt_append, splitAt_of_not_mem plain]
  cases parts : splitAt '.' path.toList with
  | nil => exact absurd parts (splitAt_ne_nil '.' path.toList)
  | cons first rest => simp [List.foldl_append]

end Scope

/-- An identifier steps into objects only. -/
theorem IsIdentifier.step?_eq_field? {name : String} (identifier : IsIdentifier name) (value : Value) :
    Scope.step? value name = value.field? name := by
  cases value <;> simp [Scope.step?, Value.field?, identifier.readNat?_eq_none]

/-- The root of a path is the root of the path before its last segment. -/
theorem pathRoot_member (path property : String) : pathRoot (path ++ "." ++ property) = pathRoot path := by
  have takes : ∀ chars : List Char,
      (chars ++ '.' :: property.toList).takeWhile (· != '.') = chars.takeWhile (· != '.') := by
    intro chars
    induction chars with
    | nil => simp
    | cons c rest ih => by_cases dot : (c != '.') = true <;> simp_all
  have chars : (path ++ "." ++ property).toList = path.toList ++ '.' :: property.toList := by
    simp [String.toList_append]
  rw [pathRoot, pathRoot, chars, takes]

/-- A path without dots is its own root. -/
theorem pathRoot_of_dot_not_mem {name : String} (plain : '.' ∉ name.toList) : pathRoot name = name := by
  have all : name.toList.takeWhile (· != '.') = name.toList := by
    refine List.takeWhile_eq_self_iff.mpr fun c inside => ?_
    have other : c ≠ '.' := fun same => plain (same ▸ inside)
    simpa using other
  rw [pathRoot, all, String.ofList_toList]

namespace Expression

/-- The variable at the start of a chain of members. -/
def root : Expression → String
  -- All other expressions have none.
  | .variable name => name
  | .member target _ => root target
  | _ => ""

/-- Scopes that agree on the first variable of a chain of members give the chain the same value. -/
theorem pathValue_congr {scope₁ scope₂ : Scope} (expression : Expression)
    (same : scope₁.get? expression.root = scope₂.get? expression.root) :
    expression.pathValue scope₁ = expression.pathValue scope₂ := by
  induction expression using root.induct with
  | case1 name => simpa [pathValue, root] using congrArg (·.getD .null) same
  | case2 target property ih => simp [pathValue, ih same]
  | case3 other noVariable noMember => simp [pathValue]

/-- A well-named chain of members has the value that its path names, and starts with the root of the path. -/
theorem pathValue_eq_getPath? (scope : Scope) {expression : Expression} (named : expression.WellNamed) {path : String}
    (chain : expression.staticPath? = some path) :
    expression.pathValue scope = (scope.getPath? path).getD .null ∧ pathRoot path = expression.root := by
  induction expression using staticPath?.induct generalizing path with
  | case1 name =>
    obtain rfl := Option.some.inj chain
    have identifier : IsIdentifier name := named (.variable name) (by simp [nodes])
    have plain := identifier.dot_not_mem
    rw [scope.getPath?_of_dot_not_mem plain, pathRoot_of_dot_not_mem plain]
    exact ⟨rfl, rfl⟩
  | case2 target property ih =>
    simp only [staticPath?, Option.map_eq_some_iff] at chain
    obtain ⟨shorter, chain, rfl⟩ := chain
    have identifier : IsIdentifier property := named (.member target property) (by simp [nodes])
    have part : target.WellNamed := fun node inside => named node (by simp [nodes, inside])
    obtain ⟨value, start⟩ := ih part chain
    rw [scope.getPath?_member shorter identifier.dot_not_mem, pathRoot_member]
    refine ⟨?_, start⟩
    rw [pathValue, value]
    -- A part of nothing is null, and so is a part of null.
    cases scope.getPath? shorter with
    | none => rfl
    | some found => simp [identifier.step?_eq_field?]
  | case3 other noVariable noMember => simp [staticPath?] at chain

/-- Whether an expression comes to a value by itself, without a failure and without a call. -/
def HasValue (expression : Expression) (scope : Scope) (value : Value) : Prop :=
  -- Whatever a host does shows in some monad, and what any host fails with differs from the value in some.
  ∀ {m : Type → Type} [Monad m] [LawfulMonad m] (host : Host m), expression.eval host scope = pure value

/--
A chain of members that was read has the value which its dotted path names, and is null where the path names nothing.

No host is asked for it, and no scope makes it fail.
-/
theorem hasValue_getPath? {source : String} {expression : Expression} (accepted : Expression.parse source = .ok expression)
    {path : String} (chain : expression.staticPath? = some path) (scope : Scope) :
    expression.HasValue scope ((scope.getPath? path).getD .null) := by
  intro m _ _ host
  have isChain : expression.staticPath?.isSome := by simp [chain]
  rw [eval_of_staticPath host scope expression isChain,
    (pathValue_eq_getPath? scope (wellNamed_of_parse accepted) chain).1]

/-- A guest whose name is given twice, once with a city and once with a list of companions. -/
def guestScope : Scope where
  globals := .obj [("guest", .obj [("city", .str "Lisbon")]), ("host", .obj [("city", .str "Porto")])]
  locals := some [("guest", .arr [.obj [("city", .str "Faro")]])]

/-- A text from which a path is read is read as a chain of members. -/
theorem exists_chain_of_path {source path : String}
    (reads : (Expression.parse source).toOption.bind staticPath? = some path) :
    ∃ expression, Expression.parse source = .ok expression ∧ expression.staticPath? = some path := by
  cases accepted : Expression.parse source with
  | error error => simp [accepted, Except.toOption] at reads
  | ok expression => exact ⟨expression, rfl, by simpa [accepted, Except.toOption] using reads⟩

/-- A local name hides a global one with all its parts, and a list has no part of any name. -/
theorem guestScope_city :
    (∃ expression, Expression.parse "(guest).city" = .ok expression ∧ expression.staticPath? = some "guest.city" ∧
      expression.HasValue guestScope .null) ∧
    ∃ expression, Expression.parse "host.city" = .ok expression ∧ expression.staticPath? = some "host.city" ∧
      expression.HasValue guestScope (.str "Porto") := by
  obtain ⟨hidden, accepted₁, chain₁⟩ := exists_chain_of_path
    (by decide +kernel : (Expression.parse "(guest).city").toOption.bind staticPath? = some "guest.city")
  obtain ⟨inherited, accepted₂, chain₂⟩ := exists_chain_of_path
    (by decide +kernel : (Expression.parse "host.city").toOption.bind staticPath? = some "host.city")
  have absent : guestScope.getPath? "guest.city" = none := rfl
  have present : guestScope.getPath? "host.city" = some (.str "Porto") := rfl
  have value₁ : hidden.HasValue guestScope ((guestScope.getPath? "guest.city").getD .null) :=
    hasValue_getPath? accepted₁ chain₁ guestScope
  have value₂ : inherited.HasValue guestScope ((guestScope.getPath? "host.city").getD .null) :=
    hasValue_getPath? accepted₂ chain₂ guestScope
  rw [absent] at value₁
  rw [present] at value₂
  exact ⟨⟨hidden, accepted₁, chain₁, value₁⟩, inherited, accepted₂, chain₂, value₂⟩

/-- The chains of members in several expressions are those of each. -/
theorem pathsOfItems_eq (items : List Expression) : pathsOfItems items = items.flatMap paths := by
  induction items with
  | nil => rfl
  | cons item rest later => rw [pathsOfItems, later, List.flatMap_cons]

/-- The chains of members in the values of entries are those of each. -/
theorem pathsOfEntries_eq (entries : List (String × Expression)) : pathsOfEntries entries = (entries.map (·.2)).flatMap paths := by
  induction entries with
  | nil => rfl
  | cons entry rest later => rw [pathsOfEntries, later, List.map_cons, List.flatMap_cons]

/-- A chain of members holds no chain but itself. -/
theorem paths_of_chain {expression : Expression} {path : String} (chain : expression.staticPath? = some path) :
    expression.paths = [expression] := by
  unfold paths
  rw [chain]

/-- Every other expression holds the chains of its immediate parts. -/
theorem paths_of_children {expression : Expression} (none : expression.staticPath? = none) :
    expression.paths = expression.children.flatMap paths := by
  unfold paths
  rw [none]
  cases expression <;> simp [children, pathsOfItems_eq, pathsOfEntries_eq]

/-- The parts of a chain of members are chains. -/
theorem staticPath?_isSome_of_mem_nodes {expression : Expression} (chain : expression.staticPath?.isSome) {node : Expression}
    (inside : node ∈ expression.nodes) : node.staticPath?.isSome := by
  induction expression using staticPath?.induct with
  | case1 label =>
    obtain rfl := List.mem_singleton.mp inside
    exact chain
  | case2 target property later =>
    rcases List.mem_cons.mp inside with rfl | within
    · exact chain
    · exact later (by simpa [staticPath?] using chain) within
  | case3 other noVariable noMember =>
    have absent : other.staticPath? = none := by simp [staticPath?]
    simp [absent] at chain

/-- Whether an expression holds a chain of members that is no part of a longer one. -/
def HoldsChain (whole part : Expression) : Prop :=
  -- Where the chain is not the whole, it stands right inside something that is no chain.
  part.staticPath?.isSome ∧ (part = whole ∨ ∃ node ∈ whole.nodes, node.staticPath? = none ∧ part ∈ node.children)

/-- The chains of members in an expression are those that are no part of longer ones. -/
theorem mem_paths_iff {whole part : Expression} : part ∈ whole.paths ↔ whole.HoldsChain part := by
  induction whole using inductionOnChildren with
  | whole whole later =>
  cases chain : whole.staticPath? with
  | some path =>
    rw [paths_of_chain chain, List.mem_singleton]
    have chained : whole.staticPath?.isSome := by simp [chain]
    constructor
    · rintro rfl
      exact ⟨chained, .inl rfl⟩
    · rintro ⟨_, same | ⟨node, inside, open', _⟩⟩
      · exact same
      · have among := staticPath?_isSome_of_mem_nodes chained inside
        simp [open'] at among
  | none =>
    rw [paths_of_children chain, List.mem_flatMap]
    constructor
    · rintro ⟨child, inside, found⟩
      obtain ⟨chained, rfl | ⟨node, within, open', among⟩⟩ := (later child inside).mp found
      · exact ⟨chained, .inr ⟨whole, whole.mem_nodes_self, chain, inside⟩⟩
      · exact ⟨chained, .inr ⟨node, nodes_subset_of_mem_children inside within, open', among⟩⟩
    · rintro ⟨chained, rfl | ⟨node, inside, open', among⟩⟩
      · simp [chain] at chained
      · rw [nodes_eq, List.mem_cons, List.mem_flatMap] at inside
        rcases inside with rfl | ⟨child, here, within⟩
        · exact ⟨part, among, (later part among).mpr ⟨chained, .inl rfl⟩⟩
        · exact ⟨child, here, (later child here).mpr ⟨chained, .inr ⟨node, within, open', among⟩⟩⟩

/-- The chains of members in an expression have paths and are made of its parts. -/
theorem of_mem_paths {expression part : Expression} (inside : part ∈ expression.paths) :
    part.staticPath?.isSome ∧ part.nodes ⊆ expression.nodes := by
  obtain ⟨chained, rfl | ⟨node, within, _, among⟩⟩ := mem_paths_iff.mp inside
  · exact ⟨chained, List.Subset.refl _⟩
  · exact ⟨chained, List.Subset.trans (nodes_subset_of_mem_children among) (nodes_subset_of_mem within)⟩

end Expression

end Phrasebook
