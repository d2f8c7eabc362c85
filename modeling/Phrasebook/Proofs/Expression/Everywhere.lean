import Phrasebook.Expression.Basic

/-! A property of an expression and of all its parts is one of each part in turn. -/

namespace Phrasebook

namespace Expression

/-- Whether an expression and all its parts have a property. -/
def Everywhere (Good : Expression → Prop) (expression : Expression) : Prop :=
  -- Parts of parts count as well.
  ∀ node ∈ expression.nodes, Good node

/-- What holds of an expression whenever it holds of its immediate parts holds of all expressions. -/
theorem inductionOnParts {Holds : Expression → Prop} (literal : ∀ value, Holds (.literal value))
    (name : ∀ name, Holds (.variable name)) (member : ∀ target property, Holds target → Holds (.member target property))
    (index : ∀ target key, Holds target → Holds key → Holds (.index target key))
    (call : ∀ name args, (∀ arg ∈ args, Holds arg) → Holds (.call name args))
    (array : ∀ items, (∀ item ∈ items, Holds item) → Holds (.array items))
    (object : ∀ entries, (∀ entry ∈ entries, Holds entry.2) → Holds (.object entries))
    (unary : ∀ op operand, Holds operand → Holds (.unary op operand))
    (binary : ∀ op left right, Holds left → Holds right → Holds (.binary op left right)) (expression : Expression) :
    Holds expression :=
  -- Of a list it is that all items have it, and of an entry that the value has it.
  @Expression.rec Holds (fun items => ∀ item ∈ items, Holds item) (fun entries => ∀ entry ∈ entries, Holds entry.2)
    (fun entry => Holds entry.2) literal name member index call array object unary binary nofun
    (fun _ _ here others => List.forall_mem_cons.mpr ⟨here, others⟩) nofun
    (fun _ _ here others => List.forall_mem_cons.mpr ⟨here, others⟩) (fun _ _ here => here) expression

/-- The immediate parts of an expression. -/
def children : Expression → List Expression
  -- Constants and variables have none.
  | .literal _ => []
  | .variable _ => []
  | .member target _ => [target]
  | .index target key => [target, key]
  | .call _ args => args
  | .array items => items
  | .object entries => entries.map (·.2)
  | .unary _ operand => [operand]
  | .binary _ left right => [left, right]

/-- What holds of an expression whenever it holds of its immediate parts, whatever its form, holds of all expressions. -/
theorem inductionOnChildren {Holds : Expression → Prop}
    (whole : ∀ expression : Expression, (∀ child ∈ expression.children, Holds child) → Holds expression)
    (expression : Expression) : Holds expression := by
  induction expression using inductionOnParts with
  | literal value => exact whole _ nofun
  | name name => exact whole _ nofun
  | member target property here => exact whole _ (List.forall_mem_singleton.mpr here)
  | index target key here there => exact whole _ (List.forall_mem_cons.mpr ⟨here, List.forall_mem_singleton.mpr there⟩)
  | call name args holds => exact whole _ holds
  | array items holds => exact whole _ holds
  | object entries holds => exact whole _ (List.forall_mem_map.mpr holds)
  | unary op operand here => exact whole _ (List.forall_mem_singleton.mpr here)
  | binary op left right here there => exact whole _ (List.forall_mem_cons.mpr ⟨here, List.forall_mem_singleton.mpr there⟩)

/-- The parts of several expressions are those of each. -/
theorem nodesOfItems_eq (items : List Expression) : nodesOfItems items = items.flatMap nodes := by
  induction items with
  | nil => rfl
  | cons item rest later => rw [nodesOfItems, later, List.flatMap_cons]

/-- The parts of the values of entries are those of each. -/
theorem nodesOfEntries_eq (entries : List (String × Expression)) : nodesOfEntries entries = (entries.map (·.2)).flatMap nodes := by
  induction entries with
  | nil => rfl
  | cons entry rest later => rw [nodesOfEntries, later, List.map_cons, List.flatMap_cons]

/-- The parts of an expression are the expression and the parts of its immediate ones. -/
theorem nodes_eq (expression : Expression) : expression.nodes = expression :: expression.children.flatMap nodes := by
  cases expression <;> simp [nodes, children, nodesOfItems_eq, nodesOfEntries_eq]

/-- An expression is a part of itself. -/
theorem mem_nodes_self (expression : Expression) : expression ∈ expression.nodes := by
  rw [nodes_eq]
  exact List.mem_cons_self

/-- Parts of an immediate part are parts. -/
theorem nodes_subset_of_mem_children {child expression : Expression} (inside : child ∈ expression.children) :
    child.nodes ⊆ expression.nodes := by
  intro node within
  rw [nodes_eq expression]
  exact List.mem_cons_of_mem _ (List.mem_flatMap.mpr ⟨child, inside, within⟩)

/-- Parts of a part are parts. -/
theorem nodes_subset_of_mem {node expression : Expression} (inside : node ∈ expression.nodes) : node.nodes ⊆ expression.nodes := by
  induction expression using inductionOnChildren with
  | whole expression later =>
    rw [nodes_eq expression, List.mem_cons, List.mem_flatMap] at inside
    rcases inside with rfl | ⟨child, here, within⟩
    · exact List.Subset.refl _
    · exact List.Subset.trans (later child here within) (nodes_subset_of_mem_children here)

variable {Good : Expression → Prop}

/-- Several expressions have a property everywhere if each of them does. -/
theorem forall_mem_nodesOfItems {items : List Expression} :
    (∀ node ∈ nodesOfItems items, Good node) ↔ ∀ item ∈ items, item.Everywhere Good := by
  induction items with
  | nil => simp [nodesOfItems]
  | cons item rest later =>
    rw [nodesOfItems, List.forall_mem_append, later, List.forall_mem_cons]
    rfl

/-- The values of entries have a property everywhere if each of them does. -/
theorem forall_mem_nodesOfEntries {entries : List (String × Expression)} :
    (∀ node ∈ nodesOfEntries entries, Good node) ↔ ∀ entry ∈ entries, entry.2.Everywhere Good := by
  induction entries with
  | nil => simp [nodesOfEntries]
  | cons entry rest later =>
    rw [nodesOfEntries, List.forall_mem_append, later, List.forall_mem_cons]
    rfl

/-- A constant has no parts. -/
theorem everywhere_literal {value : Value} : (literal value).Everywhere Good ↔ Good (.literal value) :=
  List.forall_mem_singleton

/-- A variable has no parts. -/
theorem everywhere_variable {name : String} : (Expression.variable name).Everywhere Good ↔ Good (.variable name) :=
  List.forall_mem_singleton

/-- The part of a member is its target. -/
theorem everywhere_member {target : Expression} {property : String} :
    (member target property).Everywhere Good ↔ Good (.member target property) ∧ target.Everywhere Good :=
  List.forall_mem_cons

/-- The parts of an index are its target and its key. -/
theorem everywhere_index {target key : Expression} :
    (index target key).Everywhere Good ↔
      Good (.index target key) ∧ target.Everywhere Good ∧ key.Everywhere Good :=
  List.forall_mem_cons.trans (and_congr_right' List.forall_mem_append)

/-- The parts of a call are its arguments. -/
theorem everywhere_call {name : String} {args : List Expression} :
    (call name args).Everywhere Good ↔ Good (.call name args) ∧ ∀ arg ∈ args, arg.Everywhere Good :=
  List.forall_mem_cons.trans (and_congr_right' forall_mem_nodesOfItems)

/-- The parts of a list are its items. -/
theorem everywhere_array {items : List Expression} :
    (array items).Everywhere Good ↔ Good (.array items) ∧ ∀ item ∈ items, item.Everywhere Good :=
  List.forall_mem_cons.trans (and_congr_right' forall_mem_nodesOfItems)

/-- The parts of an object are the values of its entries. -/
theorem everywhere_object {entries : List (String × Expression)} :
    (object entries).Everywhere Good ↔ Good (.object entries) ∧ ∀ entry ∈ entries, entry.2.Everywhere Good :=
  List.forall_mem_cons.trans (and_congr_right' forall_mem_nodesOfEntries)

/-- The part of a unary operator is its operand. -/
theorem everywhere_unary {op : UnaryOp} {operand : Expression} :
    (unary op operand).Everywhere Good ↔ Good (.unary op operand) ∧ operand.Everywhere Good :=
  List.forall_mem_cons

/-- The parts of a binary operator are its operands. -/
theorem everywhere_binary {op : BinaryOp} {left right : Expression} :
    (binary op left right).Everywhere Good ↔
      Good (.binary op left right) ∧ left.Everywhere Good ∧ right.Everywhere Good :=
  List.forall_mem_cons.trans (and_congr_right' List.forall_mem_append)

end Expression

end Phrasebook
