import Phrasebook.Proofs.Evaluation.Congruence
import Phrasebook.Proofs.Evaluation.Runs
import Phrasebook.Proofs.Expression.Everywhere

/-! Arithmetic on signed integers is exact, or it is refused where it is not defined or does not fit. -/

namespace Phrasebook

/-- Whether an operator computes with numbers. -/
def BinaryOp.isArithmetic : BinaryOp → Bool
  -- Comparisons give truth values.
  | .add | .subtract | .multiply | .divide | .modulo => true
  | _ => false

/-- The integer that an arithmetic operator stands for. -/
def BinaryOp.onIntegers : BinaryOp → Int → Int → Int
  -- Quotients are truncated toward zero, and a remainder has the sign of the dividend.
  | .add, left, right => left + right
  | .subtract, left, right => left - right
  | .multiply, left, right => left * right
  | .divide, left, right => left.tdiv right
  | .modulo, left, right => left.tmod right
  | _, _, _ => 0

/-- Whether an arithmetic operator is defined on two signed integers. -/
def BinaryOp.IsDefinedOn (op : BinaryOp) (left right : Int) : Prop :=
  -- The smallest integer has no opposite, so that neither its quotient nor its remainder by minus one is taken.
  match op with
  | .divide | .modulo => right ≠ 0 ∧ ¬(left = Value.minSigned ∧ right = -1)
  | op => Value.fitsSigned (op.onIntegers left right) = true

instance (op : BinaryOp) (left right : Int) : Decidable (op.IsDefinedOn left right) :=
  match op with
  | .divide | .modulo => inferInstanceAs (Decidable (right ≠ 0 ∧ ¬(left = Value.minSigned ∧ right = -1)))
  | .add | .subtract | .multiply | .or | .and | .equal | .notEqual | .less | .lessEqual | .greater | .greaterEqual =>
    inferInstanceAs (Decidable (Value.fitsSigned _ = true))

namespace Value

/-- An integer fits a signed word if it lies between the smallest and the largest one. -/
theorem fitsSigned_iff {n : Int} : fitsSigned n = true ↔ -9223372036854775808 ≤ n ∧ n ≤ 9223372036854775807 := by
  rw [fitsSigned, Bool.and_eq_true, decide_eq_true_iff, decide_eq_true_iff]
  rfl

/-- A truncated quotient fits, unless the smallest integer is divided by minus one. -/
theorem fitsSigned_tdiv {left right : Int} (fits : fitsSigned left = true) (nonzero : right ≠ 0)
    (proper : ¬(left = minSigned ∧ right = -1)) : fitsSigned (left.tdiv right) = true := by
  rw [fitsSigned_iff] at fits ⊢
  have magnitude := Int.natAbs_tdiv left right
  by_cases one : right = 1
  · subst one
    rwa [Int.tdiv_one]
  · by_cases opposite : right = -1
    · subst opposite
      have least : left ≠ -9223372036854775808 := fun same => proper ⟨same, rfl⟩
      rw [Int.tdiv_neg, Int.tdiv_one]
      omega
    · -- All other divisors halve the magnitude at least.
      have half : left.natAbs / right.natAbs ≤ left.natAbs / 2 := Nat.div_le_div_left (by omega) (by decide)
      have whole : (left.tdiv right).natAbs ≤ left.natAbs / 2 := magnitude ▸ half
      omega

/-- A remainder fits. -/
theorem fitsSigned_tmod {left right : Int} (fits : fitsSigned left = true) : fitsSigned (left.tmod right) = true := by
  rw [fitsSigned_iff] at fits ⊢
  have smaller : (left.tmod right).natAbs ≤ left.natAbs := by
    rw [Int.natAbs_tmod]
    exact Nat.mod_le _ _
  have opposite : left ≤ 0 → left.tmod right ≤ 0 := fun negative => by
    have sign := Int.tmod_nonneg right (Int.neg_nonneg_of_nonpos negative)
    rw [Int.neg_tmod] at sign
    omega
  omega

end Value

namespace BinaryOp

variable {op : BinaryOp} {left right : Int}

/-- Where an operator is defined, its integer fits. -/
theorem IsDefinedOn.fits (defined : op.IsDefinedOn left right) (fits : Value.fitsSigned left = true) :
    Value.fitsSigned (op.onIntegers left right) = true := by
  cases op with
  | divide => exact Value.fitsSigned_tdiv fits defined.1 defined.2
  | modulo => exact Value.fitsSigned_tmod fits
  | _ => exact defined

/-- Arithmetic gives the exact integer where it is defined, and is refused elsewhere. -/
theorem integerArithmetic_eq (arithmetic : op.isArithmetic = true) (fits : Value.fitsSigned left = true) :
    integerArithmetic op left right =
      if op.IsDefinedOn left right then .ok (.int (op.onIntegers left right))
      else .error (.mismatch (.outOfRange left op right)) := by
  have guarded : (right == 0 || (left == Value.minSigned && right == -1)) = true ↔
      ¬(right ≠ 0 ∧ ¬(left = Value.minSigned ∧ right = -1)) := by
    simp only [Bool.or_eq_true, Bool.and_eq_true, beq_iff_eq]
    tauto
  by_cases defined : op.IsDefinedOn left right
  · have result := defined.fits fits
    rw [if_pos defined]
    cases op with
    | divide => exact (if_neg (mt guarded.mp (not_not.mpr defined))).trans (if_pos result)
    | modulo => exact (if_neg (mt guarded.mp (not_not.mpr defined))).trans (if_pos result)
    | add => exact if_pos result
    | subtract => exact if_pos result
    | multiply => exact if_pos result
    | _ => cases arithmetic
  · rw [if_neg defined]
    cases op with
    | divide => exact if_pos (guarded.mpr defined)
    | modulo => exact if_pos (guarded.mpr defined)
    | add => exact if_neg defined
    | subtract => exact if_neg defined
    | multiply => exact if_neg defined
    | _ => cases arithmetic

/-- On signed integers, the arithmetic operators of expressions compute with integers and never with floats. -/
theorem applyBinary_int (arithmetic : op.isArithmetic = true) (fits₁ : Value.fitsSigned left = true)
    (fits₂ : Value.fitsSigned right = true) :
    applyBinary op (.int left) (.int right) = integerArithmetic op left right := by
  have signed₁ : (Value.int left).toSigned? = some left := if_pos fits₁
  have signed₂ : (Value.int right).toSigned? = some right := if_pos fits₂
  have integers : Phrasebook.arithmetic op (.int left) (.int right) = integerArithmetic op left right := by
    rw [Phrasebook.arithmetic, signed₁, signed₂]
  cases op with
  | add => exact integers
  | subtract => exact integers
  | multiply => exact integers
  | divide => exact integers
  | modulo => exact integers
  | _ => cases arithmetic

/-- An arithmetic operator does not leave out its right operand. -/
theorem decided?_of_isArithmetic (arithmetic : op.isArithmetic = true) (truth : Bool) : op.decided? truth = none := by
  cases op <;> first | rfl | cases arithmetic

end BinaryOp

/-- Whether nothing follows what a host fails with. -/
def Host.Stops {m : Type → Type} [Monad m] (host : Host m) : Prop :=
  -- A failure is not undone by what would come next.
  ∀ {α β : Type} (error : ExpressionError) (next : α → m β), host.fail error >>= next = host.fail error

/-- A host that supplies no functions. -/
def Host.bare : Host (Except ExpressionError) where
  own _ := none
  registered _ := none
  fail := .error

/-- An expression error ends the evaluation of a template's expression. -/
theorem hostOf_stops (environment : Environment) (calls : Calls Evaluation) : (hostOf environment calls).Stops :=
  fun _ _ => rfl

namespace Expression

/-- Whether an expression is, by itself, a signed integer, a variable bound to one, or an arithmetic operator. -/
def IsIntegral (scope : Scope) : Expression → Prop
  -- Opposites are no arithmetic: that of the smallest integer is a float.
  | .literal value => ∃ n, value = .int n ∧ Value.fitsSigned n = true
  | .variable name => ∃ n, scope.get? name = some (.int n) ∧ Value.fitsSigned n = true
  | .binary op _ _ => op.isArithmetic = true
  | _ => False

/-- The integer that an expression of integers stands for. -/
def integer (scope : Scope) : Expression → Int
  -- Integers of any size take part.
  | .literal (.int n) => n
  | .variable name => match scope.get? name with | some (.int n) => n | _ => 0
  | .binary op left right => op.onIntegers (left.integer scope) (right.integer scope)
  | _ => 0

/-- Whether the operator of an expression, if it has one, is defined on its operands. -/
def IsDefined (scope : Scope) : Expression → Prop
  -- The operands are told by the exact integers.
  | .binary op left right => op.IsDefinedOn (left.integer scope) (right.integer scope)
  | _ => True

instance (scope : Scope) : DecidablePred (IsDefined scope) := fun expression =>
  match expression with
  | .binary op left right => inferInstanceAs (Decidable (op.IsDefinedOn (left.integer scope) (right.integer scope)))
  | .literal _ | .variable _ | .member _ _ | .index _ _ | .call _ _ | .array _ | .object _ | .unary _ _ => .isTrue trivial

/-- Whether a fault tells an operator that is not defined on its operands, which are computed without a fault. -/
def Refuses (scope : Scope) (expression : Expression) (fault : TypeFault) : Prop :=
  -- The operator stands anywhere in the expression.
  ∃ op left right, .binary op left right ∈ expression.nodes ∧
    left.Everywhere (IsDefined scope) ∧ right.Everywhere (IsDefined scope) ∧
    ¬op.IsDefinedOn (left.integer scope) (right.integer scope) ∧
    fault = .outOfRange (left.integer scope) op (right.integer scope)

/-- A fault of an operand is one of the whole. -/
theorem Refuses.of_mem_children {scope : Scope} {child expression : Expression} {fault : TypeFault}
    (refuses : child.Refuses scope fault) (inside : child ∈ expression.children) : expression.Refuses scope fault := by
  obtain ⟨op, left, right, within, rest⟩ := refuses
  exact ⟨op, left, right, nodes_subset_of_mem_children inside within, rest⟩

section Integers

variable {m : Type → Type} [Monad m] [LawfulMonad m] {host : Host m} {scope : Scope} {expression : Expression}

/-- An arithmetic operator whose operands have values that fit computes with them, or is refused. -/
theorem eval_binary_of_eval {op : BinaryOp} {left right : Expression} {n₁ n₂ : Int} (arithmetic : op.isArithmetic = true)
    (value₁ : left.eval host scope = pure (.int n₁)) (fits₁ : Value.fitsSigned n₁ = true)
    (value₂ : right.eval host scope = pure (.int n₂)) (fits₂ : Value.fitsSigned n₂ = true) :
    (binary op left right).eval host scope =
      if op.IsDefinedOn n₁ n₂ then pure (.int (op.onIntegers n₁ n₂))
      else host.fail (.mismatch (.outOfRange n₁ op n₂)) := by
  rw [eval_binary, value₁, pure_bind, BinaryOp.decided?_of_isArithmetic arithmetic]
  dsimp only
  rw [value₂, pure_bind, BinaryOp.applyBinary_int arithmetic fits₁ fits₂, BinaryOp.integerArithmetic_eq arithmetic fits₁]
  split <;> rfl

/-- Where all operators are defined, an expression of integers has its exact integer for its value, which fits. -/
theorem eval_of_isDefined (host : Host m) (integral : expression.Everywhere (IsIntegral scope))
    (defined : expression.Everywhere (IsDefined scope)) :
    expression.eval host scope = pure (.int (expression.integer scope)) ∧
      Value.fitsSigned (expression.integer scope) = true := by
  induction expression using inductionOnParts with
  | literal value =>
    obtain ⟨n, rfl, fits⟩ := everywhere_literal.mp integral
    exact ⟨by rw [eval, integer], fits⟩
  | name name =>
    obtain ⟨n, bound, fits⟩ := everywhere_variable.mp integral
    have same : (Expression.variable name).integer scope = n := by rw [integer, bound]
    rw [eval, bound, same]
    exact ⟨rfl, fits⟩
  | binary op left right first second =>
    obtain ⟨arithmetic, integral₁, integral₂⟩ := everywhere_binary.mp integral
    obtain ⟨(here : op.IsDefinedOn (left.integer scope) (right.integer scope)), defined₁, defined₂⟩ :=
      everywhere_binary.mp defined
    obtain ⟨value₁, fits₁⟩ := first integral₁ defined₁
    obtain ⟨value₂, fits₂⟩ := second integral₂ defined₂
    rw [eval_binary_of_eval arithmetic value₁ fits₁ value₂ fits₂, if_pos here]
    exact ⟨rfl, BinaryOp.IsDefinedOn.fits here fits₁⟩
  | _ => exact absurd (integral _ (mem_nodes_self _)) id

/-- Where an operator is not defined, an expression of integers fails, by an operator whose operands are exact. -/
theorem eval_of_not_isDefined (stops : host.Stops) (integral : expression.Everywhere (IsIntegral scope))
    (undefined : ¬expression.Everywhere (IsDefined scope)) :
    ∃ fault, expression.Refuses scope fault ∧ expression.eval host scope = host.fail (.mismatch fault) := by
  induction expression using inductionOnParts with
  | literal value => exact absurd (everywhere_literal.mpr trivial) undefined
  | name name => exact absurd (everywhere_variable.mpr trivial) undefined
  | binary op left right first second =>
    obtain ⟨arithmetic, integral₁, integral₂⟩ := everywhere_binary.mp integral
    by_cases defined₁ : left.Everywhere (IsDefined scope)
    · obtain ⟨value₁, fits₁⟩ := eval_of_isDefined host integral₁ defined₁
      by_cases defined₂ : right.Everywhere (IsDefined scope)
      · -- Both operands have values, and the operator is refused.
        obtain ⟨value₂, fits₂⟩ := eval_of_isDefined host integral₂ defined₂
        have here : ¬op.IsDefinedOn (left.integer scope) (right.integer scope) :=
          fun here => undefined (everywhere_binary.mpr ⟨here, defined₁, defined₂⟩)
        refine ⟨_, ⟨op, left, right, mem_nodes_self _, defined₁, defined₂, here, rfl⟩, ?_⟩
        rw [eval_binary_of_eval arithmetic value₁ fits₁ value₂ fits₂, if_neg here]
      · -- The left operand has a value, and the right one fails.
        obtain ⟨fault, refuses, failed⟩ := second integral₂ defined₂
        refine ⟨fault, refuses.of_mem_children (List.mem_cons_of_mem _ List.mem_cons_self), ?_⟩
        rw [eval_binary, value₁, pure_bind, BinaryOp.decided?_of_isArithmetic arithmetic]
        dsimp only
        rw [failed, stops]
    · -- The left operand fails, and the right one is not evaluated.
      obtain ⟨fault, refuses, failed⟩ := first integral₁ defined₁
      refine ⟨fault, refuses.of_mem_children List.mem_cons_self, ?_⟩
      rw [eval_binary, failed, stops]
  | _ => exact absurd (integral _ (mem_nodes_self _)) id

/--
Integer arithmetic is exact, or it fails with a type error.

Where every operator of an expression of signed integers is defined on its operands, the value of the expression is its
exact integer, which fits a signed word.
Everywhere else the evaluation fails by such an operator, whose exact operands the error tells.
-/
theorem eval_integers (stops : host.Stops) (integral : expression.Everywhere (IsIntegral scope)) :
    (expression.Everywhere (IsDefined scope) →
      expression.eval host scope = pure (.int (expression.integer scope)) ∧
        Value.fitsSigned (expression.integer scope) = true) ∧
    (¬expression.Everywhere (IsDefined scope) →
      ∃ fault, expression.Refuses scope fault ∧ expression.eval host scope = host.fail (.mismatch fault)) :=
  ⟨eval_of_isDefined host integral, eval_of_not_isDefined stops integral⟩

end Integers

/-- A scope that binds a name to the smallest signed integer. -/
def least : Scope :=
  .ofValue (.obj [("n", .int Value.minSigned)])

/-- Half of the smallest integer and a remainder by a negative divisor. -/
def halfOfLeast : Expression :=
  -- The remainder is positive, because the dividend is.
  .binary .add (.binary .divide (.variable "n") (.literal (.int 2)))
    (.binary .modulo (.literal (.int 7)) (.literal (.int (-4))))

/-- One more than a remainder of the smallest integer by minus one. -/
def remainderOfLeast : Expression :=
  -- The remainder would be zero, and is refused.
  .binary .add (.binary .modulo (.variable "n") (.literal (.int (-1)))) (.literal (.int 1))

/-- Half of the smallest integer is computed, and its remainder by minus one is refused. -/
theorem least_eval :
    Host.bare.Stops ∧ halfOfLeast.Everywhere (IsIntegral least) ∧ remainderOfLeast.Everywhere (IsIntegral least) ∧
      halfOfLeast.eval Host.bare least = .ok (.int (-4611686018427387901)) ∧
      ∃ fault, remainderOfLeast.Refuses least fault ∧ remainderOfLeast.eval Host.bare least = .error (.mismatch fault) := by
  have bound : (Expression.variable "n").Everywhere (IsIntegral least) :=
    everywhere_variable.mpr ⟨Value.minSigned, rfl, by decide⟩
  have constant (n : Int) (fits : Value.fitsSigned n = true) : (Expression.literal (.int n)).Everywhere (IsIntegral least) :=
    everywhere_literal.mpr ⟨n, rfl, fits⟩
  have half : halfOfLeast.Everywhere (IsIntegral least) :=
    everywhere_binary.mpr ⟨rfl, everywhere_binary.mpr ⟨rfl, bound, constant 2 (by decide)⟩,
      everywhere_binary.mpr ⟨rfl, constant 7 (by decide), constant (-4) (by decide)⟩⟩
  have remainder : remainderOfLeast.Everywhere (IsIntegral least) :=
    everywhere_binary.mpr ⟨rfl, everywhere_binary.mpr ⟨rfl, bound, constant (-1) (by decide)⟩, constant 1 (by decide)⟩
  have defined : halfOfLeast.Everywhere (IsDefined least) :=
    (by decide +kernel : ∀ node ∈ halfOfLeast.nodes, IsDefined least node)
  have undefined : ¬remainderOfLeast.Everywhere (IsDefined least) :=
    (by decide +kernel : ¬∀ node ∈ remainderOfLeast.nodes, IsDefined least node)
  have bare : Host.bare.Stops := fun _ _ => rfl
  exact ⟨bare, half, remainder, ((eval_integers bare half).1 defined).1, (eval_integers bare remainder).2 undefined⟩

end Expression

end Phrasebook
