import Phrasebook.Proofs.Reading.Rules
import Phrasebook.Expression.Reader

/-! Identifiers, and the expressions whose variables and members are named by them. -/

namespace Phrasebook

/-- A character that neither starts nor continues an identifier does not stand in one. -/
theorem IsIdentifier.not_mem {name : String} (identifier : IsIdentifier name) {c : Char} (stops : startsIdentifier c = false)
    (stops' : continuesIdentifier c = false) : c ∉ name.toList := by
  obtain ⟨first, rest, chars, starts, continues⟩ := identifier
  rw [chars, List.mem_cons, not_or]
  refine ⟨?_, fun inside => ?_⟩
  · rintro rfl
    rw [starts] at stops
    cases stops
  · rw [continues c inside] at stops'
    cases stops'

/-- There are no dots in an identifier. -/
theorem IsIdentifier.dot_not_mem {name : String} (identifier : IsIdentifier name) : '.' ∉ name.toList :=
  identifier.not_mem (by decide) (by decide)

/-- A digit cannot start an identifier. -/
theorem startsIdentifier_of_isDigit {c : Char} (digit : isDigit c = true) : startsIdentifier c = false := by
  simp only [isDigit, Bool.and_eq_true, decide_eq_true_eq, Char.le_def, UInt32.le_iff_toNat_le] at digit
  obtain ⟨low, high⟩ := digit
  have zero : '0'.val.toNat = 48 := rfl
  have nine : '9'.val.toNat = 57 := rfl
  rw [zero] at low
  rw [nine] at high
  have ascii : c.toNat < 0x80 := by
    change c.val.toNat < 128
    omega
  -- The letters of ASCII and the underscore stand elsewhere.
  simp only [startsIdentifier, isAlphabetic, if_pos ascii, Bool.or_eq_false_iff]
  constructor
  · have letters : c.isAlpha = (decide ('A'.val ≤ c.val ∧ c.val ≤ 'Z'.val) ||
        decide ('a'.val ≤ c.val) && decide (c.val ≤ 'z'.val)) := rfl
    rw [letters]
    simp only [Bool.or_eq_false_iff, Bool.and_eq_false_iff, decide_eq_false_iff_not, UInt32.le_iff_toNat_le]
    have upper : 'A'.val.toNat = 65 := rfl
    have lower : 'a'.val.toNat = 97 := rfl
    omega
  · refine beq_false_of_ne fun same => ?_
    subst same
    exact absurd high (by decide)

/-- An identifier is no number. -/
theorem IsIdentifier.readNat?_eq_none {name : String} (identifier : IsIdentifier name) :
    readNat? name.toList = none := by
  obtain ⟨first, rest, chars, starts, _⟩ := identifier
  have noDigit : isDigit first = false := by
    cases digit : isDigit first with
    | false => rfl
    | true => exact absurd starts (by simp [startsIdentifier_of_isDigit digit])
  have noPlus : first ≠ '+' := by
    intro same
    subst same
    exact absurd starts (by decide)
  rw [chars]
  unfold readNat?
  split
  · simp_all
  · simp [noDigit]

namespace Expression

/-- The name that stands in an expression by itself, if any does, is an identifier. -/
def IsNamed : Expression → Prop
  -- The names of calls and of object entries are of other kinds.
  | .variable name => IsIdentifier name
  | .member _ property => IsIdentifier property
  | _ => True

/-- Whether the variables and members anywhere in an expression are named by identifiers. -/
def WellNamed (expression : Expression) : Prop :=
  -- Parts of parts count as well.
  ∀ node ∈ expression.nodes, node.IsNamed

/-- A constant is well named. -/
theorem wellNamed_literal (value : Value) : (literal value).WellNamed := by
  simp [WellNamed, nodes, IsNamed]

end Expression

end Phrasebook
