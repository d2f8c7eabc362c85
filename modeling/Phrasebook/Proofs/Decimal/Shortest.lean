import Mathlib.Tactic.FieldSimp
import Mathlib.Tactic.Linarith
import Mathlib.Tactic.Ring
import Mathlib.Algebra.Order.Field.Power
import Phrasebook.Decimal.Shortest

/-! The shortest decimals of different binary numbers are different numbers. -/

namespace Phrasebook

/-- The number that a decimal stands for. -/
def Decimal.value (d : Decimal) : ℚ :=
  -- Digits times a power of ten.
  d.digits * (10 : ℚ) ^ d.exponent

/-- A power is a quotient of powers with natural exponents, one of which is one. -/
theorem zpow_eq_div (base : ℚ) (exponent : ℤ) : base ^ exponent = base ^ exponent.toNat / base ^ (-exponent).toNat := by
  rcases le_total 0 exponent with positive | negative
  · obtain ⟨n, rfl⟩ := Int.eq_ofNat_of_zero_le positive
    simp
  · obtain ⟨n, same⟩ := Int.eq_ofNat_of_zero_le (Int.neg_nonneg.mpr negative)
    obtain rfl : exponent = -(n : ℤ) := by omega
    simp

section Scaled

variable (digits : Nat) (tens : Int) (mantissa : Nat) (twos : Int)

/-- The factor that makes natural numbers of a scaled decimal and a scaled binary number. -/
def commonFactor : ℚ :=
  -- Powers below a line are multiplied out.
  10 ^ (-tens).toNat * 2 ^ (-twos).toNat

/-- The common factor is positive. -/
theorem commonFactor_pos : 0 < commonFactor tens twos := by
  unfold commonFactor
  positivity

/-- A decimal that is multiplied out. -/
theorem decimal_mul_commonFactor :
    (digits : ℚ) * 10 ^ tens * commonFactor tens twos =
      (digits * tenTo tens.toNat * twoTo (-twos).toNat : Nat) := by
  have nonzero : (10 : ℚ) ^ (-tens).toNat ≠ 0 := by positivity
  unfold commonFactor
  rw [zpow_eq_div 10 tens]
  simp only [tenTo, twoTo, Nat.pow_eq, Nat.cast_mul, Nat.cast_pow, Nat.cast_ofNat]
  field_simp

/-- A binary number that is multiplied out. -/
theorem binary_mul_commonFactor :
    (mantissa : ℚ) * 2 ^ twos * commonFactor tens twos =
      (mantissa * twoTo twos.toNat * tenTo (-tens).toNat : Nat) := by
  have nonzero : (2 : ℚ) ^ (-twos).toNat ≠ 0 := by positivity
  unfold commonFactor
  rw [zpow_eq_div 2 twos]
  simp only [tenTo, twoTo, Nat.pow_eq, Nat.cast_mul, Nat.cast_pow, Nat.cast_ofNat]
  field_simp

/-- Scaled integers are smaller as numbers. -/
theorem compareScaled_lt :
    compareScaled digits tens mantissa twos = .lt ↔ (digits : ℚ) * 10 ^ tens < mantissa * 2 ^ twos := by
  rw [compareScaled, Nat.compare_eq_lt, ← Nat.cast_lt (α := ℚ), ← decimal_mul_commonFactor, ← binary_mul_commonFactor]
  exact mul_lt_mul_iff_left₀ (commonFactor_pos tens twos)

/-- Scaled integers are equal as numbers. -/
theorem compareScaled_eq :
    compareScaled digits tens mantissa twos = .eq ↔ (digits : ℚ) * 10 ^ tens = mantissa * 2 ^ twos := by
  rw [compareScaled, Nat.compare_eq_eq, ← Nat.cast_inj (R := ℚ), ← decimal_mul_commonFactor, ← binary_mul_commonFactor]
  exact mul_left_inj' (commonFactor_pos tens twos).ne'

/-- Scaled integers are larger as numbers. -/
theorem compareScaled_gt :
    compareScaled digits tens mantissa twos = .gt ↔ (mantissa : ℚ) * 2 ^ twos < digits * 10 ^ tens := by
  rw [compareScaled, Nat.compare_eq_gt, ← Nat.cast_lt (α := ℚ), ← decimal_mul_commonFactor, ← binary_mul_commonFactor]
  exact mul_lt_mul_iff_left₀ (commonFactor_pos tens twos)

end Scaled

namespace Binary

/-- The number that a binary number stands for. -/
def value (x : Binary) : ℚ :=
  -- The mantissa times a power of two.
  x.mantissa * (2 : ℚ) ^ x.exponent

/-- Halfway to the number below, in quarters of the unit of the mantissa. -/
def lowQuarters (x : Binary) : Nat :=
  -- The gap below may be half as wide as the one above.
  if x.halfGapBelow then 4 * x.mantissa - 1 else 4 * x.mantissa - 2

/-- The least number that can round to a binary number. -/
def low (x : Binary) : ℚ :=
  -- It lies halfway to the number below.
  x.lowQuarters * (2 : ℚ) ^ (x.exponent - 2)

/-- The greatest number that can round to a binary number. -/
def high (x : Binary) : ℚ :=
  -- It lies halfway to the number above.
  (4 * x.mantissa + 2 : Nat) * (2 : ℚ) ^ (x.exponent - 2)

/-- A decimal reads back just if it lies between the ends, which belong to even mantissas. -/
theorem readsBack_iff (x : Binary) (d : Decimal) :
    x.readsBack d = true ↔ (x.low < d.value ∨ x.mantissa % 2 = 0 ∧ d.value = x.low) ∧
      (d.value < x.high ∨ x.mantissa % 2 = 0 ∧ d.value = x.high) := by
  unfold readsBack low high lowQuarters Decimal.value
  simp only [Bool.and_eq_true, Bool.or_eq_true, beq_iff_eq, compareScaled_lt, compareScaled_eq, compareScaled_gt]

/-- A positive binary number lies strictly between the ends. -/
theorem low_lt_value (x : Binary) (positive : 0 < x.mantissa) : x.low < x.value ∧ x.value < x.high := by
  have unit : (0 : ℚ) < (2 : ℚ) ^ (x.exponent - 2) := by positivity
  have quarter : x.value = (4 * x.mantissa : Nat) * (2 : ℚ) ^ (x.exponent - 2) := by
    rw [value, zpow_sub₀ (by norm_num)]
    push_cast
    ring
  have below : x.lowQuarters < 4 * x.mantissa := by
    unfold lowQuarters
    split <;> omega
  rw [quarter]
  exact ⟨mul_lt_mul_of_pos_right (Nat.cast_lt.mpr below) unit,
    mul_lt_mul_of_pos_right (Nat.cast_lt.mpr (by omega)) unit⟩

/-- A binary number that is written out digit for digit is itself. -/
theorem value_exact (x : Binary) : x.exact.value = x.value := by
  unfold exact Decimal.value value
  split
  · rename_i whole
    obtain ⟨n, same⟩ := Int.eq_ofNat_of_zero_le whole
    rw [same]
    simp [twoTo]
  · rename_i fractional
    obtain ⟨n, same⟩ := Int.eq_ofNat_of_zero_le (show 0 ≤ -x.exponent by omega)
    have negative : x.exponent = -(n : ℤ) := by omega
    have ten : (10 : ℚ) ^ n = 5 ^ n * 2 ^ n := by rw [← mul_pow]; norm_num
    rw [negative, neg_neg, Int.toNat_natCast, zpow_neg, zpow_neg, zpow_natCast, zpow_natCast, ten]
    push_cast [Nat.pow_eq]
    field_simp

/-- The decimal that a grid offers reads back. -/
theorem readsBack_of_candidate? {x : Binary} {tens : Int} {d : Decimal} (offered : x.candidate? tens = some d) :
    x.readsBack d = true := by
  unfold candidate? at offered
  dsimp only at offered
  split at offered
  · rename_i below above
    split at offered
    · cases offered
      exact below
    · cases offered
      exact above
    · cases offered
      split
      · exact below
      · exact above
  · rename_i below _
    cases offered
    exact below
  · rename_i _ above
    cases offered
    exact above
  · cases offered

end Binary

/-- Moving zeros from the digits into the exponent leaves the number as it is. -/
theorem Decimal.value_stripped (d : Decimal) (bound : Nat) : (d.stripped bound).value = d.value := by
  induction bound generalizing d with
  | zero => rfl
  | succ bound same =>
    unfold stripped
    split
    · rename_i zero
      simp only [Bool.and_eq_true, bne_iff_ne, ne_eq, beq_iff_eq] at zero
      have tenfold : ((d.digits / 10 : Nat) : ℚ) * 10 = d.digits := by
        exact_mod_cast Nat.div_mul_cancel (Nat.dvd_of_mod_eq_zero zero.2)
      rw [same, value, value, zpow_add₀ (by norm_num), zpow_one, ← tenfold]
      ring
    · rfl

namespace Binary

/-- Whether a decimal reads back depends on its value only. -/
theorem readsBack_congr (x : Binary) {d e : Decimal} (same : d.value = e.value) : x.readsBack d = x.readsBack e := by
  rw [Bool.eq_iff_iff, readsBack_iff, readsBack_iff, same]

/-- The shortest decimal of a positive binary number reads back. -/
theorem readsBack_shortest (x : Binary) (positive : 0 < x.mantissa) : x.readsBack x.shortest = true := by
  unfold shortest
  have nonzero : (x.mantissa == 0) = false := by simpa using positive.ne'
  simp only [nonzero, Bool.false_eq_true, if_false]
  split
  · rename_i found search
    obtain ⟨tens, _, offered⟩ := List.exists_of_findSome?_eq_some search
    rw [x.readsBack_congr (found.value_stripped 400)]
    exact readsBack_of_candidate? offered
  · -- Digit for digit, the number lies strictly between the ends.
    rw [readsBack_iff, value_exact]
    exact ⟨.inl (x.low_lt_value positive).1, .inl (x.low_lt_value positive).2⟩

/-- The binary number of a magnitude: the bits of a float but its sign. -/
def ofMagnitude (n : Nat) : Binary :=
  -- The exponent field stands above the fraction.
  ofParts (n / 2 ^ 52) (n % 2 ^ 52)

/-- The mantissa of a magnitude is positive unless the magnitude is zero. -/
theorem mantissa_ofMagnitude_pos {n : Nat} (positive : 0 < n) : 0 < (ofMagnitude n).mantissa := by
  unfold ofMagnitude ofParts
  split
  · rename_i subnormal
    simp only [beq_iff_eq] at subnormal
    show 0 < n % 2 ^ 52
    omega
  · show 0 < twoTo 52 + n % 2 ^ 52
    have hidden : 0 < twoTo 52 := Nat.two_pow_pos 52
    omega

/-- Where one number ends the next one begins, and one of them has an odd mantissa. -/
theorem high_eq_low_succ (n : Nat) :
    (ofMagnitude n).high = (ofMagnitude (n + 1)).low ∧
      ((ofMagnitude n).mantissa % 2 = 0 → (ofMagnitude (n + 1)).mantissa % 2 ≠ 0) := by
  have hidden : twoTo 52 = 4503599627370496 := rfl
  by_cases inner : n % 2 ^ 52 + 1 < 2 ^ 52
  · -- The exponent field stays, and the fraction grows by one.
    have field : (n + 1) / 2 ^ 52 = n / 2 ^ 52 := by omega
    have fraction : (n + 1) % 2 ^ 52 = n % 2 ^ 52 + 1 := by omega
    unfold high low lowQuarters ofMagnitude
    rw [field, fraction]
    by_cases subnormal : n / 2 ^ 52 = 0
    · simp only [ofParts, subnormal, beq_self_eq_true, if_true, Bool.false_eq_true, if_false]
      refine ⟨?_, by omega⟩
      rw [show 4 * (n % 2 ^ 52 + 1) - 2 = 4 * (n % 2 ^ 52) + 2 by omega]
    · have later : (n / 2 ^ 52 == 0) = false := by simpa using subnormal
      have inside : (n % 2 ^ 52 + 1 == 0) = false := by simp
      simp only [ofParts, later, inside, Bool.false_and, Bool.false_eq_true, if_false]
      refine ⟨?_, by omega⟩
      rw [show 4 * (twoTo 52 + (n % 2 ^ 52 + 1)) - 2 = 4 * (twoTo 52 + n % 2 ^ 52) + 2 by omega]
  · -- The fraction starts over in the next exponent field.
    have field : (n + 1) / 2 ^ 52 = n / 2 ^ 52 + 1 := by omega
    have fraction : (n + 1) % 2 ^ 52 = 0 := by omega
    have last : n % 2 ^ 52 = 4503599627370495 := by omega
    have next : (n / 2 ^ 52 + 1 == 0) = false := by simp
    unfold high low lowQuarters ofMagnitude
    rw [field, fraction, last]
    by_cases subnormal : n / 2 ^ 52 = 0
    · -- The first numbers with a hidden bit have the same unit as the subnormal ones.
      rw [subnormal]
      simp only [ofParts, hidden]
      refine ⟨?_, by norm_num⟩
      norm_num
    · -- The unit doubles.
      have later : (n / 2 ^ 52 == 0) = false := by simpa using subnormal
      have second : (decide (n / 2 ^ 52 + 1 > 1)) = true := by simp; omega
      simp only [ofParts, later, next, second, hidden, beq_self_eq_true, Bool.and_self, Bool.false_eq_true,
        if_true, if_false]
      refine ⟨?_, by norm_num⟩
      have unit : (2 : ℚ) ^ ((n / 2 ^ 52 + 1 : Nat) - 1075 - 2 : ℤ) = 2 * 2 ^ (((n / 2 ^ 52 : Nat) : ℤ) - 1075 - 2) := by
        rw [← zpow_one_add₀ (by norm_num)]
        congr 1
        push_cast
        ring
      rw [unit]
      push_cast
      ring

/-- The lower end of a positive number is positive. -/
theorem low_pos (x : Binary) (positive : 0 < x.mantissa) : 0 < x.low := by
  have quarters : 0 < x.lowQuarters := by
    unfold lowQuarters
    split <;> omega
  have unit : (0 : ℚ) < (2 : ℚ) ^ (x.exponent - 2) := by positivity
  exact mul_pos (Nat.cast_pos.mpr quarters) unit

/-- Numbers that round to a magnitude come before those that round to a larger one, with a gap unless it is the next. -/
theorem high_le_low (a gap : Nat) :
    (ofMagnitude a).high ≤ (ofMagnitude (a + gap + 1)).low ∧
      (0 < gap → (ofMagnitude a).high < (ofMagnitude (a + gap + 1)).low) := by
  -- Each number ends where the next one begins.
  induction gap with
  | zero =>
    rw [Nat.add_zero]
    exact ⟨(high_eq_low_succ a).1.le, fun none => absurd none (lt_irrefl 0)⟩
  | succ gap ih =>
    have positive := mantissa_ofMagnitude_pos (Nat.succ_pos (a + gap))
    have inside := (ofMagnitude (a + gap + 1)).low_lt_value positive
    have next := (high_eq_low_succ (a + gap + 1)).1
    have wider : (ofMagnitude a).high < (ofMagnitude (a + (gap + 1) + 1)).low := by
      rw [show a + (gap + 1) + 1 = a + gap + 1 + 1 by omega, ← next]
      exact lt_of_le_of_lt ih.1 (inside.1.trans inside.2)
    exact ⟨wider.le, fun _ => wider⟩

/-- No decimal reads back as two numbers. -/
theorem not_readsBack_of_lt {a b : Nat} (smaller : a < b) (d : Decimal) (first : (ofMagnitude a).readsBack d = true) :
    (ofMagnitude b).readsBack d ≠ true := by
  intro second
  obtain ⟨gap, rfl⟩ : ∃ gap, b = a + gap + 1 := ⟨b - a - 1, by omega⟩
  rw [readsBack_iff] at first second
  obtain ⟨apart, strictly⟩ := high_le_low a gap
  -- Only the common end of two neighbours could belong to both, and it belongs to an even mantissa only.
  have upper : d.value ≤ (ofMagnitude a).high := by
    rcases first.2 with inside | ⟨_, atEnd⟩
    · exact inside.le
    · exact atEnd.le
  have lower : (ofMagnitude (a + gap + 1)).low ≤ d.value := by
    rcases second.1 with inside | ⟨_, atEnd⟩
    · exact inside.le
    · exact atEnd.ge
  have even : (ofMagnitude a).mantissa % 2 = 0 := by
    rcases first.2 with inside | ⟨even, _⟩
    · linarith
    · exact even
  have even' : (ofMagnitude (a + gap + 1)).mantissa % 2 = 0 := by
    rcases second.1 with inside | ⟨even, _⟩
    · linarith
    · exact even
  rcases Nat.eq_zero_or_pos gap with rfl | positive
  · exact (high_eq_low_succ a).2 even even'
  · linarith [strictly positive]

/-- The shortest decimal of a magnitude is positive unless the magnitude is zero. -/
theorem value_shortest_pos {n : Nat} (positive : 0 < n) : 0 < (ofMagnitude n).shortest.value := by
  have mantissa := mantissa_ofMagnitude_pos positive
  have reads := readsBack_shortest _ mantissa
  have lower := low_pos _ mantissa
  rw [readsBack_iff] at reads
  rcases reads.1 with inside | ⟨_, atEnd⟩
  · exact lower.trans inside
  · exact atEnd ▸ lower

/-- Zero is zero in decimal as well. -/
theorem value_shortest_zero : (ofMagnitude 0).shortest.value = 0 := by
  show (Decimal.value ⟨0, 0⟩) = 0
  simp [Decimal.value]

/-- Magnitudes whose shortest decimals are the same number are the same. -/
theorem eq_of_value_shortest {a b : Nat} (same : (ofMagnitude a).shortest.value = (ofMagnitude b).shortest.value) :
    a = b := by
  have apart : ∀ m n : Nat, (ofMagnitude m).shortest.value = (ofMagnitude n).shortest.value → ¬m < n := by
    intro m n same smaller
    have positive : 0 < n := by omega
    have reads := readsBack_shortest _ (mantissa_ofMagnitude_pos positive)
    rcases Nat.eq_zero_or_pos m with rfl | positive'
    · rw [value_shortest_zero] at same
      exact (value_shortest_pos positive).ne same
    · refine not_readsBack_of_lt smaller _ (readsBack_shortest _ (mantissa_ofMagnitude_pos positive')) ?_
      rw [readsBack_congr _ same]
      exact reads
  exact Nat.le_antisymm (Nat.not_lt.mp (apart b a same.symm)) (Nat.not_lt.mp (apart a b same))

/-- The bits of a float are those of its magnitude under the sign. -/
theorem ofBits_eq (bits : UInt64) : ofBits bits = ofMagnitude (bits.toNat % 2 ^ 63) := by
  have field : ((bits >>> 52) &&& 0x7FF).toNat = bits.toNat % 2 ^ 63 / 2 ^ 52 := by
    rw [UInt64.toNat_and, UInt64.toNat_shiftRight]
    show bits.toNat >>> 52 &&& (2 ^ 11 - 1) = _
    rw [Nat.and_two_pow_sub_one_eq_mod, Nat.shiftRight_eq_div_pow]
    omega
  have fraction : (bits &&& 0xFFFFFFFFFFFFF).toNat = bits.toNat % 2 ^ 63 % 2 ^ 52 := by
    rw [UInt64.toNat_and]
    show bits.toNat &&& (2 ^ 52 - 1) = _
    rw [Nat.and_two_pow_sub_one_eq_mod]
    omega
  unfold ofBits ofMagnitude
  rw [field, fraction]

end Binary

/-- A float is told by its sign and by the number that its shortest decimal stands for. -/
theorem float_eq_of_shortest {x y : Float} (sign : (x.toBits >>> 63 == 1) = (y.toBits >>> 63 == 1))
    (same : (Binary.ofBits x.toBits).shortest.value = (Binary.ofBits y.toBits).shortest.value) : x = y := by
  rw [Binary.ofBits_eq, Binary.ofBits_eq] at same
  have magnitude := Binary.eq_of_value_shortest same
  have top (bits : UInt64) : (bits >>> 63 == 1) = decide (bits.toNat / 2 ^ 63 = 1) := by
    rw [Bool.eq_iff_iff, beq_iff_eq, decide_eq_true_iff, ← UInt64.toNat_inj, UInt64.toNat_shiftRight]
    show bits.toNat >>> 63 = 1 ↔ _
    rw [Nat.shiftRight_eq_div_pow]
  rw [top, top] at sign
  have bits : x.toBits = y.toBits := by
    have below := x.toBits.toNat_lt
    have below' := y.toBits.toNat_lt
    rw [← UInt64.toNat_inj]
    have signs := decide_eq_decide.mp sign
    by_cases negative : x.toBits.toNat / 2 ^ 63 = 1
    · have negative' := signs.mp negative
      omega
    · have positive' := fun other => negative (signs.mpr other)
      omega
  -- Nothing but its bits makes up a float.
  obtain ⟨⟨bits₁, valid₁⟩⟩ := x
  obtain ⟨⟨bits₂, valid₂⟩⟩ := y
  obtain rfl : bits₁ = bits₂ := bits
  rfl

end Phrasebook
