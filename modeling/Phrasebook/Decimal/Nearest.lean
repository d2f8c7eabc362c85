import Phrasebook.Decimal.Power

/-! The binary64 number nearest to a quotient, found in exact arithmetic. -/

namespace Phrasebook

/-- The integer nearest to a quotient; a half goes to the even neighbour. -/
def roundQuotient (numerator denominator : Nat) : Nat :=
  -- Twice the remainder tells on which side of the half the quotient lies.
  let whole := numerator / denominator
  let twice := 2 * (numerator % denominator)
  if twice > denominator || (twice == denominator && whole % 2 == 1) then whole + 1 else whole

/-- The greatest exponent of two whose power does not exceed a positive quotient. -/
def quotientLog (numerator denominator : Nat) : Int :=
  -- The difference of the logarithms is right or one too large.
  let guess := (numerator.log2 : Int) - denominator.log2
  if numerator * twoTo (-guess).toNat < denominator * twoTo guess.toNat then guess - 1 else guess

/-- The bits of infinity, which follow those of the largest number. -/
def infinityBits : Nat := 0x7FF0000000000000

/-- The bits of the float nearest to a quotient, too large a one being infinite. -/
def nearestBits (numerator denominator : Nat) : Nat :=
  -- Where the unit in the last place doubles, the bits go on counting without a gap.
  if numerator == 0 then 0
  else
    let unit := max (quotientLog numerator denominator - 52) (-1074)
    let mantissa := roundQuotient (numerator * twoTo (-unit).toNat) (denominator * twoTo unit.toNat)
    min infinityBits ((unit + 1074).toNat * twoTo 52 + mantissa)

/-- The float nearest to a quotient. -/
def nearestFloat (numerator denominator : Nat) : Float :=
  -- The bits fit a word, for they do not exceed those of infinity.
  Float.ofBits (nearestBits numerator denominator).toUInt64

/-- The float nearest to digits times a power of ten. -/
def decimalFloat (digits : Nat) (exponent : Int) : Float :=
  -- A negative power divides.
  nearestFloat (digits * tenTo exponent.toNat) (tenTo (-exponent).toNat)

/-- A quotient is less than half a unit away from the integer it is rounded to, or exactly half. -/
theorem roundQuotient_near (numerator denominator : Nat) (positive : 0 < denominator) :
    2 * numerator ≤ 2 * (roundQuotient numerator denominator * denominator) + denominator ∧
      2 * (roundQuotient numerator denominator * denominator) ≤ 2 * numerator + denominator := by
  -- The remainder is what the integer part leaves, and rounding up adds one denominator.
  have whole := Nat.div_add_mod numerator denominator
  have small := Nat.mod_lt numerator positive
  have turned := Nat.mul_comm denominator (numerator / denominator)
  unfold roundQuotient
  simp only
  split
  · rename_i up
    have large : denominator ≤ 2 * (numerator % denominator) := by
      simp only [Bool.or_eq_true, decide_eq_true_eq, Bool.and_eq_true, beq_iff_eq] at up
      omega
    have next : (numerator / denominator + 1) * denominator =
        numerator / denominator * denominator + denominator := Nat.succ_mul _ _
    omega
  · rename_i down
    have little : 2 * (numerator % denominator) ≤ denominator := by
      simp only [Bool.or_eq_true, decide_eq_true_eq, not_or, Nat.not_lt] at down
      exact down.1
    omega

/-- A quotient halfway between two integers is rounded to the even one. -/
theorem roundQuotient_half (numerator denominator : Nat) (half : 2 * (numerator % denominator) = denominator) :
    roundQuotient numerator denominator % 2 = 0 := by
  -- It goes up exactly if the lower neighbour is odd.
  unfold roundQuotient
  simp only [half, Nat.lt_irrefl, decide_false, Bool.false_or, beq_self_eq_true, Bool.true_and, beq_iff_eq]
  split <;> omega

/-- A whole quotient is not changed by rounding. -/
theorem roundQuotient_mul (whole denominator : Nat) (positive : 0 < denominator) :
    roundQuotient (whole * denominator) denominator = whole := by
  -- Nothing remains.
  simp [roundQuotient, Nat.mul_div_cancel _ positive, Nat.ne_of_lt positive]

end Phrasebook
