import Mathlib.Algebra.Group.Nat.Defs
import Phrasebook.Decimal.Reading

/-! Digits without a sign spell floats without a sign. -/

namespace Phrasebook

/-- Whether a float is finite and has no minus sign, told by its bits. -/
def IsUnsigned (x : Float) : Prop :=
  -- The highest bit is the sign.
  x.isFinite = true ∧ x.toBits.toNat < 2 ^ 63

section Packing

open Float.Model Float.Model.UnpackedFloat

/-- A float that is put together with a plus sign leaves the highest bit clear. -/
theorem packComponents_positive_lt (exponent : BitVec Format.binary64.exponentBits)
    (mantissa : BitVec Format.binary64.mantissaBitsWithoutImplicit) :
    (packComponents Format.binary64 .positive exponent mantissa).toNat < 2 ^ 63 := by
  have high : exponent.toNat < 2 ^ 11 := exponent.isLt
  have low : mantissa.toNat < 2 ^ 52 := mantissa.isLt
  change (0#1 ++ exponent ++ mantissa).toNat < 2 ^ 63
  simp only [BitVec.toNat_append, BitVec.toNat_ofNat, Nat.zero_mod, Nat.zero_shiftLeft, Nat.zero_or]
  have fits : exponent.toNat <<< 52 ||| mantissa.toNat < 2 ^ 63 := by
    refine Nat.or_lt_two_pow ?_ (by omega)
    rw [Nat.shiftLeft_eq]
    omega
  exact fits

/-- Whether an unpacked float has no minus sign. -/
def IsPlus : UnpackedFloat → Prop
  -- What is no number has no sign at all.
  | .notANumber => True
  | .infinity sign | .zero sign | .finite sign _ _ _ => sign = .positive

/-- A float without a minus sign leaves the highest bit clear. -/
theorem pack_lt_of_isPlus {x : UnpackedFloat} (plus : IsPlus x) :
    (UnpackedFloat.pack Format.binary64 x).toNat < 2 ^ 63 := by
  cases x with
  | notANumber => exact packComponents_positive_lt _ _
  | infinity sign =>
    cases plus
    exact packComponents_positive_lt _ _
  | zero sign =>
    cases plus
    exact packComponents_positive_lt _ _
  | finite sign mantissa exponent nonzero =>
    cases plus
    delta UnpackedFloat.pack
    dsimp only
    split
    · exact packComponents_positive_lt _ _
    · split
      · exact packComponents_positive_lt _ _
      · exact packComponents_positive_lt _ _

/-- A word whose highest bit is clear has no minus sign. -/
theorem isPlus_unpack {word : BitVec Format.binary64.numBits} (clear : word.toNat < 2 ^ 63) :
    IsPlus (UnpackedFloat.unpack Format.binary64 word) := by
  have zero : unpackSign word = 0#1 := by
    delta unpackSign
    rw [← BitVec.toNat_inj, BitVec.toNat_cast, BitVec.extractLsb_toNat]
    change word.toNat >>> 63 % 2 ^ (63 - 63 + 1) = 0
    rw [Nat.shiftRight_eq_div_pow, Nat.div_eq_of_lt clear]
  have plus : Sign.ofBitVec (unpackSign word) = .positive := by
    rw [zero]
    rfl
  -- Every kind of float takes its sign from that bit.
  unfold UnpackedFloat.unpack
  dsimp only
  by_cases ones : unpackExponent word = -BitVec.ofNat Format.binary64.exponentBits 1
  · rw [if_pos ones]
    split
    · exact plus
    · trivial
  · rw [if_neg ones]
    by_cases zeros : unpackExponent word = BitVec.ofNat Format.binary64.exponentBits 0
    · rw [if_pos zeros]
      by_cases none : unpackMantissa word = BitVec.ofNat Format.binary64.mantissaBitsWithoutImplicit 0
      · rw [dif_pos none]
        exact plus
      · rw [dif_neg none]
        exact plus
    · rw [if_neg zeros]
      exact plus

end Packing

/-- A word whose highest bit is clear is a float whose highest bit is clear. -/
theorem toBits_ofBits_lt {bits : UInt64} (clear : bits.toNat < 2 ^ 63) :
    (Float.ofBits bits).toBits.toNat < 2 ^ 63 :=
  pack_lt_of_isPlus (isPlus_unpack clear)

/-- The float nearest to a quotient leaves the highest bit clear. -/
theorem toBits_nearestFloat_lt (numerator denominator : Nat) :
    (nearestFloat numerator denominator).toBits.toNat < 2 ^ 63 := by
  have bounded : nearestBits numerator denominator ≤ infinityBits := by
    unfold nearestBits
    split
    · exact Nat.zero_le _
    · exact Nat.min_le_left _ _
  have limit : infinityBits < 2 ^ 63 := by decide
  refine toBits_ofBits_lt ?_
  rw [Nat.toUInt64, UInt64.toNat_ofNat']
  omega

/-- A finite float that digits spell has no minus sign. -/
theorem isUnsigned_floatOfDigits {whole fraction : List Char} {exponent : Int}
    (finite : (floatOfDigits whole fraction exponent).isFinite = true) :
    IsUnsigned (floatOfDigits whole fraction exponent) := by
  refine ⟨finite, ?_⟩
  unfold floatOfDigits at finite ⊢
  dsimp only at finite ⊢
  split
  · decide +kernel
  · split
    · decide +kernel
    · exact toBits_nearestFloat_lt _ _

end Phrasebook
