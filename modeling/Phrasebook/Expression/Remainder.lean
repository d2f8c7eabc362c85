import Phrasebook.Decimal.Shortest

/-! The remainder of two floats, which is exact. -/

namespace Phrasebook

/-- The remainder of a division of floats that is rounded toward zero, with the sign of the dividend. -/
def floatRemainder (x y : Float) : Float :=
  -- Both magnitudes become integers at the smaller exponent, where the remainder is exact.
  let a := Binary.ofBits x.toBits
  let b := Binary.ofBits y.toBits
  let base := min a.exponent b.exponent
  let dividend := a.mantissa * twoTo (a.exponent - base).toNat
  let divisor := b.mantissa * twoTo (b.exponent - base).toNat
  let size := (Float.ofNat (dividend % divisor)).scaleB base
  if x.toBits >>> 63 == 1 then -size else size

end Phrasebook
