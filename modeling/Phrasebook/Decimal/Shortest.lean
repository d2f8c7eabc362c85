import Phrasebook.Decimal.Power

/-! The shortest decimal that reads back as a given binary64 number, found in exact arithmetic. -/

namespace Phrasebook

/-- A finite non-negative binary64 number: a mantissa times a power of two. -/
structure Binary where
  /-- The integer mantissa. -/
  mantissa : Nat
  /-- The exponent of two. -/
  exponent : Int
  /-- Whether the gap to the number below is half the gap to the number above. -/
  halfGapBelow : Bool

/-- A decimal number: an integer times a power of ten. -/
structure Decimal where
  /-- The integer whose digits are written. -/
  digits : Nat
  /-- The exponent of ten. -/
  exponent : Int
  deriving DecidableEq, Repr, Inhabited

/-- The magnitude that an exponent field and a fraction stand for. -/
def Binary.ofParts (field fraction : Nat) : Binary :=
  -- A zero exponent field marks the subnormal numbers, which have no hidden bit.
  if field == 0 then ⟨fraction, -1074, false⟩
  else ⟨twoTo 52 + fraction, (field : Int) - 1075, fraction == 0 && field > 1⟩

/-- The magnitude that the bits of a finite number stand for. -/
def Binary.ofBits (bits : UInt64) : Binary :=
  -- The sign stands apart.
  .ofParts ((bits >>> 52) &&& 0x7FF).toNat (bits &&& 0xFFFFFFFFFFFFF).toNat

/-- Compare an integer times a power of ten with an integer times a power of two. -/
def compareScaled (digits : Nat) (tens : Int) (mantissa : Nat) (twos : Int) : Ordering :=
  -- Negative powers move to the other side, so both sides are natural numbers.
  compare (digits * tenTo tens.toNat * twoTo (-twos).toNat) (mantissa * twoTo twos.toNat * tenTo (-tens).toNat)

/-- Whether a decimal lies among the reals that round to a binary number. -/
def Binary.readsBack (x : Binary) (d : Decimal) : Bool :=
  -- The ends lie halfway to the neighbours and belong to the even mantissa.
  let low := if x.halfGapBelow then 4 * x.mantissa - 1 else 4 * x.mantissa - 2
  let high := 4 * x.mantissa + 2
  let closed := x.mantissa % 2 == 0
  let below := compareScaled d.digits d.exponent low (x.exponent - 2)
  let above := compareScaled d.digits d.exponent high (x.exponent - 2)
  (below == .gt || (closed && below == .eq)) && (above == .lt || (closed && above == .eq))

/-- The integer part of a binary number divided by a power of ten. -/
def Binary.onGrid (x : Binary) (tens : Int) : Nat :=
  -- Powers with a negative exponent change sides of the quotient.
  (x.mantissa * twoTo x.exponent.toNat * tenTo (-tens).toNat) / (twoTo (-x.exponent).toNat * tenTo tens.toNat)

/-- The least power of ten above a positive binary number. -/
def Binary.scale (x : Binary) : Int :=
  -- The binary logarithm estimates the decimal one from below, and a few steps up correct it.
  let guess := ((x.mantissa.log2 : Int) + x.exponent) * 30103 / 100000 - 1
  let above (k : Int) : Bool := compareScaled 1 k x.mantissa x.exponent == .gt
  ((List.range 5).map fun (step : Nat) => guess + step).find? above |>.getD (guess + 5)

/-- The nearer of the two neighbours on a decimal grid, if one of them reads back. -/
def Binary.candidate? (x : Binary) (tens : Int) : Option Decimal :=
  -- Of two hits the nearer wins, and a tie goes to the even neighbour.
  let low := x.onGrid tens
  let below : Decimal := ⟨low, tens⟩
  let above : Decimal := ⟨low + 1, tens⟩
  match x.readsBack below, x.readsBack above with
  | true, true =>
    match compareScaled (2 * low + 1) tens (2 * x.mantissa) x.exponent with
    | .gt => some below
    | .lt => some above
    | .eq => some (if low % 2 == 0 then below else above)
  | true, false => some below
  | false, true => some above
  | false, false => none

/-- Move trailing zeros of the digits into the exponent. -/
def Decimal.stripped (d : Decimal) : Nat → Decimal
  -- At most as many zeros as the bound allows are moved.
  | 0 => d
  | bound + 1 =>
    if d.digits != 0 && d.digits % 10 == 0 then
      Decimal.stripped ⟨d.digits / 10, d.exponent + 1⟩ bound
    else d

/-- A binary number as a decimal, digit for digit. -/
def Binary.exact (x : Binary) : Decimal :=
  -- A negative power of two is a power of five over one of ten.
  if 0 ≤ x.exponent then ⟨x.mantissa * twoTo x.exponent.toNat, 0⟩
  else ⟨x.mantissa * Nat.pow 5 (-x.exponent).toNat, x.exponent⟩

/-- The decimal with the fewest digits that reads back as a binary number, nearest among those. -/
def Binary.shortest (x : Binary) : Decimal :=
  -- Grids are tried from coarse to fine, and seventeen digits always suffice.
  if x.mantissa == 0 then ⟨0, 0⟩
  else
    let top := x.scale
    match ((List.range 17).map fun (n : Nat) => top - 1 - n).findSome? x.candidate? with
    | some found => found.stripped 400
    | none => x.exact

/-- The decimal digits of a natural number, most significant first. -/
def decimalDigits (n : Nat) : List Char :=
  -- Zero has the one digit zero.
  Nat.toDigits 10 n

/-- The characters of a decimal: positional for magnitudes from a hundred-thousandth up to ten to the sixteenth. -/
def Decimal.chars (d : Decimal) : List Char :=
  -- Elsewhere one digit stands before the point and the exponent carries its sign.
  let digits := decimalDigits d.digits
  let lead : Int := d.exponent + digits.length - 1
  if d.digits == 0 then ['0', '.', '0']
  else if -5 ≤ lead && lead < 16 then
    if 0 ≤ d.exponent then digits ++ List.replicate d.exponent.toNat '0' ++ ['.', '0']
    else if lead < 0 then ['0', '.'] ++ List.replicate (-lead - 1).toNat '0' ++ digits
    else digits.take (lead.toNat + 1) ++ '.' :: digits.drop (lead.toNat + 1)
  else
    let fraction := digits.drop 1
    let point := if fraction.isEmpty then [] else '.' :: fraction
    digits.take 1 ++ point ++ 'e' :: (if lead < 0 then '-' else '+') :: decimalDigits lead.natAbs

/-- The text of a float: its sign, if it is negative, and its shortest decimal. -/
def floatText (x : Float) : String :=
  -- Zero has a sign as well.
  let decimal := (Binary.ofBits x.toBits).shortest
  String.ofList (if x.toBits >>> 63 == 1 then '-' :: decimal.chars else decimal.chars)

end Phrasebook
