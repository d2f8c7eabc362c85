import Phrasebook.Decimal.Nearest

/-! Digits are read into integers, and decimals into the nearest binary64 number. -/

namespace Phrasebook

/-- Whether a character is a decimal digit of ASCII. -/
def isDigit (c : Char) : Bool :=
  -- Digits of other scripts do not form numbers.
  '0' ≤ c && c ≤ '9'

/-- The number that a list of digits stands for. -/
def natOfDigits (digits : List Char) : Nat :=
  -- Each digit shifts the earlier ones by ten.
  digits.foldl (fun n c => 10 * n + (c.toNat - 48)) 0

/-- The float nearest to digits of an integer part followed by digits of a fraction. -/
def floatOfDigits (whole fraction : List Char) (exponent : Int) : Float :=
  -- The fraction moves the point to the left; numbers far out of range are told by their size.
  let digits := (whole ++ fraction).dropWhile (· == '0')
  let scale := exponent - fraction.length
  let size := scale + digits.length
  if digits.isEmpty || size < -323 then 0.0
  else if size > 309 then 1.0 / 0.0
  else decimalFloat (natOfDigits digits) scale

/-- An optional sign in front of a number. -/
def splitSign : List Char → Bool × List Char
  -- The result tells whether the sign is a minus.
  | '-' :: rest => (true, rest)
  | '+' :: rest => (false, rest)
  | rest => (false, rest)

/-- The unsigned integer that a text spells, with an optional plus. -/
def readNat? (text : List Char) : Option Nat :=
  -- At least one digit is needed, and nothing else may follow.
  let digits := match text with
    | '+' :: rest => rest
    | rest => rest
  if digits.isEmpty || !digits.all isDigit then none else some (natOfDigits digits)

/-- The integer that a text spells, with an optional sign. -/
def readInt? (text : List Char) : Option Int :=
  -- The sign applies to the digits after it.
  let (negative, digits) := splitSign text
  if digits.isEmpty || !digits.all isDigit then none
  else if negative then some (-(natOfDigits digits)) else some (natOfDigits digits)

/-- The exponent of a decimal: a sign and at least one digit. -/
def readExponent? (text : List Char) : Option Int :=
  -- An exponent spells an integer.
  readInt? text

/-- The float that a text spells as a decimal, or as a name of infinity or of no number. -/
def readFloat? (text : List Char) : Option Float :=
  -- Digits may be missing before or after the point, but not on both sides.
  let (negative, body) := splitSign text
  let name := String.ofList (body.map Char.toLower)
  let signed (x : Float) : Float := if negative then -x else x
  if name == "inf" || name == "infinity" then some (signed (1.0 / 0.0))
  else if name == "nan" then some (0.0 / 0.0)
  else
    let whole := body.takeWhile isDigit
    let (fraction, rest) := match body.dropWhile isDigit with
      | '.' :: after => (after.takeWhile isDigit, after.dropWhile isDigit)
      | after => ([], after)
    if whole.isEmpty && fraction.isEmpty then none
    else match rest with
      | [] => some (signed (floatOfDigits whole fraction 0))
      | c :: after =>
        if c == 'e' || c == 'E' then
          (readExponent? after).map fun exponent =>
            signed (floatOfDigits whole fraction exponent)
        else none

end Phrasebook
