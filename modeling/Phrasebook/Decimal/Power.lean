/-! Powers of two and of ten, between which numbers are converted. -/

namespace Phrasebook

/-- A power of two. -/
def twoTo (exponent : Nat) : Nat :=
  -- The zeroth power is one.
  Nat.pow 2 exponent

/-- A power of ten. -/
def tenTo (exponent : Nat) : Nat :=
  -- The zeroth power is one.
  Nat.pow 10 exponent

end Phrasebook
