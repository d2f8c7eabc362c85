import Phrasebook.Unicode.Width

/-! The letters that join a letter before them, so that both take the columns of one. -/

namespace Phrasebook

/-- The ranges of characters without a column that keep an Arabic alef from joining. -/
def barrierRanges : List (Nat × Nat) := [
  (0x605, 0x605), (0x890, 0x891), (0x8E2, 0x8E2), (0x9BE, 0x9BE), (0x9D7, 0x9D7), (0xB3E, 0xB3E),
  (0xB57, 0xB57), (0xBBE, 0xBBE), (0xBD7, 0xBD7), (0xCC0, 0xCC0), (0xCC2, 0xCC2), (0xCC7, 0xCC8),
  (0xCCA, 0xCCB), (0xCD5, 0xCD6), (0xD3E, 0xD3E), (0xD4E, 0xD4E), (0xD57, 0xD57), (0xDCF, 0xDCF),
  (0xDDF, 0xDDF), (0x1160, 0x11FF), (0x1715, 0x1715), (0x1734, 0x1734), (0x180E, 0x180E),
  (0x1B35, 0x1B35), (0x1B3B, 0x1B3B), (0x1B3D, 0x1B3D), (0x1B43, 0x1B44), (0x1BAA, 0x1BAA),
  (0x1BF2, 0x1BF3), (0x200C, 0x200D), (0x2065, 0x2069), (0x302E, 0x302F), (0x3164, 0x3164),
  (0xA8FA, 0xA8FA), (0xA953, 0xA953), (0xA9C0, 0xA9C0), (0xD7B0, 0xD7C6), (0xD7CB, 0xD7FB),
  (0xFFA0, 0xFFA0), (0xFFF0, 0xFFF8), (0x111C0, 0x111C0), (0x111C2, 0x111C3), (0x11235, 0x11235),
  (0x1133E, 0x1133E), (0x1134D, 0x1134D), (0x11357, 0x11357), (0x113B8, 0x113B8),
  (0x113C2, 0x113C2), (0x113C5, 0x113C5), (0x113C7, 0x113C9), (0x113CF, 0x113CF),
  (0x113D1, 0x113D1), (0x114B0, 0x114B0), (0x114BD, 0x114BD), (0x115AF, 0x115AF),
  (0x116B6, 0x116B6), (0x11930, 0x11930), (0x1193D, 0x1193D), (0x1193F, 0x1193F),
  (0x11941, 0x11941), (0x11A84, 0x11A89), (0x11D46, 0x11D46), (0x11F02, 0x11F02),
  (0x11F41, 0x11F41), (0x16FF0, 0x16FF1), (0x1D165, 0x1D166), (0x1D16D, 0x1D172),
  (0xE0000, 0xE0000), (0xE0002, 0xE001F), (0xE0080, 0xE00FF), (0xE01F0, 0xE0FFF)]

/-- The ranges of characters that never show and are no barrier to any joining. -/
def unseenRanges : List (Nat × Nat) := [
  (0x34F, 0x34F), (0x17B4, 0x17B5), (0x180B, 0x180D), (0x180F, 0x180F), (0x200D, 0x200D),
  (0xFE00, 0xFE0F), (0xE0100, 0xE01EF)]

/-- The ranges of the forms of the Arabic letter alef. -/
def alefRanges : List (Nat × Nat) := [
  (0x622, 0x623), (0x625, 0x625), (0x627, 0x627), (0x671, 0x673), (0x675, 0x675), (0x773, 0x774),
  (0x870, 0x882)]

/-- The ranges of the forms of the Arabic letter lam. -/
def lamRanges : List (Nat × Nat) := [
  (0x644, 0x644), (0x6B5, 0x6B8), (0x76A, 0x76A), (0x8A6, 0x8A6), (0x8C7, 0x8C7)]

/-- The ranges of Khmer letters that can stand below another one. -/
def khmerRanges : List (Nat × Nat) := [
  (0x1780, 0x1782), (0x1784, 0x1787), (0x1789, 0x178C), (0x178E, 0x1793), (0x1795, 0x1798),
  (0x179B, 0x179D), (0x17A0, 0x17A0), (0x17A2, 0x17A2), (0x17A7, 0x17A7), (0x17AB, 0x17AC),
  (0x17AF, 0x17AF)]

/-- The ranges of Tifinagh letters that can be joined. -/
def tifinaghRanges : List (Nat × Nat) := [
  (0x2D31, 0x2D65), (0x2D6F, 0x2D6F)]

/-- Whether an alef can join a lam across a character. -/
def isTransparent (c : Char) : Bool :=
  -- Marks are no barrier.
  isZeroWidth c && !inRanges barrierRanges c.toNat

/-- Whether a character never shows and is no barrier to any joining. -/
def isUnseen (c : Char) : Bool :=
  -- Some of them pick the shape of the character before them.
  inRanges unseenRanges c.toNat

/-- Whether a character is a form of the Arabic letter alef. -/
def isAlef (c : Char) : Bool :=
  -- Hamzas and numbers make other forms.
  inRanges alefRanges c.toNat

/-- Whether a character is a form of the Arabic letter lam. -/
def isLam (c : Char) : Bool :=
  -- Dots and strokes make other forms.
  inRanges lamRanges c.toNat

/-- Whether a character is a Tifinagh letter that can be joined. -/
def isTifinagh (c : Char) : Bool :=
  -- The mark of labialization can be joined, too.
  inRanges tifinaghRanges c.toNat

/-- Letters, and groups of them, that can join a letter before them across unseen characters. -/
inductive JoiningLetter where
  /-- The Hebrew lamed, which joins an alef. -/
  | lamed
  /-- The Buginese ya, which joins a vowel and the letter before it. -/
  | ya
  /-- A Buginese vowel and a ya after it. -/
  | vowelYa
  /-- A Tifinagh letter, which joins another one. -/
  | tifinagh
  /-- The Tifinagh joiner and a letter after it. -/
  | tifinaghPair
  /-- A Lisu tone, which joins another one. -/
  | lisuTone
  /-- The Old Turkic letter i, which joins an ec. -/
  | turkicI
  /-- A Khmer letter, which a sign puts below the one before it. -/
  | khmer
  deriving DecidableEq, Repr, Inhabited

/-- The joining letter that a character is. -/
def JoiningLetter.of? (c : Char) : Option JoiningLetter :=
  -- Groups of letters are found only in texts.
  if c.toNat == 0x05DC then some .lamed
  else if c.toNat == 0x1A10 then some .ya
  else if isTifinagh c then some .tifinagh
  else if c.toNat == 0xA4FC || c.toNat == 0xA4FD then some .lisuTone
  else if c.toNat == 0x10C03 then some .turkicI
  else if inRanges khmerRanges c.toNat then some .khmer
  else none

/-- The columns that a character adds in front of a joining letter, and the letters that come of it. -/
def JoiningLetter.join? (letter : JoiningLetter) (joined : Bool) (c : Char) :
    Option (Int × Option JoiningLetter) :=
  -- Some letters join only across a joiner.
  match letter with
  | .lamed => if joined && c.toNat == 0x05D0 then some (0, none) else none
  | .ya => if joined && c.toNat == 0x1A17 then some (0, some .vowelYa) else none
  | .vowelYa => if c.toNat == 0x1A15 then some (0, none) else none
  | .tifinagh =>
    if c.toNat == 0x2D7F then some (1, some .tifinaghPair)
    else if joined && isTifinagh c then some (0, none)
    else none
  | .tifinaghPair => if isTifinagh c then some (-1, none) else none
  | .lisuTone => if 0xA4F8 ≤ c.toNat && c.toNat ≤ 0xA4FB then some (0, none) else none
  | .turkicI => if joined && c.toNat == 0x10C32 then some (0, none) else none
  | .khmer => if c.toNat == 0x17D2 then some (-1, none) else none

end Phrasebook
