import Phrasebook.Unicode.Emoji
import Phrasebook.Unicode.Joining

/-! The number of columns that a text takes on a terminal, where neighbours can share columns. -/

namespace Phrasebook

/-- What a text begins with, as far as it matters to the width of a character in front of it. -/
inductive Opening where
  /-- Nothing that a character in front of it could join. -/
  | plain
  /-- A line feed. -/
  | lineFeed
  /-- A picture. -/
  | emoji
  /-- A skin tone. -/
  | skinTone
  /-- One letter of a flag. -/
  | flagLetter
  /-- Two or more letters of flags. -/
  | flagLetters
  /-- The joiner, which ties a picture to the picture after it. -/
  | joiner
  /-- A keycap before a joiner. -/
  | keycap
  /-- One letter of a flag before a joiner. -/
  | joinedLetter
  /-- Whole flags before a joiner. -/
  | joinedFlags
  /-- A letter and whole flags before a joiner. -/
  | joinedOdd
  /-- The end of the tag of a flag before a joiner, after a number of letters of the tag. -/
  | tagLetters (count : Nat)
  /-- The same after a number of digits, with which a tag can begin. -/
  | tagDigits (count : Nat)
  /-- The Kirat Rai vowel e, by which other vowels are written. -/
  | vowelE
  /-- The Kirat Rai vowel ai, or what spells it. -/
  | vowelAi
  /-- An Arabic alef. -/
  | alef
  /-- A joining letter, with a joiner in front of it or not. -/
  | letter (first : JoiningLetter) (joined : Bool)
  deriving DecidableEq, Repr, Inhabited

/-- How a character is drawn that can be both a picture and a plain sign. -/
inductive Style where
  /-- As a picture. -/
  | picture
  /-- As a plain sign. -/
  | sign
  deriving DecidableEq, Repr, Inhabited

/-- What a text begins with: perhaps what picks a style, and then the rest. -/
structure StyledOpening where
  /-- The rest. -/
  opening : Opening := .plain
  /-- The style of the character in front of the text. -/
  style : Option Style := none
  /-- Whether a quotation mark in front of the text has full width. -/
  fullQuote : Bool := false
  deriving DecidableEq, Repr, Inhabited

namespace Opening

/-- What a character begins a text with, whatever comes after it. -/
def of (c : Char) : Opening :=
  -- Most characters can be joined by none.
  if c == '\n' then .lineFeed
  else if c.toNat ≤ 0xA0 then .plain
  else if isFlagLetter c then .flagLetter
  else if isSkinTone c then .skinTone
  else if isEmoji c then .emoji
  else if c.toNat == 0x16D67 then .vowelE
  else if c.toNat == 0x16D68 then .vowelAi
  else if isAlef c then .alef
  else match JoiningLetter.of? c with
    | some first => .letter first false
    | none => .plain

/-- Whether this is joined across what picks a style. -/
def reachesAcross : Opening → Bool
  -- Only letters are.
  | .alef => true
  | .letter _ _ => true
  | _ => false

/-- What is left to join when a style is picked in front of it. -/
def acrossStyle (opening : Opening) : Opening :=
  -- Nothing is, unless it reaches across.
  if opening.reachesAcross then opening else .plain

/-- Whether a picture in front of this shares the columns of the picture that it is tied to. -/
def tiesPicture : Opening → Bool
  -- A keycap belongs to the digit in front of it.
  | .joiner => true
  | .keycap => true
  | _ => false

/-- What comes of an opening when a style is picked in front of it. -/
def styled (opening : Opening) (style : Style) (fullQuote : Bool) : StyledOpening :=
  -- A picture stays tied to the next one, and the width of a quotation mark stays picked with a letter.
  if style == .picture && opening.tiesPicture then ⟨opening, some style, fullQuote⟩
  else ⟨opening.acrossStyle, some style, fullQuote && opening.reachesAcross⟩

/-- The columns that a flag letter adds, and the opening that comes of it, if it joins. -/
def joinFlag? : Opening → Option (Int × Opening)
  -- Each flag before a joiner gives back the columns of what it is tied to.
  | .flagLetter => some (1, .flagLetters)
  | .flagLetters => some (1, .flagLetters)
  | .joiner => some (1, .joinedLetter)
  | .joinedLetter => some (-1, .joinedFlags)
  | .joinedOdd => some (-1, .joinedFlags)
  | .joinedFlags => some (3, .joinedOdd)
  | _ => none

/-- The columns that a character adds in front of a joiner, and the opening that comes of it, if it joins. -/
def joinPicture? (c : Char) : Option (Int × Opening) :=
  -- Only pictures and their parts are tied to a picture.
  if c.toNat == 0x20E3 then some (0, .keycap)
  else if isSkinTone c then some (0, .skinTone)
  else if c.toNat == 0xE007F then some (0, .tagLetters 0)
  else if isEmoji c then some (0, .emoji)
  else none

/-- The columns that a character adds in front of a tag, and the opening that comes of it, if it joins. -/
def joinTag? (opening : Opening) (c : Char) : Option (Int × Opening) :=
  -- A tag has three to six letters, or three digits and up to four letters after them.
  match opening with
  | .tagLetters count =>
    if isTagLetter c && count < 6 then some (0, .tagLetters (count + 1))
    else if isTagDigit c && count ≤ 4 then some (0, .tagDigits 1)
    else if c.toNat == 0x1F3F4 && 3 ≤ count then some (0, .emoji)
    else none
  | .tagDigits count =>
    if isTagDigit c && count < 3 then some (0, .tagDigits (count + 1))
    else if c.toNat == 0x1F3F4 && count == 3 then some (0, .emoji)
    else none
  | _ => none

/-- The columns that a character adds in front of a vowel, and the opening that comes of it, if it joins. -/
def joinVowel? (opening : Opening) (c : Char) : Option (Int × Opening) :=
  -- A vowel is drawn as one sign or as several.
  if c.toNat == 0x16D63 && (opening == .vowelE || opening == .vowelAi) then some (0, .plain)
  else if opening == .vowelE && c.toNat == 0x16D67 then some (0, .vowelAi)
  else if opening == .vowelE && c.toNat == 0x16D68 then some (1, .vowelE)
  else if opening == .vowelE && c.toNat == 0x16D69 then some (0, .plain)
  else none

/-- The columns that a character adds in front of an alef, and the opening that comes of it, if it joins. -/
def joinAlef? (c : Char) : Option (Int × Opening) :=
  -- A lam and an alef are written as one letter.
  if isLam c then some (0, .plain)
  else if isTransparent c then some (0, .alef)
  else none

/-- The columns that a character adds in front of a letter, and the opening that comes of it, if it joins. -/
def joinLetter? (first : JoiningLetter) (joined : Bool) (c : Char) : Option (Int × Opening) :=
  -- The joiner and unseen characters take no column and leave the letter as it is.
  if c.toNat == 0x200D then some (0, .letter first true)
  else if isUnseen c then some (0, .letter first joined)
  else match first.join? joined c with
    | some (width, some next) => some (width, .letter next true)
    | some (width, none) => some (width, .plain)
    | none => none

/-- Whether a joiner ties a picture that ends here to the next one. -/
def endsPicture : Opening → Bool
  -- One letter makes no flag.
  | .emoji => true
  | .skinTone => true
  | .flagLetters => true
  | .joinedFlags => true
  | .joinedOdd => true
  | _ => false

/-- The columns that a character adds in front of an opening, and what comes of it, if it joins. -/
def join? (opening : Opening) (c : Char) : Option (Int × Opening) :=
  -- Each kind of opening has its own rules.
  if c.toNat == 0x200D && opening.endsPicture then some (0, .joiner)
  else if isFlagLetter c then opening.joinFlag?
  else match opening with
    | .lineFeed => if c == '\r' then some (0, .plain) else none
    | .skinTone => if hasSkin c then some (0, .emoji) else none
    | .joiner => joinPicture? c
    | .tagLetters _ => opening.joinTag? c
    | .tagDigits _ => opening.joinTag? c
    | .vowelE => opening.joinVowel? c
    | .vowelAi => opening.joinVowel? c
    | .alef => joinAlef? c
    | .letter first joined => joinLetter? first joined c
    | _ => none

end Opening

/-- The style that a character picks for the character in front of it. -/
def pickedStyle? (c : Char) : Option Style :=
  -- Other characters of this kind do not decide between picture and sign.
  if c.toNat == 0xFE0F then some .picture
  else if c.toNat == 0xFE0E then some .sign
  else none

/-- Whether a character gives a quotation mark in front of it full width. -/
def picksFullQuote (c : Char) : Bool :=
  -- Other characters of this kind leave the width as it is.
  c.toNat == 0xFE01

/-- Whether a character is a quotation mark that can have full width. -/
def isCurvedQuote (c : Char) : Bool :=
  -- Both kinds of curved marks can, on either side.
  c.toNat == 0x2018 || c.toNat == 0x2019 || c.toNat == 0x201C || c.toNat == 0x201D

/-- The columns that a character takes when it is drawn in a picked style, if it has that style. -/
def styledWidth? (c : Char) (after : StyledOpening) : Option (Int × Opening) :=
  -- Pictures take two columns, and signs one.
  match after.style with
  | some .picture => if hasStyles c then some (if after.opening.tiesPicture then 0 else 2, .emoji) else none
  | some .sign => if narrowsAsSign c then some (1, .plain) else none
  | none => none

/-- What a text begins with for a character that has none of the picked styles. -/
def StyledOpening.withoutStyle (after : StyledOpening) : Opening :=
  -- What picks a style stands between the character and the rest.
  if after.style.isSome || after.fullQuote then after.opening.acrossStyle else after.opening

/-- The columns that a character without a style adds, and what the longer text begins with. -/
def addUnstyled (c : Char) (opening : Opening) (fullQuote : Bool) : Int × StyledOpening :=
  -- What picks a style takes no column.
  match pickedStyle? c with
  | some style => (0, opening.styled style fullQuote)
  | none =>
    if picksFullQuote c then (0, ⟨opening.acrossStyle, none, true⟩)
    else if fullQuote && isCurvedQuote c then (2, ⟨.plain, none, false⟩)
    else match opening.join? c with
      | some (width, opening) => (width, ⟨opening, none, false⟩)
      | none => (charWidth c, ⟨Opening.of c, none, false⟩)

/-- The columns that a character adds to the text after it, and what the longer text begins with. -/
def addWidth (c : Char) (after : StyledOpening) : Int × StyledOpening :=
  -- A character without the picked style is measured as if none were picked.
  match styledWidth? c after with
  | some (width, opening) => (width, ⟨opening, none, false⟩)
  | none => addUnstyled c after.withoutStyle after.fullQuote

/-- The columns that characters take, and what they begin with. -/
def measure (text : List Char) : Int × StyledOpening :=
  -- The width of a character depends on what comes after it.
  text.foldr
    (fun c (width, after) =>
      let (more, here) := addWidth c after
      (width + more, here))
    (0, ⟨.plain, none, false⟩)

/-- The number of columns that a text takes. -/
def textWidth (text : String) : Nat :=
  -- No text takes less than no column.
  (measure text.toList).1.toNat

/-- Whether a character is a printable one of ASCII. -/
def isPrintableAscii (c : Char) : Bool :=
  -- Controls come before the blank and after the tilde.
  0x20 ≤ c.toNat && c.toNat ≤ 0x7E

/-- A printable character of ASCII joins nothing before plain text, which it leaves plain. -/
theorem addWidth_printable {c : Char} (printable : isPrintableAscii c = true) :
    addWidth c ⟨.plain, none, false⟩ = (1, ⟨.plain, none, false⟩) := by
  -- All characters with rules of their own lie outside the range.
  simp only [isPrintableAscii, Bool.and_eq_true, decide_eq_true_eq] at printable
  obtain ⟨low, high⟩ := printable
  have narrow : charWidth c = 1 := charWidth_ascii c (by omega)
  have feed : c ≠ '\n' := by
    rintro rfl
    exact absurd low (by decide)
  have flag : isFlagLetter c = false := by
    simp only [isFlagLetter, Bool.and_eq_false_iff, decide_eq_false_iff_not]
    omega
  have picture : c.toNat ≠ 0xFE0F := by omega
  have sign : c.toNat ≠ 0xFE0E := by omega
  have quote : c.toNat ≠ 0xFE01 := by omega
  have below : c.toNat ≤ 0xA0 := by omega
  simp [addWidth, addUnstyled, StyledOpening.withoutStyle, styledWidth?, pickedStyle?, picksFullQuote,
    Opening.join?, Opening.endsPicture, Opening.of, narrow, feed, flag, picture, sign, quote, below]

/-- Printable characters of ASCII are measured by their number. -/
theorem measure_printable {text : List Char} (printable : text.all isPrintableAscii = true) :
    measure text = ((text.length : Int), ⟨.plain, none, false⟩) := by
  -- Each character adds one column and leaves the text plain.
  induction text with
  | nil => rfl
  | cons c rest ih =>
    simp only [List.all_cons, Bool.and_eq_true] at printable
    have tail : measure rest = ((rest.length : Int), ⟨.plain, none, false⟩) := ih printable.2
    simp only [measure, List.foldr_cons] at tail ⊢
    rw [tail]
    simp [addWidth_printable printable.1]

/-- A text of printable characters of ASCII takes as many columns as it has characters. -/
theorem textWidth_printable {text : String} (printable : text.toList.all isPrintableAscii = true) :
    textWidth text = text.toList.length := by
  -- The measure is not negative.
  simp [textWidth, measure_printable printable]

end Phrasebook
