import Phrasebook.Proofs.Decimal.Shortest

/-! The text of a float tells which float it is. -/

namespace Phrasebook

/-- The exponent that stands behind the digits of a decimal. -/
def exponentOfChars : List Char → Int
  -- Without a sign there is no exponent.
  | 'e' :: '-' :: digits => -Nat.ofDigitChars 10 digits 0
  | 'e' :: '+' :: digits => Nat.ofDigitChars 10 digits 0
  | _ => 0

/-- The digits behind the point of a decimal, and what follows them. -/
def fractionOfChars : List Char → List Char × List Char
  -- Without a point there are none.
  | '.' :: rest => (rest.takeWhile Char.isDigit, rest.dropWhile Char.isDigit)
  | rest => ([], rest)

/-- The number that the characters of a decimal stand for. -/
def numberOfChars (chars : List Char) : ℚ :=
  -- The fraction moves the point to the left.
  let (fraction, rest) := fractionOfChars (chars.dropWhile Char.isDigit)
  Nat.ofDigitChars 10 (chars.takeWhile Char.isDigit ++ fraction) 0 * (10 : ℚ) ^ (exponentOfChars rest - fraction.length)

/-- What stands behind digits does not begin with one. -/
def EndsDigits (rest : List Char) : Prop :=
  -- Either nothing follows, or another character does.
  ∀ c more, rest = c :: more → c.isDigit = false

/-- Nothing behind digits ends them. -/
theorem endsDigits_nil : EndsDigits [] :=
  nofun

/-- A character that is no digit ends them. -/
theorem endsDigits_cons {c : Char} {rest : List Char} (other : c.isDigit = false) : EndsDigits (c :: rest) := by
  rintro _ _ ⟨rfl, rfl⟩
  exact other

/-- Digits are taken as a whole. -/
theorem takeWhile_digits {digits rest : List Char} (all : ∀ c ∈ digits, c.isDigit = true) (ends : EndsDigits rest) :
    (digits ++ rest).takeWhile Char.isDigit = digits ∧ (digits ++ rest).dropWhile Char.isDigit = rest := by
  rw [List.takeWhile_append_of_pos all, List.dropWhile_append_of_pos all]
  cases rest with
  | nil => simp
  | cons c more => simp [ends c more rfl]

/-- The number of digits around a point, perhaps with an exponent. -/
theorem numberOfChars_point {whole fraction rest : List Char} (digits : ∀ c ∈ whole, c.isDigit = true)
    (digits' : ∀ c ∈ fraction, c.isDigit = true) (ends : EndsDigits rest) :
    numberOfChars (whole ++ '.' :: (fraction ++ rest)) =
      Nat.ofDigitChars 10 (whole ++ fraction) 0 * (10 : ℚ) ^ (exponentOfChars rest - fraction.length) := by
  have point : EndsDigits ('.' :: (fraction ++ rest)) := endsDigits_cons rfl
  obtain ⟨taken, dropped⟩ := takeWhile_digits digits point
  obtain ⟨taken', dropped'⟩ := takeWhile_digits digits' ends
  simp only [numberOfChars, taken, dropped, fractionOfChars, taken', dropped']

/-- Where nothing is written there is no exponent. -/
theorem exponentOfChars_nil : exponentOfChars [] = 0 :=
  rfl

/-- The number of digits around a point alone. -/
theorem numberOfChars_plain {whole fraction : List Char} (digits : ∀ c ∈ whole, c.isDigit = true)
    (digits' : ∀ c ∈ fraction, c.isDigit = true) :
    numberOfChars (whole ++ '.' :: fraction) =
      Nat.ofDigitChars 10 (whole ++ fraction) 0 * (10 : ℚ) ^ (-fraction.length : Int) := by
  have read := numberOfChars_point digits digits' endsDigits_nil
  rwa [List.append_nil, exponentOfChars_nil, Int.zero_sub] at read

/-- The number of digits with an exponent and without a point. -/
theorem numberOfChars_whole {whole rest : List Char} (digits : ∀ c ∈ whole, c.isDigit = true) :
    numberOfChars (whole ++ 'e' :: rest) =
      Nat.ofDigitChars 10 whole 0 * (10 : ℚ) ^ exponentOfChars ('e' :: rest) := by
  have mark : EndsDigits ('e' :: rest) := endsDigits_cons rfl
  obtain ⟨taken, dropped⟩ := takeWhile_digits digits mark
  simp [numberOfChars, taken, dropped, fractionOfChars]

/-- All characters of a written number are digits. -/
theorem isDigit_decimalDigits {n : Nat} : ∀ c ∈ decimalDigits n, c.isDigit = true :=
  fun _ inside => Nat.isDigit_of_mem_toDigits (by decide) (by decide) inside

/-- The digits of a written number spell it. -/
theorem ofDigitChars_decimalDigits (n : Nat) : Nat.ofDigitChars 10 (decimalDigits n) 0 = n :=
  Nat.ofDigitChars_ten_toDigits

/-- Zeros in front of digits do not count. -/
theorem ofDigitChars_zeros_append (zeros : Nat) (digits : List Char) :
    Nat.ofDigitChars 10 (List.replicate zeros '0' ++ digits) 0 = Nat.ofDigitChars 10 digits 0 := by
  rw [Nat.ofDigitChars_append, Nat.ofDigitChars_replicate_zero, Nat.mul_zero]

/-- Zeros are digits. -/
theorem isDigit_zeros (n : Nat) : ∀ c ∈ List.replicate n '0', c.isDigit = true := by
  intro c inside
  rw [List.eq_of_mem_replicate inside]
  rfl

/-- The number of digits that a point divides. -/
theorem numberOfChars_divided (n place : Nat) {rest : List Char} (ends : EndsDigits rest) :
    numberOfChars ((decimalDigits n).take place ++ '.' :: ((decimalDigits n).drop place ++ rest)) =
      n * (10 : ℚ) ^ (exponentOfChars rest - ((decimalDigits n).length - place : Nat)) := by
  rw [numberOfChars_point (fun c inside => isDigit_decimalDigits c (List.mem_of_mem_take inside))
    (fun c inside => isDigit_decimalDigits c (List.mem_of_mem_drop inside)) ends, List.take_append_drop,
    ofDigitChars_decimalDigits, List.length_drop]

/-- The characters of an exponent, which always carry its sign. -/
def exponentChars (exponent : Int) : List Char :=
  -- The mark keeps the exponent apart from the digits.
  'e' :: (if exponent < 0 then '-' else '+') :: decimalDigits exponent.natAbs

/-- An exponent is read from its characters. -/
theorem exponentOfChars_exponentChars (exponent : Int) : exponentOfChars (exponentChars exponent) = exponent := by
  unfold exponentChars
  split <;> simp only [exponentOfChars, ofDigitChars_decimalDigits] <;> omega

/-- An exponent ends the digits in front of it. -/
theorem endsDigits_exponentChars (exponent : Int) : EndsDigits (exponentChars exponent) :=
  endsDigits_cons rfl

/-- The layouts in which a decimal is written. -/
inductive Decimal.IsWritten (d : Decimal) : List Char → Prop where
  /-- Zero, whatever its exponent is. -/
  | zero : d.digits = 0 → d.IsWritten ['0', '.', '0']
  /-- All digits before the point, and perhaps zeros behind them. -/
  | whole {zeros : Nat} : d.exponent = zeros →
      d.IsWritten ((decimalDigits d.digits ++ List.replicate zeros '0') ++ '.' :: ['0'])
  /-- All digits behind the point, and perhaps zeros in front of them. -/
  | fraction {zeros : Nat} : d.exponent = -(zeros + (decimalDigits d.digits).length) →
      d.IsWritten (['0'] ++ '.' :: (List.replicate zeros '0' ++ decimalDigits d.digits))
  /-- The point among the digits. -/
  | divided {before : Nat} : d.exponent = -((decimalDigits d.digits).length - (before + 1) : Nat) →
      d.IsWritten ((decimalDigits d.digits).take (before + 1) ++ '.' :: (decimalDigits d.digits).drop (before + 1))
  /-- One digit, and an exponent. -/
  | single : (decimalDigits d.digits).length = 1 →
      d.IsWritten (decimalDigits d.digits ++ exponentChars d.exponent)
  /-- One digit before the point, and an exponent that makes up for it. -/
  | scaled : d.IsWritten ((decimalDigits d.digits).take 1 ++ '.' :: ((decimalDigits d.digits).drop 1 ++
      exponentChars (d.exponent + ((decimalDigits d.digits).length - 1 : Nat))))

/-- A decimal is written in one of the layouts. -/
theorem Decimal.isWritten_chars (d : Decimal) : d.IsWritten d.chars := by
  have some : 0 < (decimalDigits d.digits).length := Nat.length_toDigits_pos
  unfold Decimal.chars
  dsimp only
  split
  · rename_i zero
    exact .zero (beq_iff_eq.mp zero)
  · split
    · split
      · rename_i positive
        rw [List.append_assoc]
        simpa using IsWritten.whole (Int.toNat_of_nonneg positive).symm
      · split
        · rename_i small
          exact .fraction (by omega)
        · exact .divided (by omega)
    · have lead : d.exponent + (decimalDigits d.digits).length - 1 =
          d.exponent + ((decimalDigits d.digits).length - 1 : Nat) := by omega
      rw [lead]
      split
      · rename_i none
        have single : (decimalDigits d.digits).length = 1 := by
          have short := congrArg List.length (List.isEmpty_iff.mp none)
          simp only [List.length_drop, List.length_nil] at short
          omega
        have written := IsWritten.single single
        simpa [exponentChars, single, List.take_of_length_le] using written
      · rw [List.append_assoc]
        exact .scaled

/-- A decimal is read from its characters. -/
theorem Decimal.IsWritten.numberOfChars_eq {d : Decimal} {chars : List Char} (written : d.IsWritten chars) :
    numberOfChars chars = d.value := by
  have lone : ∀ c ∈ ['0'], c.isDigit = true := isDigit_zeros 1
  have digits : ∀ c ∈ decimalDigits d.digits, c.isDigit = true := isDigit_decimalDigits
  unfold Decimal.value
  cases written with
  | zero none =>
    have read := numberOfChars_plain lone lone
    simpa [none, Nat.ofDigitChars] using read
  | @whole zeros same =>
    rw [numberOfChars_plain (List.forall_mem_append.mpr ⟨digits, isDigit_zeros zeros⟩) lone, Nat.ofDigitChars_append,
      Nat.ofDigitChars_append, ofDigitChars_decimalDigits, Nat.ofDigitChars_replicate_zero, same]
    simp [Nat.ofDigitChars]
    ring
  | @fraction zeros same =>
    rw [numberOfChars_plain lone (List.forall_mem_append.mpr ⟨isDigit_zeros zeros, digits⟩),
      show ['0'] = List.replicate 1 '0' from rfl, ofDigitChars_zeros_append, ofDigitChars_zeros_append,
      ofDigitChars_decimalDigits, same]
    simp
  | @divided before same =>
    have read := numberOfChars_divided d.digits (before + 1) endsDigits_nil
    rwa [List.append_nil, exponentOfChars_nil, Int.zero_sub, ← same] at read
  | single one =>
    rw [exponentChars, numberOfChars_whole digits, ofDigitChars_decimalDigits, ← exponentChars,
      exponentOfChars_exponentChars]
  | scaled =>
    rw [numberOfChars_divided d.digits 1 (endsDigits_exponentChars _), exponentOfChars_exponentChars,
      Int.add_sub_cancel]

/-- The first character of a decimal is a digit. -/
theorem Decimal.IsWritten.exists_digit {d : Decimal} {chars : List Char} (written : d.IsWritten chars) :
    ∃ c rest, chars = c :: rest ∧ c.isDigit = true := by
  have some : decimalDigits d.digits ≠ [] := Nat.toDigits_ne_nil
  obtain ⟨c, rest, shape⟩ := List.exists_cons_of_ne_nil some
  have first : c.isDigit = true := isDigit_decimalDigits c (shape ▸ List.mem_cons_self)
  cases written with
  | zero => exact ⟨'0', _, rfl, rfl⟩
  | whole => exact ⟨c, _, by rw [shape]; rfl, first⟩
  | fraction => exact ⟨'0', _, rfl, rfl⟩
  | divided => exact ⟨c, _, by rw [shape]; rfl, first⟩
  | single => exact ⟨c, _, by rw [shape]; rfl, first⟩
  | scaled => exact ⟨c, _, by rw [shape]; rfl, first⟩

/-- Texts of different floats differ. -/
theorem floatText_injective {x y : Float} (same : floatText x = floatText y) : x = y := by
  have chars := String.ofList_injective same
  obtain ⟨c, rest, shape, digit⟩ := (Binary.ofBits x.toBits).shortest.isWritten_chars.exists_digit
  obtain ⟨c', rest', shape', digit'⟩ := (Binary.ofBits y.toBits).shortest.isWritten_chars.exists_digit
  have unsigned : c ≠ '-' ∧ '-' ≠ c' := by
    constructor <;> rintro rfl <;> contradiction
  -- A decimal never begins with a sign, so the signs can be told apart from the digits.
  have parts : (x.toBits >>> 63 == 1) = (y.toBits >>> 63 == 1) ∧
      (Binary.ofBits x.toBits).shortest.chars = (Binary.ofBits y.toBits).shortest.chars := by
    rw [shape, shape'] at chars ⊢
    generalize (x.toBits >>> 63 == 1) = negative, (y.toBits >>> 63 == 1) = negative' at chars ⊢
    cases negative <;> cases negative' <;> simp_all
  refine float_eq_of_shortest parts.1 ?_
  rw [← (Decimal.isWritten_chars _).numberOfChars_eq, ← (Decimal.isWritten_chars _).numberOfChars_eq, parts.2]

/-- Whether a character can stand in a written number. -/
def isNumberChar (c : Char) : Bool :=
  -- Blanks and commas cannot.
  c.isDigit || c == '.' || c == 'e' || c == '+' || c == '-'

/-- Digits can stand in a written number. -/
theorem isNumberChar_digits {digits : List Char} (all : ∀ c ∈ digits, c.isDigit = true) :
    ∀ c ∈ digits, isNumberChar c = true := by
  intro c inside
  simp [isNumberChar, all c inside]

/-- The characters of an exponent can stand in a written number. -/
theorem isNumberChar_exponentChars (exponent : Int) : ∀ c ∈ exponentChars exponent, isNumberChar c = true := by
  intro c inside
  rcases List.mem_cons.mp inside with rfl | inside
  · rfl
  · rcases List.mem_cons.mp inside with rfl | inside
    · split <;> rfl
    · exact isNumberChar_digits isDigit_decimalDigits c inside

/-- A decimal is written in characters of numbers. -/
theorem Decimal.IsWritten.all_isNumberChar {d : Decimal} {chars : List Char} (written : d.IsWritten chars) :
    ∀ c ∈ chars, isNumberChar c = true := by
  have digits : ∀ c ∈ decimalDigits d.digits, isNumberChar c = true := isNumberChar_digits isDigit_decimalDigits
  have zeros : ∀ n, ∀ c ∈ List.replicate n '0', isNumberChar c = true := fun n => isNumberChar_digits (isDigit_zeros n)
  have taken (n : Nat) : ∀ c ∈ (decimalDigits d.digits).take n, isNumberChar c = true :=
    fun c inside => digits c (List.mem_of_mem_take inside)
  have dropped (n : Nat) : ∀ c ∈ (decimalDigits d.digits).drop n, isNumberChar c = true :=
    fun c inside => digits c (List.mem_of_mem_drop inside)
  have point {whole fraction : List Char} (left : ∀ c ∈ whole, isNumberChar c = true)
      (right : ∀ c ∈ fraction, isNumberChar c = true) : ∀ c ∈ whole ++ '.' :: fraction, isNumberChar c = true :=
    List.forall_mem_append.mpr ⟨left, List.forall_mem_cons.mpr ⟨rfl, right⟩⟩
  cases written with
  | zero => exact point (zeros 1) (zeros 1)
  | whole => exact point (List.forall_mem_append.mpr ⟨digits, zeros _⟩) (zeros 1)
  | fraction => exact point (zeros 1) (List.forall_mem_append.mpr ⟨zeros _, digits⟩)
  | divided => exact point (taken _) (dropped _)
  | single => exact List.forall_mem_append.mpr ⟨digits, isNumberChar_exponentChars _⟩
  | scaled => exact point (taken 1) (List.forall_mem_append.mpr ⟨dropped 1, isNumberChar_exponentChars _⟩)

/-- A decimal has a point or an exponent, by which it is told from an integer. -/
theorem Decimal.IsWritten.exists_mark {d : Decimal} {chars : List Char} (written : d.IsWritten chars) :
    ∃ c ∈ chars, c = '.' ∨ c = 'e' := by
  cases written with
  | single => exact ⟨'e', List.mem_append_right _ List.mem_cons_self, .inr rfl⟩
  | _ => exact ⟨'.', by simp, .inl rfl⟩

/-- The characters of a float are those of numbers, with a point or an exponent, and begin like a number. -/
theorem toList_floatText (x : Float) :
    (∀ c ∈ (floatText x).toList, isNumberChar c = true) ∧ (∃ c ∈ (floatText x).toList, c = '.' ∨ c = 'e') ∧
      ∃ c rest, (floatText x).toList = c :: rest ∧ (c.isDigit = true ∨ c = '-') := by
  have written := (Binary.ofBits x.toBits).shortest.isWritten_chars
  obtain ⟨c, rest, shape, digit⟩ := written.exists_digit
  obtain ⟨mark, inside, which⟩ := written.exists_mark
  rw [floatText, String.toList_ofList]
  split
  · refine ⟨fun other within => ?_, ⟨mark, List.mem_cons_of_mem _ inside, which⟩, '-', _, rfl, .inr rfl⟩
    rcases List.mem_cons.mp within with rfl | within
    · rfl
    · exact written.all_isNumberChar other within
  · exact ⟨written.all_isNumberChar, ⟨mark, inside, which⟩, c, rest, shape, .inl digit⟩

end Phrasebook
