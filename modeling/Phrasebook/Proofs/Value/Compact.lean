import Phrasebook.Proofs.Decimal.FloatText
import Phrasebook.Value.Reader
import Phrasebook.Value.Text

/-! The JSON text of a value tells which value it is. -/

namespace Phrasebook

/-- Hexadecimal digits are read back. -/
theorem hexValue?_hexDigit : ∀ n < 16, hexValue? (hexDigit n) = some n := by
  decide

/-- A control character is read back from its number. -/
theorem jsonEscape_control (c : Char) (control : c.toNat < 0x20) (rest : List Char) :
    jsonEscape ('u' :: '0' :: '0' :: hexDigit (c.toNat / 16) :: hexDigit (c.toNat % 16) :: rest) = some (c, rest) := by
  have high := hexValue?_hexDigit (c.toNat / 16) (by omega)
  have low := hexValue?_hexDigit (c.toNat % 16) (by omega)
  have zero : hexValue? '0' = some 0 := rfl
  have number : ((0 * 16 + 0) * 16 + c.toNat / 16) * 16 + c.toNat % 16 = c.toNat := by omega
  have small : ¬0xDC00 ≤ c.toNat ∧ ¬0xD800 ≤ c.toNat := by omega
  simp only [jsonEscape, jsonHex4, high, low, zero, Option.bind_eq_bind, Option.bind_some, number, small.1, small.2,
    Option.pure_def, decide_false, Bool.false_and, Bool.false_eq_true, if_false, Char.ofNat_toNat]

/-- A character in a quoted text stands for itself, or it is read back behind a backslash. -/
theorem escapeChar_cases (c : Char) :
    (escapeChar c = [c] ∧ c ≠ '\x22' ∧ c ≠ '\\' ∧ ¬c.toNat < 0x20) ∨
      ∃ code, escapeChar c = '\\' :: code ∧ ∀ rest, jsonEscape (code ++ rest) = some (c, rest) := by
  -- Before the control characters come those with a sign of their own behind the backslash.
  have signed {other sign : Char} (same : (c == other) = true) (reads : ∀ rest, jsonEscape (sign :: rest) = some (other, rest)) :
      ∃ code, ['\\', sign] = '\\' :: code ∧ ∀ rest, jsonEscape (code ++ rest) = some (c, rest) :=
    ⟨[sign], rfl, eq_of_beq same ▸ reads⟩
  unfold escapeChar
  split
  · exact .inr (signed ‹_› fun _ => rfl)
  split
  · exact .inr (signed ‹_› fun _ => rfl)
  split
  · exact .inr (signed ‹_› fun _ => rfl)
  split
  · exact .inr (signed ‹_› fun _ => rfl)
  split
  · exact .inr (signed ‹_› fun _ => rfl)
  split
  · exact .inr (signed ‹_› fun _ => rfl)
  split
  · exact .inr (signed ‹_› fun _ => rfl)
  split
  · rename_i control
    exact .inr ⟨_, rfl, fun rest => jsonEscape_control c control rest⟩
  · rename_i quote backslash _ _ _ _ _ printable
    exact .inl ⟨rfl, by simpa using quote, by simpa using backslash, printable⟩

/-- A quoted text is read back, as long as the bound on the turns is ample. -/
theorem jsonText_quoteChars (text read rest : List Char) {turns : Nat} (ample : text.length < turns) :
    jsonText turns read (text.flatMap escapeChar ++ '\x22' :: rest) = some (String.ofList (read.reverse ++ text), rest) := by
  induction text generalizing read turns with
  | nil =>
    obtain ⟨turns, rfl⟩ : ∃ more, turns = more + 1 := ⟨turns - 1, by simp at ample; omega⟩
    simp [jsonText]
  | cons c text again =>
    obtain ⟨turns, rfl⟩ : ∃ more, turns = more + 1 := ⟨turns - 1, by omega⟩
    have next := again (c :: read) (show text.length < turns by simpa using ample)
    rw [List.flatMap_cons, List.append_assoc]
    rcases escapeChar_cases c with ⟨plain, noQuote, noBackslash, printable⟩ | ⟨code, escaped, reads⟩
    · rw [plain]
      simp [jsonText, noQuote, noBackslash, printable, next]
    · rw [escaped]
      simp [jsonText, reads, next]

/-- Quoted texts that begin the same characters are the same. -/
theorem quoteChars_unique {text text' rest rest' : List Char} (same : quoteChars text ++ rest = quoteChars text' ++ rest') :
    text = text' ∧ rest = rest' := by
  simp only [quoteChars, List.cons_append, List.append_assoc, List.nil_append, List.cons.injEq, true_and] at same
  have first := jsonText_quoteChars text [] rest (show text.length < text.length + text'.length + 1 by omega)
  have second := jsonText_quoteChars text' [] rest' (show text'.length < text.length + text'.length + 1 by omega)
  -- Both are read back from the same characters.
  rw [same, second] at first
  obtain ⟨texts, rests⟩ := Prod.mk.inj (Option.some.inj first)
  exact ⟨(String.ofList_injective texts).symm, rests.symm⟩

/-- What may follow a value inside a container: nothing, a comma, or a closing bracket. -/
def Delimited (rest : List Char) : Prop :=
  -- None of them can stand in a number.
  ∀ c more, rest = c :: more → c = ',' ∨ c = ']' ∨ c = '\x7d'

/-- Nothing delimits a value. -/
theorem delimited_nil : Delimited [] := nofun

/-- A delimiter delimits a value, whatever follows it. -/
theorem delimited_cons {c : Char} (delimits : c = ',' ∨ c = ']' ∨ c = '\x7d') (more : List Char) :
    Delimited (c :: more) := by
  rintro _ _ ⟨rfl, rfl⟩
  exact delimits

/-- Numbers that begin the same characters are the same, if neither goes on. -/
theorem numberChars_unique {number number' rest rest' : List Char} (all : ∀ c ∈ number, isNumberChar c = true)
    (all' : ∀ c ∈ number', isNumberChar c = true) (ends : Delimited rest) (ends' : Delimited rest')
    (same : number ++ rest = number' ++ rest') : number = number' ∧ rest = rest' := by
  have stops {rest : List Char} (ends : Delimited rest) : rest.takeWhile isNumberChar = [] := by
    cases rest with
    | nil => rfl
    | cons c more => rcases ends c more rfl with rfl | rfl | rfl <;> rfl
  have taken := congrArg (List.takeWhile isNumberChar) same
  rw [List.takeWhile_append_of_pos all, List.takeWhile_append_of_pos all', stops ends, stops ends', List.append_nil,
    List.append_nil] at taken
  subst taken
  exact ⟨rfl, List.append_cancel_left same⟩

/-- The characters of an integer. -/
theorem toList_toString (n : Int) :
    (toString n).toList = if 0 ≤ n then decimalDigits n.toNat else '-' :: decimalDigits (-n).toNat := by
  rw [Int.toString_eq_repr, Int.repr_eq_if]
  split
  · exact Nat.toList_repr
  · rw [String.toList_append, Nat.toList_repr]
    rfl

/-- The characters of an integer are digits, perhaps behind a sign. -/
theorem chars_toString (n : Int) : ∀ c ∈ (toString n).toList, c.isDigit = true ∨ c = '-' := by
  intro c inside
  rw [toList_toString] at inside
  split at inside
  · exact .inl (isDigit_decimalDigits c inside)
  · rcases List.mem_cons.mp inside with rfl | inside
    · exact .inr rfl
    · exact .inl (isDigit_decimalDigits c inside)

/-- Different integers have different characters. -/
theorem toString_injective {m n : Int} (same : (toString m).toList = (toString n).toList) : m = n := by
  have digits {a b : Nat} (same : decimalDigits a = decimalDigits b) : a = b := by
    rw [← ofDigitChars_decimalDigits a, same, ofDigitChars_decimalDigits]
  have signs (a b : Nat) : decimalDigits a ≠ '-' :: decimalDigits b := by
    intro equal
    have digit := isDigit_decimalDigits '-' (equal ▸ List.mem_cons_self)
    cases digit
  rw [toList_toString, toList_toString] at same
  split at same <;> split at same
  · have equal := digits same
    omega
  · exact absurd same (signs _ _)
  · exact absurd same.symm (signs _ _)
  · have equal := digits (List.cons.inj same).2
    omega

namespace Value

/-- The kind of value that a character begins: digits and signs all begin numbers. -/
def kindOf (c : Char) : Char :=
  -- All other kinds of values begin with a character of their own.
  if c.isDigit || c == '-' then '0' else c

/-- The kind of a value, told by a character. -/
def kind : Value → Char
  -- Integers and floats are not told apart by their first characters.
  | .null => 'n'
  | .bool true => 't'
  | .bool false => 'f'
  | .int _ => '0'
  | .float _ => '0'
  | .str _ => '\x22'
  | .arr _ => '['
  | .obj _ => '\x7b'

/-- The first character of a value tells its kind. -/
theorem exists_kind (value : Value) : ∃ c rest, value.compactChars = c :: rest ∧ kindOf c = value.kind := by
  have number {c : Char} (starts : c.isDigit = true ∨ c = '-') : kindOf c = '0' := by
    rcases starts with digit | rfl
    · simp [kindOf, digit]
    · rfl
  cases value with
  | null => exact ⟨'n', _, rfl, rfl⟩
  | bool b => cases b <;> exact ⟨_, _, rfl, rfl⟩
  | int n =>
    cases chars : (toString n).toList with
    | nil =>
      rw [toList_toString] at chars
      split at chars
      · exact absurd chars Nat.toDigits_ne_nil
      · cases chars
    | cons c rest => exact ⟨c, rest, chars, number (chars_toString n c (chars ▸ List.mem_cons_self))⟩
  | float x =>
    obtain ⟨_, _, c, rest, shape, starts⟩ := toList_floatText x
    exact ⟨c, rest, shape, number starts⟩
  | str text => exact ⟨'\x22', _, rfl, rfl⟩
  | arr items => exact ⟨'[', _, rfl, rfl⟩
  | obj fields => exact ⟨'\x7b', _, rfl, rfl⟩

/-- Values that begin the same characters are of the same kind. -/
theorem kind_eq {value value' : Value} {rest rest' : List Char}
    (same : value.compactChars ++ rest = value'.compactChars ++ rest') : value.kind = value'.kind := by
  obtain ⟨c, more, shape, kind⟩ := value.exists_kind
  obtain ⟨c', more', shape', kind'⟩ := value'.exists_kind
  rw [shape, shape'] at same
  rw [← kind, ← kind', (List.cons.inj same).1]

/-- No value begins with a closing bracket. -/
theorem compactChars_ne_cons {c : Char} (closing : c = ']' ∨ c = '\x7d') (value : Value) (rest more : List Char) :
    value.compactChars ++ rest ≠ c :: more := by
  have opening : value.kind ≠ ']' ∧ value.kind ≠ '\x7d' := by
    cases value with
    | bool b => cases b <;> decide
    | _ => exact ⟨by simp [kind], by simp [kind]⟩
  intro same
  obtain ⟨first, others, shape, kind⟩ := value.exists_kind
  rw [shape] at same
  obtain rfl := (List.cons.inj same).1
  rcases closing with rfl | rfl
  · exact opening.1 kind.symm
  · exact opening.2 kind.symm

/-- The characters behind the first element of a list, or behind the first field of an object. -/
def restChars {α : Type} (chars : List α → List Char) : List α → List Char
  -- A comma stands in front of each further one.
  | [] => []
  | next :: rest => ',' :: chars (next :: rest)

/-- A list begins with its first element. -/
theorem compactItems_cons (item : Value) (rest : List Value) :
    compactItems (item :: rest) = compactChars item ++ restChars compactItems rest := by
  cases rest with
  | nil => simp [compactItems, restChars]
  | cons next rest => rfl

/-- An object begins with its first field. -/
theorem compactFields_cons (name : String) (value : Value) (rest : List (String × Value)) :
    compactFields ((name, value) :: rest) =
      quoteChars name.toList ++ ':' :: (compactChars value ++ restChars compactFields rest) := by
  cases rest with
  | nil => simp [compactFields, restChars]
  | cons next rest => simp [compactFields, restChars]

/-- What follows the first element is delimited. -/
theorem delimited_restChars {α : Type} (chars : List α → List Char) (rest : List α) {c : Char}
    (closing : c = ',' ∨ c = ']' ∨ c = '\x7d') (more : List Char) : Delimited (restChars chars rest ++ c :: more) := by
  cases rest with
  | nil => exact delimited_cons closing more
  | cons next rest => exact delimited_cons (.inl rfl) _

/-- The characters of an integer and of a float differ. -/
theorem toString_ne_floatText (n : Int) (x : Float) : (toString n).toList ≠ (floatText x).toList := by
  -- Only a float has a point or an exponent.
  intro same
  obtain ⟨_, ⟨mark, inside, which⟩, _⟩ := toList_floatText x
  have digit := chars_toString n mark (same ▸ inside)
  rcases which with rfl | rfl <;> rcases digit with digit | sign
  · cases digit
  · cases sign
  · cases digit
  · cases sign

mutual

/-- Values that begin the same characters are the same, if neither goes on. -/
theorem compactChars_unique : ∀ (value value' : Value) (rest rest' : List Char), Delimited rest → Delimited rest' →
    value.compactChars ++ rest = value'.compactChars ++ rest' → value = value' ∧ rest = rest' := by
  intro value value' rest rest' ends ends' same
  have kinds := kind_eq same
  have numbers : ∀ n : Int, ∀ c ∈ (toString n).toList, isNumberChar c = true := by
    intro n c inside
    rcases chars_toString n c inside with digit | rfl
    · simp [isNumberChar, digit]
    · rfl
  cases value with
  | null =>
    cases value' with
    | null => exact ⟨rfl, List.append_cancel_left same⟩
    | bool b => cases b <;> cases kinds
    | _ => cases kinds
  | bool b =>
    cases value' with
    | bool b' =>
      obtain rfl : b = b' := by
        cases b <;> cases b' <;> first | rfl | cases kinds
      exact ⟨rfl, List.append_cancel_left same⟩
    | _ => cases b <;> cases kinds
  | int n =>
    cases value' with
    | int n' =>
      obtain ⟨chars, rests⟩ := numberChars_unique (numbers n) (numbers n') ends ends' same
      exact ⟨congrArg int (toString_injective chars), rests⟩
    | float x' =>
      obtain ⟨chars, _⟩ := numberChars_unique (numbers n) (toList_floatText x').1 ends ends' same
      exact absurd chars (toString_ne_floatText n x')
    | bool b => cases b <;> cases kinds
    | _ => cases kinds
  | float x =>
    cases value' with
    | int n' =>
      obtain ⟨chars, _⟩ := numberChars_unique (toList_floatText x).1 (numbers n') ends ends' same
      exact absurd chars.symm (toString_ne_floatText n' x)
    | float x' =>
      obtain ⟨chars, rests⟩ := numberChars_unique (toList_floatText x).1 (toList_floatText x').1 ends ends' same
      exact ⟨congrArg float (floatText_injective (String.toList_injective chars)), rests⟩
    | bool b => cases b <;> cases kinds
    | _ => cases kinds
  | str text =>
    cases value' with
    | str text' =>
      obtain ⟨chars, rests⟩ := quoteChars_unique same
      exact ⟨congrArg str (String.toList_injective chars), rests⟩
    | bool b => cases b <;> cases kinds
    | _ => cases kinds
  | arr items =>
    cases value' with
    | arr items' =>
      simp only [compactChars, List.cons_append, List.append_assoc, List.nil_append, List.cons.injEq, true_and] at same
      obtain ⟨items, rests⟩ := compactItems_unique items items' rest rest' same
      exact ⟨congrArg arr items, rests⟩
    | bool b => cases b <;> cases kinds
    | _ => cases kinds
  | obj fields =>
    cases value' with
    | obj fields' =>
      simp only [compactChars, List.cons_append, List.append_assoc, List.nil_append, List.cons.injEq, true_and] at same
      obtain ⟨fields, rests⟩ := compactFields_unique fields fields' rest rest' same
      exact ⟨congrArg obj fields, rests⟩
    | bool b => cases b <;> cases kinds
    | _ => cases kinds

/-- Lists of values that begin the same characters are the same. -/
theorem compactItems_unique : ∀ (items items' : List Value) (rest rest' : List Char),
    compactItems items ++ ']' :: rest = compactItems items' ++ ']' :: rest' → items = items' ∧ rest = rest'
  | [], [], rest, rest', same => by
    exact ⟨rfl, (List.cons.inj same).2⟩
  | [], item' :: items', rest, rest', same => by
    rw [compactItems_cons, List.append_assoc] at same
    exact absurd same.symm (compactChars_ne_cons (.inl rfl) item' _ _)
  | item :: items, [], rest, rest', same => by
    rw [compactItems_cons, List.append_assoc] at same
    exact absurd same (compactChars_ne_cons (.inl rfl) item _ _)
  | item :: items, item' :: items', rest, rest', same => by
    rw [compactItems_cons, compactItems_cons, List.append_assoc, List.append_assoc] at same
    obtain ⟨rfl, others⟩ := compactChars_unique item item' _ _ (delimited_restChars _ items (.inr (.inl rfl)) rest)
      (delimited_restChars _ items' (.inr (.inl rfl)) rest') same
    -- Either both lists end, or both go on after a comma.
    cases items with
    | nil =>
      cases items' with
      | nil => exact ⟨rfl, (List.cons.inj others).2⟩
      | cons next' more' => cases (List.cons.inj others).1
    | cons next more =>
      cases items' with
      | nil => cases (List.cons.inj others).1
      | cons next' more' =>
        obtain ⟨tails, rests⟩ := compactItems_unique (next :: more) (next' :: more') rest rest' (List.cons.inj others).2
        exact ⟨congrArg (item :: ·) tails, rests⟩

/-- Fields that begin the same characters are the same. -/
theorem compactFields_unique : ∀ (fields fields' : List (String × Value)) (rest rest' : List Char),
    compactFields fields ++ '\x7d' :: rest = compactFields fields' ++ '\x7d' :: rest' → fields = fields' ∧ rest = rest'
  | [], [], rest, rest', same => by
    exact ⟨rfl, (List.cons.inj same).2⟩
  | [], (name', value') :: fields', rest, rest', same => by
    rw [compactFields_cons] at same
    cases (List.cons.inj same).1
  | (name, value) :: fields, [], rest, rest', same => by
    rw [compactFields_cons] at same
    cases (List.cons.inj same).1
  | (name, value) :: fields, (name', value') :: fields', rest, rest', same => by
    rw [compactFields_cons, compactFields_cons, List.append_assoc, List.append_assoc] at same
    obtain ⟨names, others⟩ := quoteChars_unique same
    obtain rfl := String.toList_injective names
    simp only [List.cons_append, List.append_assoc, List.cons.injEq, true_and] at others
    obtain ⟨rfl, behind⟩ := compactChars_unique value value' _ _ (delimited_restChars _ fields (.inr (.inr rfl)) rest)
      (delimited_restChars _ fields' (.inr (.inr rfl)) rest') others
    -- Either both objects end, or both go on after a comma.
    cases fields with
    | nil =>
      cases fields' with
      | nil => exact ⟨rfl, (List.cons.inj behind).2⟩
      | cons next' more' => cases (List.cons.inj behind).1
    | cons next more =>
      cases fields' with
      | nil => cases (List.cons.inj behind).1
      | cons next' more' =>
        obtain ⟨tails, rests⟩ := compactFields_unique (next :: more) (next' :: more') rest rest' (List.cons.inj behind).2
        exact ⟨congrArg ((name, value) :: ·) tails, rests⟩

end

/-- Different values have different JSON texts. -/
theorem compact_injective {value value' : Value} (same : value.compact = value'.compact) : value = value' := by
  have chars := String.ofList_injective same
  refine (compactChars_unique value value' [] [] delimited_nil delimited_nil ?_).1
  rw [List.append_nil, List.append_nil, chars]

end Value

end Phrasebook
