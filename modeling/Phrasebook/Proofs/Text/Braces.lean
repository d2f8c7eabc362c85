import Phrasebook.Proofs.Reading.Parts
import Phrasebook.Text.Reader

/-! The scan for a closing brace passes over every text whose quotes and braces are balanced. -/

namespace Phrasebook

/-- The scan after several characters, or nothing if one of them closes the expression. -/
def BraceScan.run? (scan : BraceScan) : List Char → Option BraceScan
  -- Each character goes on where the one before has led.
  | [] => some scan
  | c :: rest => (scan.next? c).bind fun scan => scan.run? rest

/-- Two texts in a row are scanned one after the other. -/
theorem BraceScan.run?_append (scan : BraceScan) (front back : List Char) :
    scan.run? (front ++ back) = (scan.run? front).bind fun scan => scan.run? back := by
  induction front generalizing scan with
  | nil => rfl
  | cons c front later =>
    rw [List.cons_append, run?, run?]
    cases scan.next? c with
    | none => rfl
    | some scan => exact later scan

/-- The end of an expression is looked for after all that the scan passes over. -/
theorem closeExpression_append {scan later : BraceScan} {read : List Char} (passed : scan.run? read = some later)
    (more : List Char) :
    closeExpression scan (read ++ more) =
      (closeExpression later more).map fun (body, after) => (read ++ body, after) := by
  induction read generalizing scan with
  | nil =>
    cases passed
    rw [List.nil_append]
    cases closeExpression later more <;> rfl
  | cons c read rest =>
    rw [BraceScan.run?] at passed
    obtain ⟨next, step, passed⟩ := Option.bind_eq_some_iff.mp passed
    rw [List.cons_append, closeExpression, step]
    dsimp only
    rw [rest passed, Option.map_map]
    rfl

/-- Whether quotes and braces are closed within a text, however many braces are open around it. -/
def Balanced (text : List Char) : Prop :=
  -- No quote is open at either end.
  ∀ depth, BraceScan.run? ⟨depth, none, false⟩ text = some ⟨depth, none, false⟩

/-- Two balanced texts in a row are balanced. -/
theorem joined_balanced : Joined Balanced where
  nil _ := rfl
  append front back depth := by
    rw [BraceScan.run?_append, front depth]
    exact back depth

/-- The first brace behind a balanced text closes the expression, whatever follows. -/
theorem Balanced.closeExpression {read : List Char} (balanced : Balanced read) (after : List Char) :
    closeExpression .start (read ++ '\x7d' :: after) = some (read, after) := by
  rw [BraceScan.start, closeExpression_append (balanced 0)]
  simp [Phrasebook.closeExpression, BraceScan.next?]

/-- Whether a character is neither a quote nor a brace. -/
def isCalm (c : Char) : Bool :=
  -- The scan takes no notice of it outside quotes.
  c != '\x27' && c != '\x22' && c != '\x7b' && c != '\x7d'

/-- A text without quotes and braces is balanced. -/
theorem balanced_of_calm {text : List Char} (calm : ∀ c ∈ text, isCalm c = true) : Balanced text := by
  intro depth
  induction text with
  | nil => rfl
  | cons c text rest =>
    obtain ⟨here, later⟩ := List.forall_mem_cons.mp calm
    simp only [isCalm, Bool.and_eq_true, bne_iff_ne] at here
    have passed : BraceScan.next? ⟨depth, none, false⟩ c = some ⟨depth, none, false⟩ := by
      simp [BraceScan.next?, here]
    rw [BraceScan.run?, passed]
    exact rest later

/-- A balanced text between braces is balanced. -/
theorem Balanced.braces {inner : List Char} (balanced : Balanced inner) :
    Balanced ('\x7b' :: (inner ++ ['\x7d'])) := by
  intro depth
  change BraceScan.run? ⟨depth + 1, none, false⟩ (inner ++ ['\x7d']) = _
  rw [BraceScan.run?_append, balanced (depth + 1)]
  rfl

/-- A balanced text between signs that are neither quotes nor braces is balanced. -/
theorem Balanced.between {inner : List Char} (balanced : Balanced inner) {opening closing : Char}
    (opens : isCalm opening = true) (closes : isCalm closing = true) : Balanced (opening :: (inner ++ [closing])) := by
  have calm (c : Char) (this : isCalm c = true) : Balanced [c] :=
    balanced_of_calm fun other inside => List.mem_singleton.mp inside ▸ this
  exact joined_balanced.append (calm opening opens) (joined_balanced.append balanced (calm closing closes))

/-- The quote ends a quoted text. -/
theorem quotedRest_quote (quote : Char) (rest : List Char) : quotedRest quote (quote :: rest) = some ([], rest) := by
  unfold quotedRest
  simp

/-- A backslash takes the next character of a quoted text with it. -/
theorem quotedRest_escaped {quote : Char} (apart : quote ≠ '\\') (escaped : Char) (rest : List Char) :
    quotedRest quote ('\\' :: escaped :: rest) =
      (quotedRest quote rest).map fun (read, after) => (unescapeChar escaped :: read, after) := by
  have other : ('\\' == quote) = false := beq_false_of_ne apart.symm
  conv => lhs; unfold quotedRest
  simp [other]

/-- All other characters of a quoted text stand for themselves. -/
theorem quotedRest_plain {quote c : Char} (apart : c ≠ quote) (plain : c ≠ '\\') (rest : List Char) :
    quotedRest quote (c :: rest) = (quotedRest quote rest).map fun (read, after) => (c :: read, after) := by
  have other : (c == quote) = false := beq_false_of_ne apart
  have simple : (c == '\\') = false := beq_false_of_ne plain
  conv => lhs; unfold quotedRest
  simp [other, simple]

/-- The rest of a quoted text is passed over up to its quote. -/
theorem run?_of_quotedRest {quote : Char} (sign : quote = '\x27' ∨ quote = '\x22') {text read after : List Char}
    (quoted : quotedRest quote text = some (read, after)) :
    ∃ raw, text = raw ++ quote :: after ∧
      ∀ depth, BraceScan.run? ⟨depth, some quote, false⟩ (raw ++ [quote]) = some ⟨depth, none, false⟩ := by
  have apart : quote ≠ '\\' := by rcases sign with rfl | rfl <;> decide
  -- A quote is no backslash, so it does not matter which of them is looked for first.
  fun_induction quotedRest quote text generalizing read with
  | case1 => cases quoted
  | case2 c rest same =>
    cases quoted
    obtain rfl : c = quote := eq_of_beq same
    exact ⟨[], rfl, fun depth => by simp [BraceScan.run?, BraceScan.next?, apart]⟩
  | case3 c other same => cases quoted
  | case4 c other same escaped rest later =>
    obtain ⟨⟨inner, behind⟩, found, equal⟩ := Option.map_eq_some_iff.mp quoted
    cases equal
    obtain rfl : c = '\\' := eq_of_beq same
    obtain ⟨raw, rfl, passed⟩ := later found
    refine ⟨'\\' :: escaped :: raw, rfl, fun depth => ?_⟩
    simp [BraceScan.run?, BraceScan.next?, passed depth]
  | case5 c rest other plain later =>
    obtain ⟨⟨inner, behind⟩, found, equal⟩ := Option.map_eq_some_iff.mp quoted
    cases equal
    obtain ⟨raw, rfl, passed⟩ := later found
    refine ⟨c :: raw, rfl, fun depth => ?_⟩
    simp [BraceScan.run?, BraceScan.next?, ne_of_beq_false, *]

/-- A quoted text that is read starts with one of the quotes, which also ends it. -/
theorem exists_of_quotedText {text rest : List Char} {value : String} (done : quotedText text = .done value rest) :
    ∃ quote behind read, text = quote :: behind ∧ (quote = '\x27' ∨ quote = '\x22') ∧
      quotedRest quote behind = some (read, rest) ∧ value = String.ofList read := by
  unfold quotedText at done
  split at done
  · rename_i quote behind
    split at done
    · rename_i sign
      rw [Bool.or_eq_true, beq_iff_eq, beq_iff_eq] at sign
      split at done
      · rename_i read after quoted
        cases done
        exact ⟨quote, behind, read, rfl, sign, quoted, rfl⟩
      · cases done
    · cases done
  · cases done

/-- A quoted text is balanced, whatever stands between its quotes. -/
theorem quotedText_reads : quotedText.Reads Balanced fun _ => True := by
  intro text value rest done
  obtain ⟨quote, behind, read, rfl, sign, quoted, -⟩ := exists_of_quotedText done
  obtain ⟨raw, rfl, passed⟩ := run?_of_quotedRest sign quoted
  refine ⟨quote :: (raw ++ [quote]), by simp, fun depth => ?_, trivial⟩
  have opened : BraceScan.next? ⟨depth, none, false⟩ quote = some ⟨depth, some quote, false⟩ := by
    rcases sign with rfl | rfl <;> rfl
  rw [BraceScan.run?, opened]
  exact passed depth

end Phrasebook
