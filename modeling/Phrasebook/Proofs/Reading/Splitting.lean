import Phrasebook.Reading.Lines

/-! A text and the parts between its separators tell each other. -/

namespace Phrasebook

/-- Splitting gives at least one part. -/
theorem splitAt_ne_nil (separator : Char) (text : List Char) : splitAt separator text ≠ [] := by
  cases text with
  | nil => simp [splitAt]
  | cons c rest =>
    rw [splitAt]
    split
    · simp
    · split <;> simp

/-- A text without the separator is one part. -/
theorem splitAt_of_not_mem {separator : Char} {text : List Char} (absent : separator ∉ text) :
    splitAt separator text = [text] := by
  induction text with
  | nil => rfl
  | cons c rest ih =>
    rw [List.mem_cons, not_or] at absent
    have other : (c == separator) = false := by simpa using Ne.symm absent.1
    simp [splitAt, ih absent.2, other]

/-- A separator divides the parts of what stands before it from those of what stands after it. -/
theorem splitAt_append (separator : Char) (before after : List Char) :
    splitAt separator (before ++ separator :: after) = splitAt separator before ++ splitAt separator after := by
  induction before with
  | nil =>
    cases parts : splitAt separator after with
    | nil => exact absurd parts (splitAt_ne_nil separator after)
    | cons part rest => simp [splitAt, parts]
  | cons c more ih =>
    cases parts : splitAt separator more with
    | nil => exact absurd parts (splitAt_ne_nil separator more)
    | cons part rest =>
      rw [parts, List.cons_append] at ih
      by_cases here : (c == separator) = true
      · simp [splitAt, ih, parts, here]
      · simp [splitAt, ih, parts, here]

/-- The first separator of a text tells what stands before it and what stands after it. -/
theorem append_cons_inj {separator : Char} {front front' back back' : List Char} (plain : separator ∉ front)
    (plain' : separator ∉ front') (same : front ++ separator :: back = front' ++ separator :: back') :
    front = front' ∧ back = back' := by
  have parts := congrArg (splitAt separator) same
  rw [splitAt_append, splitAt_append, splitAt_of_not_mem plain, splitAt_of_not_mem plain'] at parts
  obtain rfl : front = front' := (List.cons.inj parts).1
  exact ⟨rfl, (List.cons.inj (List.append_cancel_left same)).2⟩

/-- No part holds the separator. -/
theorem not_mem_of_mem_splitAt {separator : Char} {text part : List Char} (inside : part ∈ splitAt separator text) :
    separator ∉ part := by
  induction text generalizing part with
  | nil =>
    rw [List.mem_singleton.mp inside]
    exact List.not_mem_nil
  | cons c rest ih =>
    rw [splitAt] at inside
    split at inside
    · rw [List.mem_singleton.mp inside]
      exact List.not_mem_nil
    · rename_i first others parts
      rw [parts] at ih
      split at inside
      · rcases List.mem_cons.mp inside with rfl | later
        · exact List.not_mem_nil
        · exact ih later
      · rename_i other
        rcases List.mem_cons.mp inside with rfl | later
        · rw [List.mem_cons, not_or]
          exact ⟨fun same => other (beq_iff_eq.mpr same.symm), ih List.mem_cons_self⟩
        · exact ih (List.mem_cons_of_mem first later)

/-- Parts without the separator are found again in the text that they make up. -/
theorem splitAt_intercalate {separator : Char} {parts : List (List Char)} (some : parts ≠ [])
    (plain : ∀ part ∈ parts, separator ∉ part) : splitAt separator (List.intercalate [separator] parts) = parts := by
  induction parts with
  | nil => exact absurd rfl some
  | cons part parts ih =>
    obtain ⟨first, others⟩ := List.forall_mem_cons.mp plain
    cases parts with
    | nil => simpa using splitAt_of_not_mem first
    | cons next parts =>
      rw [List.intercalate_cons_cons, List.append_assoc, List.singleton_append, splitAt_append, splitAt_of_not_mem first,
        ih (List.cons_ne_nil next parts) others]
      rfl

/-- The parts of a text make it up again. -/
theorem intercalate_splitAt (separator : Char) (text : List Char) :
    List.intercalate [separator] (splitAt separator text) = text := by
  induction text with
  | nil => simp [splitAt]
  | cons c rest ih =>
    cases parts : splitAt separator rest with
    | nil => exact absurd parts (splitAt_ne_nil separator rest)
    | cons part others =>
      rw [parts] at ih
      simp only [splitAt, parts]
      split
      · rename_i here
        rw [List.intercalate_cons_cons, ih, eq_of_beq here]
        rfl
      · -- The first part has one character more.
        rw [← ih]
        cases others <;> simp [List.intercalate_cons_cons]

end Phrasebook
