import Phrasebook.Proofs.Text.Scan
import Phrasebook.Text.Split

/-! Texts with separators between them are split into these texts, whatever white space stands around the separators. -/

namespace Phrasebook

/-- Whether a text is cut at its first live separator into given parts. -/
def CutsTo (separator : Char) (text before : List Char) (cut : Option (List Char)) : Prop :=
  -- More turns than characters make no difference.
  ∀ turns, text.length ≤ turns → cutAtSeparator separator turns text = (before, cut)

/-- Whether a separator is looked for behind a text only. -/
def Passed (separator : Char) (text : List Char) : Prop :=
  -- What follows is cut as it would be alone.
  ∀ rest before cut, CutsTo separator rest before cut → CutsTo separator (text ++ rest) (text ++ before) cut

section Cuts

variable {separator : Char}

/-- Nothing is cut at the end of a text. -/
theorem cutsTo_nil : CutsTo separator [] [] none := by
  intro turns _
  cases turns <;> rfl

/-- A text that is passed is not cut. -/
theorem Passed.cutsTo {text : List Char} (passed : Passed separator text) : CutsTo separator text text none := by
  have alone := passed [] [] none cutsTo_nil
  rwa [List.append_nil] at alone

/-- A character that starts neither an escape nor an expression is passed unless it is the separator. -/
theorem cutAtSeparator_plain {c : Char} (inert : c ≠ '\\' ∧ c ≠ '$') (turns : Nat) (rest : List Char) :
    cutAtSeparator separator (turns + 1) (c :: rest) =
      if c = separator then ([], some rest)
      else (c :: (cutAtSeparator separator turns rest).1, (cutAtSeparator separator turns rest).2) := by
  conv => lhs; unfold cutAtSeparator
  have bare : (c == '\\') = false := beq_false_of_ne inert.1
  simp only [bare, Bool.false_eq_true, if_false, beq_iff_eq]
  split
  · rename_i found
    split at found
    · exact absurd rfl inert.2
    · cases found
  · rfl

/-- An expression is passed together with its signs. -/
theorem cutAtSeparator_expression {body rest after : List Char} (closed : closeExpression .start rest = some (body, after))
    (turns : Nat) :
    cutAtSeparator separator (turns + 1) ('$' :: '\x7b' :: rest) =
      ('$' :: '\x7b' :: body ++ '\x7d' :: (cutAtSeparator separator turns after).1,
        (cutAtSeparator separator turns after).2) := by
  conv => lhs; unfold cutAtSeparator
  simp only [show ('$' == '\\') = false by decide, Bool.false_eq_true, if_false, closed]

/-- A text is cut at the separator behind what is passed. -/
theorem Passed.cutsTo_separator (inert : separator ≠ '\\' ∧ separator ≠ '$') {text : List Char}
    (passed : Passed separator text) (rest : List Char) : CutsTo separator (text ++ separator :: rest) text (some rest) := by
  have here : CutsTo separator (separator :: rest) [] (some rest) := by
    intro turns ample
    obtain ⟨turns, rfl⟩ := Nat.exists_eq_add_one_of_ne_zero (Nat.ne_of_gt (Nat.lt_of_lt_of_le (Nat.succ_pos _) ample))
    rw [cutAtSeparator_plain inert, if_pos rfl]
  have cut := passed _ _ _ here
  rwa [List.append_nil] at cut

/-- What is passed in a row is passed together. -/
theorem joined_passed : Joined (Passed separator) where
  nil _ _ _ cut := cut
  append {front back} passed passed' rest before cut cuts := by
    rw [List.append_assoc, List.append_assoc]
    exact passed _ _ _ (passed' _ _ _ cuts)

/-- A character is passed if it is neither the separator nor starts an escape or an expression. -/
theorem passed_singleton {c : Char} (inert : c ≠ '\\' ∧ c ≠ '$') (other : c ≠ separator) : Passed separator [c] := by
  intro rest before cut cuts turns ample
  obtain ⟨turns, rfl⟩ := Nat.exists_eq_add_one_of_ne_zero (Nat.ne_of_gt (Nat.lt_of_lt_of_le (Nat.succ_pos _) ample))
  rw [List.singleton_append, cutAtSeparator_plain inert, if_neg other, cuts turns (Nat.le_of_succ_le_succ ample)]
  rfl

/-- An escaped character is passed. -/
theorem passed_escaped (c : Char) : Passed separator ['\\', c] := by
  intro rest before cut cuts turns ample
  obtain ⟨turns, rfl⟩ := Nat.exists_eq_add_one_of_ne_zero (Nat.ne_of_gt (Nat.lt_of_lt_of_le (Nat.succ_pos _) ample))
  have later := cuts turns (Nat.le_of_succ_le (Nat.le_of_succ_le_succ ample))
  simp [cutAtSeparator, later]

/-- An expression is passed as a whole. -/
theorem passed_embeddedChars {body : List Char} (closed : IsClosed body) : Passed separator (embeddedChars body) := by
  intro rest before cut cuts turns ample
  rw [embeddedChars_append] at ample ⊢
  obtain ⟨turns, rfl⟩ := Nat.exists_eq_add_one_of_ne_zero (Nat.ne_of_gt (Nat.lt_of_lt_of_le (Nat.succ_pos _) ample))
  rw [cutAtSeparator_expression (closed.closeExpression rest), cuts turns (by simp at ample; omega), embeddedChars_append]
  rfl

/-- Characters of a kind that has neither the separator nor the signs of escapes and expressions are passed. -/
theorem passed_of_all {text : List Char} (all : ∀ c ∈ text, (c ≠ '\\' ∧ c ≠ '$') ∧ c ≠ separator) : Passed separator text := by
  induction text with
  | nil => exact joined_passed.nil
  | cons c text later =>
    obtain ⟨here, others⟩ := List.forall_mem_cons.mp all
    exact joined_passed.append (passed_singleton here.1 here.2) (later others)

/-- White space is passed. -/
theorem passed_of_blank (dark : isBlank separator = false) {gap : List Char} (blank : ∀ c ∈ gap, isBlank c = true) :
    Passed separator gap := by
  refine passed_of_all fun c inside => ⟨⟨?_, ?_⟩, ?_⟩
  · rintro rfl
    exact absurd (blank _ inside) (by decide)
  · rintro rfl
    exact absurd (blank _ inside) (by decide)
  · rintro rfl
    rw [blank _ inside] at dark
    cases dark

/-- What spells a text is passed if the separator does not stand for itself in it. -/
theorem Rendered.passed {plain : Char → Prop} (inert : AreInert plain) (other : ∀ c, plain c → c ≠ separator)
    {chars : List Char} {text : TemplateText} (rendered : Rendered plain chars text) (normal : text.IsNormal) :
    Passed separator chars := by
  have literal {chars text : List Char} (spelled : Spelled plain chars text) : Passed separator chars := by
    induction spelled with
    | nil => exact joined_passed.nil
    | plain here _ later => exact joined_passed.append (passed_singleton (inert _ here) (other _ here)) later
    | escaped c _ later => exact joined_passed.append (passed_escaped c) later
  induction rendered with
  | nil => exact joined_passed.nil
  | literal here _ later => exact joined_passed.append (literal here) (later normal.tail)
  | expression embedded _ later =>
    have faithful : embedded.IsFaithful := normal.each _ List.mem_cons_self
    exact joined_passed.append (passed_embeddedChars (Expression.balanced_of_parse faithful.accepted 0)) (later normal.tail)

/-- A text without a live separator is not split. -/
theorem splitOnce_of_passed {text : List Char} (passed : Passed separator text) : splitOnce separator text = none := by
  rw [splitOnce, passed.cutsTo _ (Nat.le_refl _)]

/-- A text is split at its first live separator. -/
theorem splitOnce_separator (inert : separator ≠ '\\' ∧ separator ≠ '$') {text : List Char} (passed : Passed separator text)
    (rest : List Char) : splitOnce separator (text ++ separator :: rest) = some (text, rest) := by
  rw [splitOnce, passed.cutsTo_separator inert rest _ (Nat.le_refl _)]

end Cuts

/-- Whether a text has pieces between separators, with white space around them. -/
inductive Listed (separator : Char) : List (List Char) → List Char → Prop where
  /-- No separator follows the last piece. -/
  | last {lead piece trail : List Char} (blank : ∀ c ∈ lead, isBlank c = true) (blank' : ∀ c ∈ trail, isBlank c = true) :
    Listed separator [piece] (lead ++ (piece ++ trail))
  /-- A separator follows every other piece. -/
  | more {lead piece trail : List Char} (blank : ∀ c ∈ lead, isBlank c = true) (blank' : ∀ c ∈ trail, isBlank c = true)
    {pieces : List (List Char)} {rest : List Char} (later : Listed separator pieces rest) :
    Listed separator (piece :: pieces) (lead ++ (piece ++ (trail ++ separator :: rest)))

namespace Listed

variable {separator : Char} {pieces : List (List Char)} {text : List Char}

/-- White space may stand in front. -/
theorem blank {gap : List Char} (blank : ∀ c ∈ gap, isBlank c = true) (listed : Listed separator pieces text) :
    Listed separator pieces (gap ++ text) := by
  have both {lead : List Char} (blank' : ∀ c ∈ lead, isBlank c = true) : ∀ c ∈ gap ++ lead, isBlank c = true :=
    List.forall_mem_append.mpr ⟨blank, blank'⟩
  cases listed with
  | last here there =>
    rw [← List.append_assoc]
    exact .last (both here) there
  | more here there later =>
    rw [← List.append_assoc]
    exact .more (both here) there later

/-- Pieces with a separator between two spaces after each but the last are so listed. -/
theorem intercalate (some : pieces ≠ []) : Listed separator pieces (List.intercalate [' ', separator, ' '] pieces) := by
  have space : ∀ c ∈ [' '], isBlank c = true := by decide
  have none : ∀ c ∈ ([] : List Char), isBlank c = true := nofun
  induction pieces with
  | nil => exact absurd rfl some
  | cons piece rest later =>
    cases rest with
    | nil =>
      have alone : Listed separator [piece] ([] ++ (piece ++ [])) := .last none none
      simpa using alone
    | cons next rest =>
      have others := (later (List.cons_ne_nil _ _)).blank space
      have whole : Listed separator (piece :: next :: rest) ([] ++ (piece ++ ([' '] ++ separator :: _))) :=
        .more none space others
      simpa [List.intercalate_cons_cons] using whole

section Trimmed

variable (trimmed : ∀ piece ∈ pieces, IsTrimmed piece)

include trimmed

/-- White space that is trimmed at the front is none of a piece. -/
theorem trimFront (dark : isBlank separator = false) (listed : Listed separator pieces text) :
    Listed separator pieces (Phrasebook.trimFront text) := by
  have none : ∀ c ∈ ([] : List Char), isBlank c = true := nofun
  cases listed with
  | @last lead piece trail here there =>
    rcases (trimmed piece List.mem_cons_self).ends with rfl | ⟨opens, _⟩
    · have empty : Phrasebook.trimFront (lead ++ ([] ++ trail)) = [] := by
        rw [Phrasebook.trimFront, List.nil_append]
        exact List.dropWhile_eq_nil_iff.mpr (List.forall_mem_append.mpr ⟨here, there⟩)
      rw [empty]
      exact show Listed separator [[]] ([] ++ ([] ++ [])) from .last none none
    · rw [(opens.append trail).trimFront_append here]
      exact show Listed separator [piece] ([] ++ (piece ++ trail)) from .last none there
  | @more lead piece trail here there pieces rest later =>
    rcases (trimmed piece List.mem_cons_self).ends with rfl | ⟨opens, _⟩
    · have gap : ∀ c ∈ lead ++ trail, isBlank c = true := List.forall_mem_append.mpr ⟨here, there⟩
      have front : Phrasebook.trimFront (lead ++ ([] ++ (trail ++ separator :: rest))) = separator :: rest := by
        rw [List.nil_append, ← List.append_assoc]
        exact (Opens.cons dark rest).trimFront_append gap
      rw [front]
      exact show Listed separator ([] :: pieces) ([] ++ ([] ++ ([] ++ separator :: rest))) from .more none none later
    · rw [(opens.append _).trimFront_append here]
      exact show Listed separator (piece :: pieces) ([] ++ (piece ++ (trail ++ separator :: rest))) from .more none there later

/-- White space that is trimmed at the end is none of a piece. -/
theorem trimBack (dark : isBlank separator = false) (listed : Listed separator pieces text) :
    Listed separator pieces (Phrasebook.trimBack text) := by
  have none : ∀ c ∈ ([] : List Char), isBlank c = true := nofun
  induction listed with
  | @last lead piece trail here there =>
    rw [← List.append_assoc, trimBack_append _ there]
    rcases (trimmed piece List.mem_cons_self).ends with rfl | ⟨_, closes⟩
    · have empty : Phrasebook.trimBack (lead ++ []) = [] := by
        rw [List.append_nil]
        exact List.rdropWhile_eq_nil_iff.mpr here
      rw [empty]
      exact show Listed separator [[]] ([] ++ ([] ++ [])) from .last none none
    · have kept : Phrasebook.trimBack (lead ++ piece) = lead ++ (piece ++ []) := by
        rw [(closes.append lead).trimBack, List.append_nil]
      rw [kept]
      exact .last here none
  | @more lead piece trail here there pieces rest _ later =>
    have others := later fun piece inside => trimmed piece (List.mem_cons_of_mem _ inside)
    have kept : Phrasebook.trimBack (lead ++ (piece ++ (trail ++ separator :: rest))) =
        lead ++ (piece ++ (trail ++ separator :: Phrasebook.trimBack rest)) := by
      have whole := trimBack_append_cons dark (lead ++ (piece ++ trail)) rest
      simpa using whole
    rw [kept]
    exact .more here there others

/-- White space that is trimmed is none of a piece. -/
theorem trimChars (dark : isBlank separator = false) (listed : Listed separator pieces text) :
    Listed separator pieces (Phrasebook.trimChars text) :=
  (listed.trimFront trimmed dark).trimBack trimmed dark

/-- A list of pieces is split into them, white space aside. -/
theorem splitAll (dark : isBlank separator = false) (inert : separator ≠ '\\' ∧ separator ≠ '$')
    (passed : ∀ piece ∈ pieces, Passed separator piece) (listed : Listed separator pieces text) :
    (Phrasebook.splitAll separator text).map Phrasebook.trimChars = pieces := by
  -- A turn is needed for each separator only.
  have all (turns : Nat) (ample : text.length ≤ turns) :
      (splitPieces separator turns text).map Phrasebook.trimChars = pieces := by
    induction listed generalizing turns with
    | @last lead piece trail here there =>
      have alone := joined_passed.append (passed_of_blank dark here)
        (joined_passed.append (passed piece List.mem_cons_self) (passed_of_blank dark there))
      have core : Phrasebook.trimChars (lead ++ (piece ++ trail)) = piece := by
        rw [← List.append_assoc, trimChars_margins here there]
        exact trimmed piece List.mem_cons_self
      cases turns with
      | zero => rw [splitPieces, List.map_singleton, core]
      | succ turns =>
        simp only [splitPieces, alone.cutsTo _ (Nat.le_refl _), List.map_singleton, core]
    | @more lead piece trail here there pieces rest _ later =>
      have front := joined_passed.append (passed_of_blank dark here)
        (joined_passed.append (passed piece List.mem_cons_self) (passed_of_blank dark there))
      have split : lead ++ (piece ++ (trail ++ separator :: rest)) = lead ++ (piece ++ trail) ++ separator :: rest := by simp
      have core : Phrasebook.trimChars (lead ++ (piece ++ trail)) = piece := by
        rw [← List.append_assoc, trimChars_margins here there]
        exact trimmed piece List.mem_cons_self
      rw [split] at ample ⊢
      simp only [List.length_append, List.length_cons] at ample
      obtain ⟨turns, rfl⟩ := Nat.exists_eq_add_one_of_ne_zero (show turns ≠ 0 by omega)
      have others := later (fun piece inside => trimmed piece (List.mem_cons_of_mem _ inside))
        (fun piece inside => passed piece (List.mem_cons_of_mem _ inside)) turns (by omega)
      simp only [splitPieces, front.cutsTo_separator inert rest _ (Nat.le_refl _), List.map_cons, core, others]
  exact all text.length (Nat.le_refl _)

end Trimmed

end Listed

end Phrasebook
