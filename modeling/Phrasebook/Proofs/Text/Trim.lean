import Mathlib.Data.List.DropRight
import Phrasebook.Unicode.Blank

/-! What trimming takes off a text, and the texts that it leaves alone. -/

namespace Phrasebook

/-- Whether a text starts with a character that is no white space. -/
def Opens (text : List Char) : Prop :=
  -- Skipping white space leaves such a text alone.
  ∃ c rest, text = c :: rest ∧ isBlank c = false

/-- Whether a text ends with a character that is no white space. -/
def Closes (text : List Char) : Prop :=
  -- Dropping white space leaves such a text alone.
  ∃ front c, text = front ++ [c] ∧ isBlank c = false

/-- Whether a text has no white space at either end. -/
def IsTrimmed (text : List Char) : Prop :=
  -- Trimming leaves it alone.
  trimChars text = text

/-- A text opens like each longer one. -/
theorem Opens.append {text : List Char} (opens : Opens text) (more : List Char) : Opens (text ++ more) := by
  obtain ⟨c, rest, rfl, dark⟩ := opens
  exact ⟨c, rest ++ more, rfl, dark⟩

/-- A character that is no white space opens every text. -/
theorem Opens.cons {c : Char} (dark : isBlank c = false) (rest : List Char) : Opens (c :: rest) :=
  ⟨c, rest, rfl, dark⟩

/-- There is no white space in front of a text that opens. -/
theorem Opens.trimFront {text : List Char} (opens : Opens text) : trimFront text = text := by
  obtain ⟨c, rest, rfl, dark⟩ := opens
  exact List.dropWhile_cons_of_neg (by simp [dark])

/-- White space in front of a text that opens is skipped. -/
theorem Opens.trimFront_append {text : List Char} (opens : Opens text) {gap : List Char}
    (blank : ∀ c ∈ gap, isBlank c = true) : Phrasebook.trimFront (gap ++ text) = text := by
  rw [Phrasebook.trimFront, List.dropWhile_append_of_pos blank]
  exact opens.trimFront

/-- A text closes like each longer one. -/
theorem Closes.append {text : List Char} (closes : Closes text) (front : List Char) : Closes (front ++ text) := by
  obtain ⟨rest, c, rfl, dark⟩ := closes
  exact ⟨front ++ rest, c, (List.append_assoc front rest [c]).symm, dark⟩

/-- A character that is no white space closes every text. -/
theorem Closes.concat {c : Char} (dark : isBlank c = false) (front : List Char) : Closes (front ++ [c]) :=
  ⟨front, c, rfl, dark⟩

section Trim

variable {gap text : List Char}

/-- White space at the end is dropped. -/
theorem trimBack_append (text : List Char) (blank : ∀ c ∈ gap, isBlank c = true) :
    trimBack (text ++ gap) = trimBack text := by
  have back : ∀ c ∈ gap.reverse, isBlank c = true := fun c inside => blank c (List.mem_reverse.mp inside)
  rw [trimBack, List.reverse_append, List.dropWhile_append_of_pos back, trimBack]

/-- Up to a character that is no white space nothing is dropped. -/
theorem trimBack_append_cons {c : Char} (dark : isBlank c = false) (front back : List Char) :
    trimBack (front ++ c :: back) = front ++ c :: trimBack back := by
  have kept : (c :: front.reverse).dropWhile isBlank = c :: front.reverse := List.dropWhile_cons_of_neg (by simp [dark])
  rw [trimBack, List.reverse_append, List.reverse_cons, List.append_assoc, List.singleton_append, List.dropWhile_append,
    kept]
  split
  · rename_i none
    rw [trimBack, List.isEmpty_iff.mp none]
    simp
  · simp [trimBack]

/-- There is no white space at the end of a text that closes. -/
theorem Closes.trimBack (closes : Closes text) : trimBack text = text := by
  obtain ⟨front, c, rfl, dark⟩ := closes
  exact trimBack_append_cons dark front []

/-- What is left of a text in front is nothing, or opens. -/
theorem trimFront_eq_nil_or_opens (text : List Char) : trimFront text = [] ∨ Opens (trimFront text) := by
  cases left : trimFront text with
  | nil => exact .inl rfl
  | cons c rest =>
    have some : trimFront text ≠ [] := by simp [left]
    have dark := List.head_dropWhile_not isBlank some
    refine .inr (Opens.cons ?_ rest)
    have first : (text.dropWhile isBlank).head some = c := by simp [show text.dropWhile isBlank = c :: rest from left]
    simpa [first] using dark

/-- What is left of a text at the end is nothing, or closes. -/
theorem trimBack_eq_nil_or_closes (text : List Char) : trimBack text = [] ∨ Closes (trimBack text) := by
  rcases trimFront_eq_nil_or_opens text.reverse with none | ⟨c, rest, left, dark⟩
  · exact .inl (congrArg List.reverse none)
  · exact .inr ⟨rest.reverse, c, (congrArg List.reverse left).trans List.reverse_cons, dark⟩

/-- A text that opens does so when its end is trimmed. -/
theorem Opens.trimBack (opens : Opens text) : Opens (trimBack text) := by
  obtain ⟨c, rest, rfl, dark⟩ := opens
  rw [show c :: rest = [] ++ c :: rest from rfl, trimBack_append_cons dark]
  exact Opens.cons dark _

/-- A text with white space at neither end is trimmed. -/
theorem isTrimmed_of_ends (opens : Opens text) (closes : Closes text) : IsTrimmed text := by
  rw [IsTrimmed, trimChars, opens.trimFront, closes.trimBack]

/-- Nothing is trimmed. -/
theorem isTrimmed_nil : IsTrimmed [] :=
  rfl

/-- A text without white space opens and closes. -/
theorem ends_of_dark (some : text ≠ []) (dark : ∀ c ∈ text, isBlank c = false) : Opens text ∧ Closes text := by
  refine ⟨⟨text.head some, text.tail, (List.cons_head_tail some).symm, dark _ (List.head_mem some)⟩, ?_⟩
  exact ⟨text.dropLast, text.getLast some, (List.dropLast_append_getLast some).symm, dark _ (List.getLast_mem some)⟩

/-- A text without white space is trimmed. -/
theorem isTrimmed_of_dark (dark : ∀ c ∈ text, isBlank c = false) : IsTrimmed text := by
  rcases eq_or_ne text [] with rfl | some
  · exact isTrimmed_nil
  · obtain ⟨opens, closes⟩ := ends_of_dark some dark
    exact isTrimmed_of_ends opens closes

/-- A trimmed text is nothing, or opens and closes. -/
theorem IsTrimmed.ends (trimmed : IsTrimmed text) : text = [] ∨ Opens text ∧ Closes text := by
  have whole : trimBack (trimFront text) = text := trimmed
  rcases trimFront_eq_nil_or_opens text with none | opens
  · rw [none] at whole
    exact .inl whole.symm
  · refine .inr ⟨whole ▸ opens.trimBack, ?_⟩
    rcases trimBack_eq_nil_or_closes (trimFront text) with none | closes
    · obtain ⟨c, rest, start, _⟩ := opens.trimBack
      rw [none] at start
      cases start
    · exact whole ▸ closes

/-- Whatever is trimmed is trimmed. -/
theorem isTrimmed_trimChars (text : List Char) : IsTrimmed (trimChars text) := by
  rw [trimChars]
  rcases trimFront_eq_nil_or_opens text with none | opens
  · rw [none]
    exact isTrimmed_nil
  · rcases trimBack_eq_nil_or_closes (trimFront text) with none | closes
    · rw [none]
      exact isTrimmed_nil
    · exact isTrimmed_of_ends opens.trimBack closes

/-- White space in front of a text is trimmed with that of the text. -/
theorem trimChars_front (blank : ∀ c ∈ gap, isBlank c = true) (text : List Char) : trimChars (gap ++ text) = trimChars text := by
  rw [trimChars, trimFront, List.dropWhile_append_of_pos blank, trimChars, trimFront]

/-- White space behind a text is trimmed with that of the text. -/
theorem trimChars_back (text : List Char) (blank : ∀ c ∈ gap, isBlank c = true) : trimChars (text ++ gap) = trimChars text := by
  rw [trimChars, trimFront, List.dropWhile_append, trimChars, trimFront]
  split
  · rename_i none
    rw [List.isEmpty_iff.mp none, List.dropWhile_eq_nil_iff.mpr blank]
  · exact trimBack_append _ blank

/-- White space around a text is trimmed with that of the text. -/
theorem trimChars_margins {lead trail : List Char} (blank : ∀ c ∈ lead, isBlank c = true)
    (blank' : ∀ c ∈ trail, isBlank c = true) (text : List Char) : trimChars (lead ++ text ++ trail) = trimChars text := by
  rw [trimChars_back _ blank', trimChars_front blank]

/-- A text is what trimming leaves of it between white space. -/
theorem exists_margins (text : List Char) : ∃ lead trail, text = lead ++ trimChars text ++ trail ∧
    (∀ c ∈ lead, isBlank c = true) ∧ ∀ c ∈ trail, isBlank c = true := by
  refine ⟨text.takeWhile isBlank, (trimFront text).rtakeWhile isBlank, ?_, fun c inside => List.mem_takeWhile_imp inside,
    fun c inside => List.mem_rtakeWhile_imp inside⟩
  have back : trimBack (trimFront text) ++ (trimFront text).rtakeWhile isBlank = trimFront text :=
    List.rdropWhile_append_rtakeWhile
  rw [List.append_assoc, trimChars, back]
  exact List.takeWhile_append_dropWhile.symm

/-- Trimming the end first changes nothing. -/
theorem trimChars_trimBack (text : List Char) : trimChars (trimBack text) = trimChars text := by
  have back : trimBack text ++ text.rtakeWhile isBlank = text := List.rdropWhile_append_rtakeWhile
  have blank : ∀ c ∈ text.rtakeWhile isBlank, isBlank c = true := fun c inside => List.mem_rtakeWhile_imp inside
  have same := trimChars_back (trimBack text) blank
  rw [back] at same
  exact same.symm

end Trim

end Phrasebook
