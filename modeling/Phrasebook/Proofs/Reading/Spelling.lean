import Mathlib.Data.List.Forall2
import Phrasebook.Proofs.Reading.Parts
import Phrasebook.Proofs.Reading.Rules
import Phrasebook.Proofs.Text.Trim

/-! Rules read what was written for them: signs, separators, lists and identifiers. -/

namespace Phrasebook

/-- A run of characters of one kind ends where another kind begins. -/
theorem span_append {kind : Char → Bool} {part more : List Char} (all : ∀ c ∈ part, kind c = true)
    (ends : ∀ c rest, more = c :: rest → kind c = false) :
    (part ++ more).takeWhile kind = part ∧ (part ++ more).dropWhile kind = more := by
  rw [List.takeWhile_append_of_pos all, List.dropWhile_append_of_pos all]
  cases more with
  | nil => simp
  | cons c rest => simp [ends c rest rfl]

/-- Pieces with a separator between them are the first and each other behind the separator. -/
theorem intercalate_cons {α : Type} (separator : List α) (first : List α) (pieces : List (List α)) :
    List.intercalate separator (first :: pieces) = first ++ pieces.flatMap fun piece => separator ++ piece := by
  induction pieces generalizing first with
  | nil => simp
  | cons piece pieces later => rw [List.intercalate_cons_cons, later piece, List.flatMap_cons]; simp

/-- Pieces with a separator between them are at least as long as each of them. -/
theorem length_le_intercalate {α : Type} (separator : List α) {pieces : List (List α)} {piece : List α} (inside : piece ∈ pieces) :
    piece.length ≤ (List.intercalate separator pieces).length := by
  cases pieces with
  | nil => cases inside
  | cons first rest =>
    rw [intercalate_cons, List.length_append]
    rcases List.mem_cons.mp inside with rfl | later
    · exact Nat.le_add_right _ _
    · have among : separator ++ piece ∈ rest.map fun next => separator ++ next := List.mem_map.mpr ⟨piece, later, rfl⟩
      have part := (List.sublist_flatten_of_mem among).length_le
      rw [← List.flatMap_def, List.length_append] at part
      omega

/-- There are at least as many characters as parts if each part has a sign in front. -/
theorem length_le_flatMap_cons {α : Type} (sign : Char) (chars : α → List Char) (parts : List α) :
    parts.length ≤ (parts.flatMap fun part => sign :: chars part).length := by
  induction parts with
  | nil => exact Nat.zero_le _
  | cons part parts later =>
    rw [List.flatMap_cons, List.length_append, List.length_cons, List.length_cons]
    omega

namespace Rule

variable {α β : Type}

/-- After a rule that is done, the next one goes on. -/
theorem bind_of_done {first : Rule α} {next : α → Rule β} {text rest : List Char} {value : α}
    (done : first text = .done value rest) : (first >>= next) text = next value rest := by
  change andThen first next text = _
  rw [andThen, done]

/-- After a rule that refuses, the next one is not asked. -/
theorem bind_of_refused {first : Rule α} {next : α → Rule β} {text rest : List Char}
    (refused : first text = .refused rest) : (first >>= next) text = .refused rest := by
  change andThen first next text = _
  rw [andThen, refused]

/-- The first rule that is done is not followed by another one. -/
theorem orElse_of_done {first second : Rule α} {text rest : List Char} {value : α} (done : first text = .done value rest) :
    (first.orElse second) text = .done value rest := by
  rw [orElse, done]

/-- After a refusal the other rule is tried. -/
theorem orElse_of_refused {first second : Rule α} {text rest : List Char} (refused : first text = .refused rest) :
    (first.orElse second) text = second text := by
  rw [orElse, refused]

/-- An expected character is read. -/
theorem exactly_cons (c : Char) (rest : List Char) : exactly [c] (c :: rest) = .done () rest := by
  simp [exactly, List.isPrefixOf]

/-- An expected character is missed where another one stands. -/
theorem exactly_of_ne {c d : Char} (apart : c ≠ d) (rest : List Char) : exactly [c] (d :: rest) = .refused (d :: rest) := by
  simp [exactly, List.isPrefixOf, apart]

/-- A separator is read with the white space behind it. -/
theorem between_done {sign : Char} (dark : isBlank sign = false) {gap text : List Char}
    (blank : ∀ c ∈ gap, isBlank c = true) (opens : Opens text) :
    between [sign] (sign :: (gap ++ text)) = .done () text := by
  have skipped : blanks (sign :: (gap ++ text)) = .done () (sign :: (gap ++ text)) := by
    rw [blanks, (Opens.cons dark _).trimFront]
  rw [between, bind_of_done skipped, bind_of_done (exactly_cons sign (gap ++ text)), blanks, opens.trimFront_append blank]

/-- A separator is missed where another sign stands. -/
theorem between_of_ne {sign other : Char} (apart : sign ≠ other) (dark : isBlank other = false) (rest : List Char) :
    between [sign] (other :: rest) = .refused (other :: rest) := by
  have skipped : blanks (other :: rest) = .done () (other :: rest) := by
    rw [blanks, (Opens.cons dark rest).trimFront]
  rw [between, bind_of_done skipped, bind_of_refused (exactly_of_ne apart rest)]

/-- A part between signs is read if it ends at the closing one. -/
theorem enclosed_done {opening closing : Char} (dark : isBlank closing = false) {content : Rule α} {text more : List Char}
    {value : α} (opens : Opens text) (done : content text = .done value (closing :: more)) :
    enclosed opening closing content (opening :: text) = .done value more := by
  have skipped : blanks text = .done () text := by rw [blanks, opens.trimFront]
  have skipped' : blanks (closing :: more) = .done () (closing :: more) := by
    rw [blanks, (Opens.cons dark more).trimFront]
  rw [enclosed, bind_of_done (exactly_cons opening text), bind_of_done skipped, bind_of_done done,
    bind_of_done skipped', bind_of_done (exactly_cons closing more)]
  rfl

/-- A part between signs is missed where the opening sign is. -/
theorem enclosed_of_ne {opening other : Char} (apart : opening ≠ other) (closing : Char) (content : Rule α)
    (rest : List Char) : enclosed opening closing content (other :: rest) = .refused (other :: rest) := by
  rw [enclosed, bind_of_refused (exactly_of_ne apart rest)]

/-- Whether a text spells an element of a list, whatever stands behind the next comma or bracket. -/
structure Spells (element : Rule α) (text : List Char) (value : α) : Prop where
  /-- There is no white space in front of it. -/
  opens : Opens text
  /-- The element ends where the text does. -/
  done : ∀ c more, c ∈ [',', ')', ']', '\x7d'] → element (text ++ c :: more) = .done value (c :: more)

/-- Behind an element either the next comma stands or the closing sign. -/
theorem exists_cons_separated (texts : List (List Char)) (gap : List Char) {closing : Char}
    (closes : closing ∈ [')', ']', '\x7d']) (more : List Char) :
    ∃ c rest, ((texts.flatMap fun next => ',' :: (gap ++ next)) ++ closing :: more) = c :: rest ∧
      c ∈ [',', ')', ']', '\x7d'] := by
  cases texts with
  | nil => exact ⟨closing, more, rfl, List.mem_cons_of_mem _ closes⟩
  | cons text texts => exact ⟨',', _, rfl, List.mem_cons_self⟩

/-- Whether a rule for separators reads a comma with some white space behind it, and no closing sign. -/
structure Separates (separator : Rule Unit) (gap : List Char) : Prop where
  /-- The comma and the white space are read. -/
  done : ∀ text, Opens text → separator (',' :: (gap ++ text)) = .done () text
  /-- A closing sign is left to others. -/
  refused : ∀ closing more, closing ∈ [')', ']', '\x7d'] → ∃ rest, separator (closing :: more) = .refused rest

/-- A comma may have white space on both sides. -/
theorem separates_between {gap : List Char} (blank : ∀ c ∈ gap, isBlank c = true) : Separates (between [',']) gap where
  done _ opens := between_done (by decide) blank opens
  refused closing more closes := by
    have other : ',' ≠ closing := by rintro rfl; simp at closes
    have dark : isBlank closing = false := by revert closing; decide
    exact ⟨_, between_of_ne other dark more⟩

section Lists

variable {separator : Rule Unit} {gap : List Char} (separates : Separates separator gap) {element : Rule α}

include separates

/-- Each further element is read behind its comma, up to the closing sign. -/
theorem moreElements_done {texts : List (List Char)} {values : List α} (each : List.Forall₂ (Spells element) texts values)
    {closing : Char} (closes : closing ∈ [')', ']', '\x7d']) (more : List Char) {turns : Nat} (ample : texts.length ≤ turns) :
    moreElements separator element turns ((texts.flatMap fun next => ',' :: (gap ++ next)) ++ closing :: more) =
      .done values (closing :: more) := by
  induction each generalizing turns with
  | nil =>
    obtain ⟨rest, refused⟩ := separates.refused closing more closes
    cases turns with
    | zero => rfl
    | succ turns =>
      rw [List.flatMap_nil, List.nil_append, moreElements]
      simp only [refused]
  | @cons text value texts values here others later =>
    obtain ⟨turns, rfl⟩ := Nat.exists_eq_add_one_of_ne_zero (Nat.ne_of_gt (Nat.lt_of_lt_of_le (Nat.succ_pos _) ample))
    obtain ⟨c, rest, behind, ends⟩ := exists_cons_separated texts gap closes more
    have read : separator (',' :: (gap ++ (text ++ c :: rest))) = .done () (text ++ c :: rest) :=
      separates.done _ (here.opens.append _)
    have later := later (Nat.le_of_succ_le_succ ample)
    rw [behind] at later
    rw [List.flatMap_cons, List.append_assoc, behind, List.cons_append, List.append_assoc, moreElements]
    simp only [read, here.done c rest ends, later]

/-- Elements with commas between them are read up to the closing sign. -/
theorem elements_done {text : List Char} {texts : List (List Char)} {value : α} {values : List α}
    (first : Spells element text value) (each : List.Forall₂ (Spells element) texts values) {closing : Char}
    (closes : closing ∈ [')', ']', '\x7d']) (more : List Char) :
    elements separator element (text ++ ((texts.flatMap fun next => ',' :: (gap ++ next)) ++ closing :: more)) =
      .done (value :: values) (closing :: more) := by
  -- Every further element has a comma, so there are enough turns.
  have ample : texts.length ≤ ((texts.flatMap fun next => ',' :: (gap ++ next)) ++ closing :: more).length := by
    rw [List.length_append]
    exact (length_le_flatMap_cons ',' (gap ++ ·) texts).trans (Nat.le_add_right _ _)
  have further := moreElements_done separates each closes more ample
  obtain ⟨c, rest, behind, ends⟩ := exists_cons_separated texts gap closes more
  rw [behind] at further ⊢
  unfold elements
  simp only [first.done c rest ends, further]

end Lists

/-- There are no elements where none can be read. -/
theorem elements_none {separator : Rule Unit} {element : Rule α} {text rest : List Char}
    (none : element text = .refused rest) : elements separator element text = .done [] text := by
  simp only [elements, none]

end Rule

/-- Whether a text is an identifier can be told from its characters. -/
instance (name : String) : Decidable (IsIdentifier name) :=
  decidable_of_iff
    ((match name.toList with
      | [] => false
      | first :: rest => startsIdentifier first && rest.all continuesIdentifier) = true) (by
    unfold IsIdentifier
    cases name.toList with
    | nil => simp
    | cons first rest => simp [List.all_eq_true])

/-- An identifier is read up to the first character that cannot stand in one. -/
theorem identifier_done {name : String} (named : IsIdentifier name) {more : List Char}
    (ends : ∀ c rest, more = c :: rest → continuesIdentifier c = false) :
    identifier (name.toList ++ more) = .done name more := by
  obtain ⟨first, others, chars, starts, continues⟩ := named
  have taken := span_append continues ends
  rw [chars, List.cons_append, identifier, if_pos starts, taken.1, taken.2, ← chars, String.ofList_toList]

/-- What cannot start an identifier is refused as one. -/
theorem identifier_of_ne {c : Char} (other : startsIdentifier c = false) (rest : List Char) :
    identifier (c :: rest) = .refused (c :: rest) := by
  simp [identifier, other]

end Phrasebook
