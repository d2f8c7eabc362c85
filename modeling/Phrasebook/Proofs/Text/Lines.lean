import Phrasebook.Reading.Lines
import Phrasebook.Proofs.Text.Trim

/-! The lines of a text are those of its parts, where the parts meet at a line end. -/

namespace Phrasebook

/-- Whether a text is empty or ends with a line feed. -/
def EndsLine (text : List Char) : Prop :=
  -- A line that follows starts a line of its own.
  ∀ c ∈ text.getLast?, c = '\n'

/-- Whether pieces of a text are what the text is cut into. -/
def ArePieces (pieces : List (List Char)) : Prop :=
  -- All of them but the last end with a line feed, which stands nowhere else.
  linesWithEnds pieces.flatten = pieces

section Pieces

/-- A text is cut where a line ends. -/
theorem linesWithEnds_append {front : List Char} (ended : EndsLine front) (back : List Char) :
    linesWithEnds (front ++ back) = linesWithEnds front ++ linesWithEnds back := by
  induction front with
  | nil => rfl
  | cons c front later =>
    cases front with
    | nil =>
      obtain rfl : c = '\n' := ended c rfl
      rfl
    | cons d front =>
      have later := later fun last ends => ended last (by rwa [List.getLast?_cons_cons])
      by_cases feed : c = '\n'
      · subst feed
        exact congrArg (['\n'] :: ·) later
      · -- The first piece goes on with the next character.
        rw [List.cons_append, linesWithEnds, linesWithEnds, later]
        · cases pieces : linesWithEnds (d :: front) with
          | nil =>
            have whole := flatten_linesWithEnds (d :: front)
            rw [pieces] at whole
            cases whole
          | cons piece pieces => rfl
        · exact fun same => feed same
        · exact fun same => feed same

/-- Cutting off the first piece leaves pieces. -/
theorem arePieces_of_cons {text piece : List Char} {pieces : List (List Char)} (cut : linesWithEnds text = piece :: pieces) :
    ArePieces [piece] ∧ ArePieces pieces ∧ (pieces ≠ [] → EndsLine piece) := by
  have bare : ([piece] : List (List Char)).flatten = piece := List.append_nil piece
  rw [ArePieces, bare]
  induction text generalizing piece pieces with
  | nil => cases cut
  | cons c text later =>
    by_cases feed : c = '\n'
    · subst feed
      obtain ⟨rfl, rfl⟩ := List.cons.inj cut
      exact ⟨rfl, congrArg linesWithEnds (flatten_linesWithEnds text), fun _ last ends => by simpa using ends.symm⟩
    · rw [linesWithEnds] at cut
      · cases rest : linesWithEnds text with
        | nil =>
          rw [rest] at cut
          obtain ⟨rfl, rfl⟩ := List.cons.inj cut
          refine ⟨?_, rfl, fun some => absurd rfl some⟩
          rw [linesWithEnds]
          · rfl
          · exact fun same => feed same
        | cons first further =>
          rw [rest] at cut
          obtain ⟨rfl, rfl⟩ := List.cons.inj cut
          obtain ⟨one, others, ended⟩ := later rest (List.append_nil first)
          refine ⟨?_, others, fun some last ends => ended some last ?_⟩
          · rw [linesWithEnds, one]
            exact fun same => feed same
          · have some := ne_nil_of_mem_linesWithEnds (rest ▸ List.mem_cons_self : first ∈ linesWithEnds text)
            obtain ⟨d, more, rfl⟩ := List.exists_cons_of_ne_nil some
            rwa [List.getLast?_cons_cons] at ends
      · exact fun same => feed same

/-- The pieces of a text fall into pieces, and what is followed by others ends with a line feed. -/
theorem ArePieces.split {before after : List (List Char)} (pieces : ArePieces (before ++ after)) :
    ArePieces before ∧ ArePieces after ∧ (after ≠ [] → EndsLine before.flatten) := by
  induction before with
  | nil => exact ⟨rfl, pieces, fun _ => nofun⟩
  | cons piece before later =>
    obtain ⟨one, others, ended⟩ := arePieces_of_cons pieces
    obtain ⟨here, there, ended'⟩ := later others
    have bare : ([piece] : List (List Char)).flatten = piece := List.append_nil piece
    rw [ArePieces, bare] at one
    have joined : ArePieces (piece :: before) := by
      cases before with
      | nil => rwa [ArePieces, List.flatten_singleton]
      | cons next before =>
        rw [ArePieces, List.flatten_cons, linesWithEnds_append (ended (by simp)), one, here]
        rfl
    refine ⟨joined, there, fun some last ends => ?_⟩
    rw [List.flatten_cons, List.getLast?_append] at ends
    cases final : before.flatten.getLast? with
    | none =>
      rw [final, Option.none_or] at ends
      exact ended (by simp [some]) last ends
    | some c =>
      rw [final, Option.some_or] at ends
      exact ended' some last (by rw [final]; exact ends)

/-- A text is cut into its pieces. -/
theorem arePieces_linesWithEnds (text : List Char) : ArePieces (linesWithEnds text) :=
  congrArg linesWithEnds (flatten_linesWithEnds text)

/-- A text without a line feed, with one at its end, is one piece. -/
theorem linesWithEnds_feed {line : List Char} (oneLine : '\n' ∉ line) : linesWithEnds (line ++ ['\n']) = [line ++ ['\n']] := by
  induction line with
  | nil => rfl
  | cons c line later =>
    obtain ⟨other, oneLine⟩ := not_or.mp (mt List.mem_cons.mpr oneLine)
    rw [List.cons_append, linesWithEnds, later oneLine]
    exact fun same => other same.symm

/-- A text without a line feed is one piece, unless it is empty. -/
theorem linesWithEnds_bare {line : List Char} (some : line ≠ []) (oneLine : '\n' ∉ line) : linesWithEnds line = [line] := by
  induction line with
  | nil => exact absurd rfl some
  | cons c line later =>
    obtain ⟨other, oneLine⟩ := not_or.mp (mt List.mem_cons.mpr oneLine)
    rw [linesWithEnds]
    · cases line with
      | nil => rfl
      | cons d line => rw [later (List.cons_ne_nil _ _) oneLine]
    · exact fun same => other same.symm

/-- A piece has no line feed but at its end. -/
theorem ArePieces.exists_line {piece : List Char} (pieces : ArePieces [piece]) :
    ∃ line, '\n' ∉ line ∧ (piece = line ∨ piece = line ++ ['\n']) := by
  rw [ArePieces, List.flatten_singleton] at pieces
  induction piece with
  | nil => exact ⟨[], List.not_mem_nil, .inl rfl⟩
  | cons c piece later =>
    by_cases feed : c = '\n'
    · -- A line feed ends the piece.
      subst feed
      have none : linesWithEnds piece = [] := (List.cons.inj pieces).2
      have whole := flatten_linesWithEnds piece
      rw [none] at whole
      exact ⟨[], List.not_mem_nil, .inr (congrArg ('\n' :: ·) whole.symm)⟩
    · have other : '\n' ≠ c := fun same => feed same.symm
      rw [linesWithEnds] at pieces
      · cases rest : linesWithEnds piece with
        | nil =>
          have whole := flatten_linesWithEnds piece
          rw [rest] at whole
          exact ⟨[c], by simpa using other, .inl (congrArg (c :: ·) whole.symm)⟩
        | cons first further =>
          rw [rest] at pieces
          obtain ⟨same, rfl⟩ := List.cons.inj pieces
          obtain rfl := (List.cons.inj same).2
          obtain ⟨line, oneLine, shape⟩ := later rest
          exact ⟨c :: line, by simp [other, oneLine], shape.imp (congrArg (c :: ·)) (congrArg (c :: ·))⟩
      · exact fun same => feed same

end Pieces

/-- Whether lines hold nothing but white space. -/
def AreBlank (lines : List (List Char)) : Prop :=
  -- They may hold no characters at all.
  ∀ raw ∈ lines, ∀ c ∈ raw, isBlank c = true

section LastLine

/-- A line without a line feed stays as it is. -/
theorem withoutLineEnd_bare {line : List Char} (oneLine : '\n' ∉ line) : withoutLineEnd line = line := by
  rcases List.eq_nil_or_concat line with rfl | ⟨front, c, rfl⟩
  · rfl
  · have other : c ≠ '\n' := fun same => oneLine (by simp [same])
    simp [withoutLineEnd, other]

/-- Taking off a line end adds no character. -/
theorem mem_of_mem_withoutLineEnd {piece : List Char} {c : Char} (among : c ∈ withoutLineEnd piece) : c ∈ piece := by
  unfold withoutLineEnd at among
  split at among
  · rename_i front reversed
    exact List.mem_reverse.mp (reversed ▸ by simpa using .inr (.inr (List.mem_reverse.mp among)))
  · rename_i front _ reversed
    exact List.mem_reverse.mp (reversed ▸ by simpa using .inr (List.mem_reverse.mp among))
  · exact among

/-- A line consists of characters of its text. -/
theorem mem_of_mem_linesOf {text line : List Char} (inside : line ∈ linesOf text) {c : Char} (among : c ∈ line) : c ∈ text := by
  obtain ⟨piece, cut, rfl⟩ := List.mem_map.mp inside
  have whole := List.mem_flatten_of_mem cut (mem_of_mem_withoutLineEnd among)
  rwa [flatten_linesWithEnds] at whole

/-- The lines of two texts that meet at a line end. -/
theorem linesOf_append {front : List Char} (ended : EndsLine front) (back : List Char) :
    linesOf (front ++ back) = linesOf front ++ linesOf back := by
  rw [linesOf, linesWithEnds_append ended, List.map_append]
  rfl

/-- A text without a line feed is one line, unless it is empty. -/
theorem linesOf_bare {line : List Char} (some : line ≠ []) (oneLine : '\n' ∉ line) : linesOf line = [line] := by
  rw [linesOf, linesWithEnds_bare some oneLine, List.map_singleton, withoutLineEnd_bare oneLine]

/-- A text that does not end with a line feed has a last line without one. -/
theorem exists_last_line {text : List Char} (nonempty : text ≠ []) (open' : text.getLast? ≠ some '\n') :
    ∃ front line, text = front ++ line ∧ EndsLine front ∧ line ≠ [] ∧ '\n' ∉ line := by
  induction text with
  | nil => exact absurd rfl nonempty
  | cons c text later =>
    cases text with
    | nil => exact ⟨[], [c], rfl, nofun, List.cons_ne_nil _ _, by simpa [eq_comm] using open'⟩
    | cons d text =>
      obtain ⟨front, line, whole, ended, more, oneLine⟩ := later (List.cons_ne_nil _ _) (by rwa [List.getLast?_cons_cons] at open')
      rw [whole]
      cases front with
      | nil =>
        by_cases feed : c = '\n'
        · exact ⟨[c], line, rfl, by simp [EndsLine, feed], more, oneLine⟩
        · exact ⟨[], c :: line, rfl, nofun, List.cons_ne_nil _ _, by simpa [oneLine, eq_comm] using feed⟩
      | cons e front => exact ⟨c :: e :: front, line, rfl, by rwa [EndsLine, List.getLast?_cons_cons], more, oneLine⟩

/-- White space behind a line goes on with the line, and is further lines without anything else then. -/
theorem linesOf_trail {line gap : List Char} (closes : Closes line) (oneLine : '\n' ∉ line) (blank : ∀ c ∈ gap, isBlank c = true) :
    ∃ rest blanks, linesOf (line ++ gap) = (line ++ rest) :: blanks ∧ (∀ c ∈ rest, isBlank c = true) ∧ AreBlank blanks := by
  have some : line ≠ [] := by
    obtain ⟨front, c, rfl, _⟩ := closes
    simp
  by_cases feed : '\n' ∈ gap
  · obtain ⟨here, further, rfl, first⟩ := List.eq_append_cons_of_mem feed
    have ended : EndsLine (line ++ (here ++ ['\n'])) := by simp [EndsLine, ← List.append_assoc]
    have lines := linesOf_append ended further
    have oneLine' : '\n' ∉ line ++ here := by simp [oneLine, first]
    have blank' : AreBlank (linesOf further) := fun raw inside c among =>
      blank c (by simp [mem_of_mem_linesOf inside among])
    -- A carriage return in front of the line feed is no part of the line.
    obtain ⟨rest, lead, same⟩ : ∃ rest, rest <+: here ∧ linesOf (line ++ (here ++ ['\n'])) = [line ++ rest] := by
      rw [← List.append_assoc, linesOf, linesWithEnds_feed oneLine', List.map_singleton]
      rcases List.eq_nil_or_concat here with rfl | ⟨front, c, rfl⟩
      · obtain ⟨front, c, rfl, dark⟩ := closes
        have other : c ≠ '\r' := fun same => absurd (same ▸ dark) (by decide)
        exact ⟨[], List.prefix_rfl, by simp [withoutLineEnd, other]⟩
      · by_cases back : c = '\r'
        · exact ⟨front, by simp, by simp [withoutLineEnd, back]⟩
        · exact ⟨front ++ [c], by simp, by simp [withoutLineEnd, back]⟩
    refine ⟨rest, linesOf further, ?_, fun c inside => blank c (by simp [lead.subset inside]), blank'⟩
    rw [show line ++ (here ++ '\n' :: further) = line ++ (here ++ ['\n']) ++ further by simp, lines, same]
    rfl
  · refine ⟨gap, [], linesOf_bare (by simp [some]) (by simp [oneLine, feed]), blank, nofun⟩

/-- Dropping the white space at the end of a text trims its last line and drops lines that hold nothing else. -/
theorem exists_of_trimBack (text : List Char) :
    (trimBack text = [] ∧ AreBlank (linesOf text)) ∨
      ∃ front line gap blanks, linesOf (trimBack text) = front ++ [line] ∧ linesOf text = front ++ (line ++ gap) :: blanks ∧
        (∀ c ∈ gap, isBlank c = true) ∧ AreBlank blanks := by
  obtain ⟨gap, whole, blank⟩ : ∃ gap, trimBack text ++ gap = text ∧ ∀ c ∈ gap, isBlank c = true :=
    ⟨text.rtakeWhile isBlank, List.rdropWhile_append_rtakeWhile, fun c inside => List.mem_rtakeWhile_imp inside⟩
  rcases trimBack_eq_nil_or_closes text with none | closes
  · rw [none, List.nil_append] at whole
    exact .inl ⟨none, fun raw inside c among => blank c (whole ▸ mem_of_mem_linesOf inside among)⟩
  · generalize trimBack text = kept at whole closes
    obtain ⟨start, c, rfl, dark⟩ := closes
    have other : c ≠ '\n' := fun same => absurd (same ▸ dark) (by decide)
    obtain ⟨front, line, same, ended, some, oneLine⟩ : ∃ front line, start ++ [c] = front ++ line ∧ EndsLine front ∧ line ≠ [] ∧
        '\n' ∉ line := exists_last_line (by simp) (by simpa using other)
    have closes : Closes line := by
      obtain ⟨more, last, rfl⟩ := (List.eq_nil_or_concat line).resolve_left some
      rw [List.concat_eq_append, ← List.append_assoc] at same
      obtain ⟨_, ends⟩ := List.append_inj' same rfl
      obtain rfl := List.cons.inj ends |>.1
      exact ⟨more, c, by simp, dark⟩
    obtain ⟨rest, blanks, lines, blank, blanks'⟩ := linesOf_trail closes oneLine blank
    refine .inr ⟨linesOf front, line, rest, blanks, ?_, ?_, blank, blanks'⟩
    · rw [same, linesOf_append ended, linesOf_bare some oneLine]
    · rw [← whole, same, List.append_assoc, linesOf_append ended, lines]

end LastLine

/-- Whether a text ends a line. -/
def IsLineEnd (lineEnd : List Char) : Prop :=
  -- A carriage return may stand in front of the line feed.
  lineEnd = ['\n'] ∨ lineEnd = ['\r', '\n']

/-- Whether a line has no line feed, and with a line end behind it is still the line. -/
def IsLineBefore (lineEnd line : List Char) : Prop :=
  -- A carriage return would be taken for a part of a line end that has none.
  '\n' ∉ line ∧ (lineEnd = ['\r', '\n'] ∨ line.getLast? ≠ some '\r')

section LineEnds

variable {lineEnd : List Char} (valid : IsLineEnd lineEnd)

include valid

/-- A line end ends a line. -/
theorem IsLineEnd.endsLine (text : List Char) : EndsLine (text ++ lineEnd) := by
  rcases valid with rfl | rfl <;> simp [EndsLine]

/-- A line end is a line by itself. -/
theorem IsLineEnd.linesOf : linesOf lineEnd = [[]] := by
  rcases valid with rfl | rfl <;> rfl

/-- A line end is taken off. -/
theorem IsLineEnd.withoutLineEnd_append {line : List Char} (before : IsLineBefore lineEnd line) :
    withoutLineEnd (line ++ lineEnd) = line := by
  rcases valid with rfl | rfl
  · have bare : line.getLast? ≠ some '\r' := before.2.resolve_left (by decide)
    rcases List.eq_nil_or_concat line with rfl | ⟨front, c, rfl⟩
    · rfl
    · have other : c ≠ '\r' := by simpa using bare
      simp [withoutLineEnd, other]
  · simp [withoutLineEnd]

/-- A line with a line end is one piece. -/
theorem IsLineEnd.linesWithEnds_append {line : List Char} (oneLine : '\n' ∉ line) :
    linesWithEnds (line ++ lineEnd) = [line ++ lineEnd] := by
  rcases valid with rfl | rfl
  · exact linesWithEnds_feed oneLine
  · have oneLine' : '\n' ∉ line ++ ['\r'] := by simpa using oneLine
    have whole := linesWithEnds_feed oneLine'
    rwa [List.append_assoc] at whole

/-- Lines that have line ends are pieces, in front of others. -/
theorem IsLineEnd.linesWithEnds_flatMap {lines : List (List Char)} (oneLine : ∀ line ∈ lines, '\n' ∉ line) (back : List Char) :
    linesWithEnds ((lines.flatMap fun line => line ++ lineEnd) ++ back) = lines.map (· ++ lineEnd) ++ linesWithEnds back := by
  induction lines with
  | nil => rfl
  | cons line lines later =>
    obtain ⟨here, others⟩ := List.forall_mem_cons.mp oneLine
    rw [List.flatMap_cons, List.append_assoc, Phrasebook.linesWithEnds_append (valid.endsLine line),
      valid.linesWithEnds_append here, later others]
    rfl

/-- Lines that have line ends are taken apart again, in front of others. -/
theorem IsLineEnd.linesOf_flatMap {lines : List (List Char)} (before : ∀ line ∈ lines, IsLineBefore lineEnd line)
    (back : List Char) :
    Phrasebook.linesOf ((lines.flatMap fun line => line ++ lineEnd) ++ back) = lines ++ Phrasebook.linesOf back := by
  have bare : lines.map (withoutLineEnd ∘ (· ++ lineEnd)) = lines.map id :=
    List.map_congr_left fun line inside => valid.withoutLineEnd_append (before line inside)
  rw [Phrasebook.linesOf, valid.linesWithEnds_flatMap fun line inside => (before line inside).1, List.map_append, List.map_map,
    bare, List.map_id, Phrasebook.linesOf]

/-- A line end behind a text adds no line, unless the text ends with one or is empty. -/
theorem IsLineEnd.linesOf_append {text : List Char} (nonempty : text ≠ []) (open' : text.getLast? ≠ some '\n')
    (open'' : text.getLast? ≠ some '\r') : Phrasebook.linesOf (text ++ lineEnd) = Phrasebook.linesOf text := by
  obtain ⟨front, line, rfl, ended, nonempty, oneLine⟩ := exists_last_line nonempty open'
  have before : IsLineBefore lineEnd line := ⟨oneLine, .inr fun last => open'' (by simp [List.getLast?_append, last])⟩
  have whole := valid.linesOf_flatMap (List.forall_mem_singleton.mpr before) []
  rw [List.append_assoc, Phrasebook.linesOf_append ended, Phrasebook.linesOf_append ended, linesOf_bare nonempty oneLine]
  simpa [Phrasebook.linesOf, linesWithEnds] using whole

end LineEnds

end Phrasebook
