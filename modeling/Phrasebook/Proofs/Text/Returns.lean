import Phrasebook.Proofs.Text.Lines

/-! A text keeps its lines when a carriage return is put in front of each of its line feeds. -/

namespace Phrasebook

/-- The characters that stand for one when carriage returns are put in front of line feeds. -/
def returnBefore (c : Char) : List Char :=
  -- All other characters stay alone.
  if c = '\n' then ['\r', '\n'] else [c]

/-- A text with a carriage return in front of each line feed. -/
def withReturns (text : List Char) : List Char :=
  -- Carriage returns that are there already stay.
  text.flatMap returnBefore

section Parts

/-- Two texts get their carriage returns one after the other. -/
@[simp] theorem withReturns_append (front back : List Char) :
    withReturns (front ++ back) = withReturns front ++ withReturns back :=
  List.flatMap_append

/-- So do all parts of a text. -/
theorem withReturns_flatten (parts : List (List Char)) :
    withReturns parts.flatten = (parts.map withReturns).flatten := by
  induction parts with
  | nil => rfl
  | cons part parts later => rw [List.flatten_cons, withReturns_append, later, List.map_cons, List.flatten_cons]

/-- A text without a line feed stays as it is. -/
theorem withReturns_of_oneLine {text : List Char} (oneLine : '\n' ∉ text) : withReturns text = text := by
  induction text with
  | nil => rfl
  | cons c text later =>
    obtain ⟨other, oneLine⟩ := not_or.mp (mt List.mem_cons.mpr oneLine)
    have alone : returnBefore c = [c] := if_neg fun same => other same.symm
    rw [withReturns, List.flatMap_cons, alone]
    exact congrArg (c :: ·) (later oneLine)

/-- The last character stays the last one. -/
theorem getLast?_withReturns (text : List Char) : (withReturns text).getLast? = text.getLast? := by
  rcases List.eq_nil_or_concat text with rfl | ⟨front, c, rfl⟩
  · rfl
  · by_cases feed : c = '\n'
    · simp [withReturns, returnBefore, feed]
    · simp [withReturns, returnBefore, feed]

/-- A text that has got carriage returns is blank if it was. -/
theorem isBlankLine_withReturns (text : List Char) : isBlankLine (withReturns text) = isBlankLine text := by
  have each (c : Char) : (returnBefore c).all isBlank = isBlank c := by
    by_cases feed : c = '\n'
    · subst feed
      decide
    · simp [returnBefore, feed]
  rw [isBlankLine, withReturns, List.all_flatMap]
  simp only [each]
  rfl

/-- White space at the end is dropped before or after. -/
theorem trimBack_withReturns (text : List Char) : trimBack (withReturns text) = withReturns (trimBack text) := by
  have whole : trimBack text ++ text.rtakeWhile isBlank = text := List.rdropWhile_append_rtakeWhile
  have blank : isBlankLine (withReturns (text.rtakeWhile isBlank)) = true := by
    rw [isBlankLine_withReturns]
    exact List.all_eq_true.mpr fun c inside => List.mem_rtakeWhile_imp inside
  conv_lhs => rw [← whole, withReturns_append, trimBack_append _ (List.all_eq_true.mp blank)]
  rcases trimBack_eq_nil_or_closes text with none | ⟨front, c, ends, dark⟩
  · rw [none]
    rfl
  · -- The last character is no line feed, and so stays alone.
    have alone : returnBefore c = [c] := if_neg fun same => absurd (same ▸ dark) (by decide)
    have kept : withReturns (front ++ [c]) = withReturns front ++ [c] := by
      rw [withReturns_append, withReturns, withReturns, List.flatMap_singleton, alone]
    rw [ends, kept]
    exact (Closes.concat dark _).trimBack

end Parts

section Lines

/-- The pieces of a text get their carriage returns one by one. -/
theorem linesWithEnds_withReturns (text : List Char) :
    linesWithEnds (withReturns text) = (linesWithEnds text).map withReturns := by
  induction text with
  | nil => rfl
  | cons c text later =>
    by_cases feed : c = '\n'
    · subst feed
      exact congrArg (['\r', '\n'] :: ·) later
    · have alone : withReturns (c :: text) = c :: withReturns text := by simp [withReturns, returnBefore, feed]
      have bare : withReturns [c] = [c] := by simp [withReturns, returnBefore, feed]
      rw [alone, linesWithEnds, linesWithEnds, later]
      · cases linesWithEnds text with
        | nil => simp [bare]
        | cons piece pieces =>
          have joined : withReturns (c :: piece) = c :: withReturns piece := by simp [withReturns, returnBefore, feed]
          simp [joined]
      · exact fun same => feed same
      · exact fun same => feed same

variable {text : List Char} (lone : '\r' ∉ text)

include lone

/-- **A text keeps its lines.** They are the same with a carriage return in front of each line feed, if there was none. -/
theorem linesOf_withReturns : linesOf (withReturns text) = linesOf text := by
  rw [linesOf, linesOf, linesWithEnds_withReturns, List.map_map]
  refine List.map_congr_left fun piece cut => ?_
  have bare : '\r' ∉ piece := fun inside => lone (flatten_linesWithEnds text ▸ List.mem_flatten_of_mem cut inside)
  obtain ⟨before, after, pieces⟩ := List.append_of_mem cut
  have whole := arePieces_linesWithEnds text
  rw [pieces, List.append_cons] at whole
  obtain ⟨line, oneLine, rfl | rfl⟩ := (whole.split.1.split).2.1.exists_line
  · exact congrArg withoutLineEnd (withReturns_of_oneLine oneLine)
  · have bare : line.getLast? ≠ some '\r' := fun last => bare (by simp [List.mem_of_getLast? last])
    have long : withoutLineEnd (line ++ ['\r', '\n']) = line :=
      IsLineEnd.withoutLineEnd_append (.inr rfl) ⟨oneLine, .inl rfl⟩
    have short : withoutLineEnd (line ++ ['\n']) = line :=
      IsLineEnd.withoutLineEnd_append (.inl rfl) ⟨oneLine, .inr bare⟩
    have ends : withReturns (line ++ ['\n']) = line ++ ['\r', '\n'] := by
      rw [withReturns_append, withReturns_of_oneLine oneLine]
      rfl
    rw [Function.comp_apply, ends, long, short]

end Lines

end Phrasebook
