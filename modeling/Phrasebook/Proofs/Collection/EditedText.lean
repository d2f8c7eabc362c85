import Phrasebook.Collection.Edit
import Phrasebook.Proofs.Template.Files
import Phrasebook.Proofs.Text.Lines

/-! The lines of an edited text are lines of the old text and lines of the template. -/

namespace Phrasebook

/-- Whether a text ends with a character that is no part of a line end. -/
def EndsInLine (text : List Char) : Prop :=
  -- So the text is not empty.
  ∃ c, text.getLast? = some c ∧ c ≠ '\n' ∧ c ≠ '\r'

/-- Whether every line of a text stays as it is with a line end behind it. -/
def KeepsLines (lineEnd text : List Char) : Prop :=
  -- A carriage return at the end of a line would be taken for a part of a lone line feed.
  ∀ line ∈ linesOf text, lineEnd = ['\r', '\n'] ∨ line.getLast? ≠ some '\r'

/-- A text that ends in a line is not empty. -/
theorem EndsInLine.ne_nil {text : List Char} (ends : EndsInLine text) : text ≠ [] := by
  rintro rfl
  obtain ⟨c, last, _⟩ := ends
  cases last

/-- A text ends in a line if a part at its end does. -/
theorem EndsInLine.append {text : List Char} (ends : EndsInLine text) (front : List Char) : EndsInLine (front ++ text) := by
  obtain ⟨c, last, other⟩ := ends
  exact ⟨c, by rw [List.getLast?_append, last, Option.some_or], other⟩

/-- A text that closes ends in a line. -/
theorem Closes.endsInLine {text : List Char} (closes : Closes text) : EndsInLine text := by
  obtain ⟨front, c, rfl, dark⟩ := closes
  refine ⟨c, by simp, ?_, ?_⟩
  · rintro rfl
    exact absurd dark (by decide)
  · rintro rfl
    exact absurd dark (by decide)

/-- A text that ends in a line has a last line, without a line end. -/
theorem EndsInLine.exists_line {text : List Char} (ends : EndsInLine text) :
    ∃ front line, text = front ++ line ∧ line ≠ [] ∧ '\n' ∉ line ∧ linesOf text = linesOf front ++ [line] := by
  have nonempty := ends.ne_nil
  obtain ⟨c, last, feed, _⟩ := ends
  obtain ⟨front, line, rfl, ended, some, oneLine⟩ := exists_last_line nonempty (by rw [last]; simpa using feed)
  exact ⟨front, line, rfl, some, oneLine, by rw [linesOf_append ended, linesOf_bare some oneLine]⟩

/-- There is no line feed in a line. -/
theorem feed_not_mem_linesOf {text line : List Char} (inside : line ∈ linesOf text) : '\n' ∉ line := by
  obtain ⟨piece, cut, rfl⟩ := List.mem_map.mp inside
  obtain ⟨before, after, pieces⟩ := List.append_of_mem cut
  have whole := arePieces_linesWithEnds text
  rw [pieces, List.append_cons] at whole
  obtain ⟨line, oneLine, rfl | rfl⟩ := (whole.split.1.split).2.1.exists_line
  · rwa [withoutLineEnd_bare oneLine]
  · intro feed
    have lines : withoutLineEnd (line ++ ['\n']) ∈ linesOf (line ++ ['\n']) := by
      rw [linesOf, linesWithEnds_feed oneLine]
      exact List.mem_cons_self
    -- Nothing but a carriage return may be missing from the line.
    rcases List.eq_nil_or_concat line with rfl | ⟨front, c, rfl⟩
    · exact absurd feed (by decide)
    · by_cases back : c = '\r'
      · simp [withoutLineEnd, back] at feed oneLine
        exact oneLine feed
      · simp [withoutLineEnd, back] at feed oneLine
        exact feed.elim oneLine.1 (fun same => oneLine.2 same)

/-- A text uses a line end. -/
theorem isLineEnd_lineEndOf (content : List Char) : IsLineEnd (lineEndOf content) := by
  unfold lineEndOf
  split
  · exact .inr rfl
  · exact .inl rfl

/-- The text of a template whose name has no other characters ends in a line. -/
theorem formatTemplate_endsInLine {name : String} (spelled : IsSpelled name) (parameters : List String) (body : String)
    (lineEnd : List Char) : EndsInLine (formatTemplate name parameters body lineEnd) := by
  rcases trimBack_eq_nil_or_closes body.toList with none | closes
  · have header : formatTemplate name parameters body lineEnd =
        (if parameters.isEmpty then "# " ++ name else "# " ++ name ++ "(" ++ String.intercalate ", " parameters ++ ")").toList := by
      simp [formatTemplate, none, linesOf, linesWithEnds]
    rw [header]
    split
    · rw [String.toList_append]
      rcases List.eq_nil_or_concat name.toList with empty | ⟨front, c, chars⟩
      · rw [empty]
        exact ⟨' ', by decide, by decide, by decide⟩
      · have inside : isNameChar c = true := spelled c (by simp [chars])
        refine EndsInLine.append ⟨c, by simp [chars], ?_, ?_⟩ _
        · rintro rfl
          exact absurd inside (by decide)
        · rintro rfl
          exact absurd inside (by decide)
    · rw [String.toList_append]
      exact EndsInLine.append ⟨')', by decide, by decide, by decide⟩ _
  · -- The last line of the body ends the text.
    obtain ⟨c, last, feed, back⟩ := closes.endsInLine
    obtain ⟨front, line, whole, some, _, lines⟩ := closes.endsInLine.exists_line
    have ends : EndsInLine line := by
      rw [whole, List.getLast?_append_of_ne_nil _ some] at last
      exact ⟨c, last, feed, back⟩
    rw [formatTemplate, lines, List.flatMap_append, ← List.append_assoc]
    simp only [List.flatMap_singleton]
    exact (ends.append _).append _

/-- Adding a template leaves the lines of the text, without white space at its end, and adds those of the template. -/
theorem linesOf_appendTemplate {content name body : String} {parameters : List String}
    (ends : EndsInLine (formatTemplate name parameters body (lineEndOf content.toList))) :
    ∃ gap, AreBlank gap ∧ linesOf (appendTemplate content name parameters body).toList =
      linesOf (trimBack content.toList) ++ gap ++ linesOf (formatTemplate name parameters body (lineEndOf content.toList)) := by
  have valid := isLineEnd_lineEndOf content.toList
  obtain ⟨c, last, feed, back⟩ := ends
  have nonempty := EndsInLine.ne_nil ⟨c, last, feed, back⟩
  simp only [appendTemplate, String.toList_ofList]
  generalize formatTemplate name parameters body (lineEndOf content.toList) = text at last nonempty ⊢
  generalize lineEndOf content.toList = lineEnd at valid ⊢
  have added : linesOf (text ++ lineEnd) = linesOf text :=
    valid.linesOf_append nonempty (by rw [last]; simpa using feed) (by rw [last]; simpa using back)
  rcases trimBack_eq_nil_or_closes content.toList with none | closes
  · exact ⟨[], nofun, by rw [none]; exact added⟩
  · generalize trimBack content.toList = kept at closes ⊢
    obtain ⟨d, last, feed, back⟩ := closes.endsInLine
    have old := valid.linesOf_append closes.endsInLine.ne_nil (by rw [last]; simpa using feed) (by rw [last]; simpa using back)
    have some : kept.isEmpty = false := by simpa using closes.endsInLine.ne_nil
    refine ⟨[[]], by simp [AreBlank], ?_⟩
    have gap : linesOf (lineEnd ++ (text ++ lineEnd)) = [[]] ++ linesOf text := by
      rw [linesOf_append (by simpa using valid.endsLine []), valid.linesOf, added]
    have parts : kept ++ (lineEnd ++ lineEnd) ++ text ++ lineEnd = kept ++ lineEnd ++ (lineEnd ++ (text ++ lineEnd)) := by
      simp only [List.append_assoc]
    rw [some, if_neg Bool.false_ne_true, parts, linesOf_append (valid.endsLine kept), old, gap, List.append_assoc]

/-- The lines around a range are what stands in front of it and behind it. -/
theorem aroundRange_append (front part back : List (List Char)) :
    aroundRange (front ++ part ++ back) ⟨front.length + 1, front.length + part.length⟩ = (front, back) := by
  have start : min (front.length + 1 - 1) (front ++ part ++ back).length = front.length := by simp
  have stop : max front.length (min (front.length + part.length) (front ++ part ++ back).length) = (front ++ part).length := by
    simp
  simp only [aroundRange, start, stop]
  rw [List.drop_left, List.append_assoc, List.take_left]

/-- The text after lines have been replaced: the last line keeps the line end of the text, or the lack of one. -/
theorem replaceLines_eq {content : String} {before middle after : List (List Char)}
    (pieces : linesWithEnds content.toList = before ++ middle ++ after) {text : List Char} {start : List (List Char)}
    {line : List Char} (lines : linesOf text = start ++ [line]) :
    replaceLines content ⟨before.length + 1, before.length + middle.length⟩ text =
      String.ofList (before.flatten ++ ((start.flatMap (· ++ lineEndOf content.toList)) ++ (line ++
        if after.isEmpty && content.toList.getLast? != some '\n' then [] else lineEndOf content.toList)) ++ after.flatten) := by
  have around := aroundRange_append before middle after
  rw [← pieces] at around
  simp only [replaceLines, around, lines, List.flatMap_append, List.flatMap_singleton]
  split
  · rw [← List.append_assoc, List.length_append, Nat.add_sub_cancel, List.take_left, List.append_nil]
  · rfl

section Range

variable {content : String} {front part back : List (List Char)} (lines : linesOf content.toList = front ++ part ++ back)
  (some : part ≠ [])

include lines some

/-- The pieces of a text fall apart as its lines do. -/
theorem exists_pieces : ∃ before middle after, linesWithEnds content.toList = before ++ middle ++ after ∧
    before.map withoutLineEnd = front ∧ middle.map withoutLineEnd = part ∧ after.map withoutLineEnd = back ∧
    EndsLine before.flatten ∧ ArePieces before ∧ ArePieces after := by
  obtain ⟨both, after, pieces, front', rfl⟩ := List.map_eq_append_iff.mp lines
  obtain ⟨before, middle, rfl, rfl, rfl⟩ := List.map_eq_append_iff.mp front'
  have whole := arePieces_linesWithEnds content.toList
  rw [pieces] at whole
  obtain ⟨here, behind, _⟩ := whole.split
  obtain ⟨first, _, ended⟩ := here.split
  exact ⟨before, middle, after, pieces, rfl, rfl, rfl, ended (by simpa using some), first, behind⟩

/-- Replacing lines leaves the other lines as they are. -/
theorem linesOf_replaceLines {text : List Char} (ends : EndsInLine text) (keeps : KeepsLines (lineEndOf content.toList) text) :
    linesOf (replaceLines content ⟨front.length + 1, front.length + part.length⟩ text).toList =
      front ++ linesOf text ++ back := by
  have valid := isLineEnd_lineEndOf content.toList
  obtain ⟨before, middle, after, pieces, rfl, rfl, rfl, ended, first, behind⟩ := exists_pieces lines some
  obtain ⟨start, line, rfl, some, oneLine, lines'⟩ := ends.exists_line
  have replaced := replaceLines_eq pieces lines'
  rw [lines']
  rw [KeepsLines, lines'] at keeps
  have old : linesOf before.flatten = before.map withoutLineEnd := congrArg (List.map withoutLineEnd) first
  have kept : ∀ raw ∈ linesOf start, IsLineBefore (lineEndOf content.toList) raw := fun raw inside =>
    ⟨feed_not_mem_linesOf inside, keeps raw (List.mem_append_left _ inside)⟩
  rw [List.length_map, List.length_map, replaced, String.toList_ofList, List.append_assoc, linesOf_append ended, old,
    List.append_assoc, valid.linesOf_flatMap kept, List.append_assoc, List.append_assoc, List.append_assoc]
  refine congrArg (fun rest => before.map withoutLineEnd ++ (linesOf start ++ rest)) ?_
  split
  · -- Nothing follows, so that the last line keeps the lack of an end.
    rename_i last
    obtain rfl : after = [] := List.isEmpty_iff.mp (Bool.and_eq_true_iff.mp last).1
    simp [linesOf_bare some oneLine]
  · have rest : linesOf after.flatten = after.map withoutLineEnd := congrArg (List.map withoutLineEnd) behind
    have one := valid.linesOf_flatMap (List.forall_mem_singleton.mpr ⟨oneLine, keeps line (by simp)⟩) after.flatten
    rwa [List.flatMap_singleton, List.append_assoc, rest] at one

/-- Removing lines leaves the other lines as they are, but for blank lines around them. -/
theorem linesOf_removeLines : ∃ front' blanks back', back = blanks ++ back' ∧ AreBlank blanks ∧
    linesOf (removeLines content ⟨front.length + 1, front.length + part.length⟩).toList = front' ++ back' ∧
    (front' = front ∨ back' = [] ∧ ∃ trail, AreBlank trail ∧ front = front' ++ trail) := by
  obtain ⟨before, middle, after, pieces, rfl, rfl, rfl, ended, first, behind⟩ := exists_pieces lines some
  have around := aroundRange_append before middle after
  rw [← pieces] at around
  have sameLength : ∀ pieces : List (List Char), (pieces.map withoutLineEnd).length = pieces.length := fun _ => List.length_map _
  obtain ⟨opensGap, removed⟩ : ∃ opensGap : Bool,
      (removeLines content ⟨(before.map withoutLineEnd).length + 1,
        (before.map withoutLineEnd).length + (middle.map withoutLineEnd).length⟩).toList =
      (if (if opensGap then after.dropWhile isBlankLine else after).isEmpty then dropBlankEnd before else before).flatten ++
        (if opensGap then after.dropWhile isBlankLine else after).flatten := by
    simp only [removeLines, String.toList_ofList, sameLength, around]
    exact ⟨_, rfl⟩
  rw [removed]
  -- Blank lines behind the range may be dropped.
  obtain ⟨blanks, rest, rfl, blank, dropped⟩ : ∃ blanks rest, after = blanks ++ rest ∧
      (∀ piece ∈ blanks, isBlankLine piece = true) ∧ (if opensGap then after.dropWhile isBlankLine else after) = rest := by
    cases opensGap with
    | true =>
      exact ⟨after.takeWhile isBlankLine, after.dropWhile isBlankLine, List.takeWhile_append_dropWhile.symm,
        fun piece inside => List.mem_takeWhile_imp inside, rfl⟩
    | false => exact ⟨[], after, rfl, nofun, rfl⟩
  have bare {pieces : List (List Char)} (blank : ∀ piece ∈ pieces, isBlankLine piece = true) :
      AreBlank (pieces.map withoutLineEnd) := by
    intro raw inside c among
    obtain ⟨piece, here, rfl⟩ := List.mem_map.mp inside
    exact List.all_eq_true.mp (blank piece here) c (mem_of_mem_withoutLineEnd among)
  rw [dropped]
  cases rest with
  | nil =>
    obtain ⟨trail, whole, blank'⟩ : ∃ trail, dropBlankEnd before ++ trail = before ∧ ∀ piece ∈ trail, isBlankLine piece = true :=
      ⟨before.rtakeWhile isBlankLine, List.rdropWhile_append_rtakeWhile, fun piece inside => List.mem_rtakeWhile_imp inside⟩
    have kept : ArePieces (dropBlankEnd before) := by
      rw [← whole] at first
      exact first.split.1
    refine ⟨(dropBlankEnd before).map withoutLineEnd, blanks.map withoutLineEnd, [], by simp, bare blank, ?_,
      .inr ⟨rfl, trail.map withoutLineEnd, bare blank', by rw [← List.map_append, whole]⟩⟩
    simp only [List.isEmpty_nil, if_true, List.flatten_nil, List.append_nil]
    exact congrArg (List.map withoutLineEnd) kept
  | cons piece rest =>
    refine ⟨before.map withoutLineEnd, blanks.map withoutLineEnd, (piece :: rest).map withoutLineEnd, by simp, bare blank, ?_,
      .inl rfl⟩
    have old : linesOf before.flatten = before.map withoutLineEnd := congrArg (List.map withoutLineEnd) first
    have new : linesOf (piece :: rest).flatten = (piece :: rest).map withoutLineEnd :=
      congrArg (List.map withoutLineEnd) behind.split.2.1
    rw [List.isEmpty_cons, if_neg Bool.false_ne_true, linesOf_append ended, old, new]

end Range

end Phrasebook
