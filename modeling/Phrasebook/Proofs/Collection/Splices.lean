import Phrasebook.Proofs.Collection.EditedText

/-! Lines that were added to a text can be removed again, and replacing lines once more by the same ones changes nothing. -/

namespace Phrasebook

section Deletion

/-- A text that ends with one line end and no other white space, unless it is blank. -/
def endedOnce (content : String) : String :=
  -- The line end is the one that the text uses.
  let kept := trimBack content.toList
  if kept.isEmpty then "" else String.ofList (kept ++ lineEndOf content.toList)

/-- Blank lines at the end are dropped. -/
theorem dropBlankEnd_concat_blank {piece : List Char} (blank : isBlankLine piece = true) (pieces : List (List Char)) :
    dropBlankEnd (pieces ++ [piece]) = dropBlankEnd pieces := by
  rw [dropBlankEnd, List.reverse_concat, List.dropWhile_cons_of_pos blank, dropBlankEnd]

/-- A line at the end that is not blank is kept, and so is all in front of it. -/
theorem dropBlankEnd_concat_dark {piece : List Char} (dark : isBlankLine piece = false) (pieces : List (List Char)) :
    dropBlankEnd (pieces ++ [piece]) = pieces ++ [piece] := by
  rw [dropBlankEnd, List.reverse_concat, List.dropWhile_cons_of_neg (by simp [dark]), ← List.reverse_concat, List.reverse_reverse]

/-- Removing the last lines of a text leaves those in front of them, but for blank ones at the end. -/
theorem removeLines_of_last {content : String} {before last : List (List Char)}
    (pieces : linesWithEnds content.toList = before ++ last) :
    removeLines content ⟨before.length + 1, before.length + last.length⟩ = String.ofList (dropBlankEnd before).flatten := by
  have around := aroundRange_append before last []
  rw [List.append_nil, ← pieces] at around
  simp only [removeLines, around, List.dropWhile_nil, ite_self, List.isEmpty_nil, if_true, List.flatten_nil, List.append_nil]

/-- A line end is blank. -/
theorem IsLineEnd.isBlankLine {lineEnd : List Char} (valid : IsLineEnd lineEnd) : isBlankLine lineEnd = true := by
  rcases valid with rfl | rfl <;> decide

/-- The last piece of a text that closes is not blank. -/
theorem dropBlankEnd_of_closes {text lineEnd : List Char} (valid : IsLineEnd lineEnd) (closes : Closes text) :
    dropBlankEnd (linesWithEnds (text ++ lineEnd)) = linesWithEnds (text ++ lineEnd) := by
  obtain ⟨start, c, rfl, dark⟩ := closes
  have feed : c ≠ '\n' := fun same => absurd (same ▸ dark) (by decide)
  have unended : (start ++ [c]).getLast? ≠ some '\n' := by simpa using feed
  obtain ⟨front, line, whole, ended, some, oneLine⟩ := exists_last_line (by simp) unended
  have last : c ∈ line := by
    have ends : (front ++ line).getLast? = Option.some c := by rw [← whole]; simp
    rw [List.getLast?_append_of_ne_nil _ some] at ends
    exact List.mem_of_getLast? ends
  have dark' : isBlankLine (line ++ lineEnd) = false := by
    rw [Bool.eq_false_iff]
    intro blank
    have blank := List.all_eq_true.mp blank c (List.mem_append_left _ last)
    rw [dark] at blank
    cases blank
  rw [whole, List.append_assoc, linesWithEnds_append ended, valid.linesWithEnds_append oneLine]
  exact dropBlankEnd_concat_dark dark' _

/-- Removing the lines of a template that has been added leaves the text as it was, but for white space at its end. -/
theorem removeLines_appendTemplate {content name body : String} {parameters : List String}
    (ends : EndsInLine (formatTemplate name parameters body (lineEndOf content.toList))) {front : List (List Char)}
    (lines : linesOf (appendTemplate content name parameters body).toList =
      front ++ linesOf (formatTemplate name parameters body (lineEndOf content.toList))) :
    removeLines (appendTemplate content name parameters body) ⟨front.length + 1,
      front.length + (linesOf (formatTemplate name parameters body (lineEndOf content.toList))).length⟩ = endedOnce content := by
  have valid := isLineEnd_lineEndOf content.toList
  obtain ⟨c, last, feed, back⟩ := ends
  have nonempty := EndsInLine.ne_nil ⟨c, last, feed, back⟩
  simp only [endedOnce]
  generalize appended : appendTemplate content name parameters body = whole at lines ⊢
  simp only [appendTemplate] at appended
  generalize formatTemplate name parameters body (lineEndOf content.toList) = text at *
  generalize lineEndOf content.toList = lineEnd at *
  -- A line end behind the template adds no line to it.
  have added : linesOf (text ++ lineEnd) = linesOf text :=
    valid.linesOf_append nonempty (by rw [last]; simpa using feed) (by rw [last]; simpa using back)
  have height : (linesWithEnds (text ++ lineEnd)).length = (linesOf text).length := by
    rw [← added, linesOf, List.length_map]
  rcases trimBack_eq_nil_or_closes content.toList with none | closes
  · simp only [none, List.isEmpty_nil, if_true, List.nil_append] at appended ⊢
    have pieces : linesWithEnds whole.toList = [] ++ linesWithEnds (text ++ lineEnd) := by
      rw [← appended, String.toList_ofList, List.nil_append]
    obtain rfl : front = [] := by
      rw [← appended, String.toList_ofList, added] at lines
      exact List.self_eq_append_left.mp lines
    rw [← height]
    exact removeLines_of_last pieces
  · generalize trimBack content.toList = kept at *
    have some : kept.isEmpty = false := by simpa using closes.endsInLine.ne_nil
    simp only [some, Bool.false_eq_true, if_false] at appended ⊢
    have pieces : linesWithEnds whole.toList = (linesWithEnds (kept ++ lineEnd) ++ [lineEnd]) ++ linesWithEnds (text ++ lineEnd) := by
      have parts : kept ++ (lineEnd ++ lineEnd) ++ text ++ lineEnd = (kept ++ lineEnd) ++ (lineEnd ++ (text ++ lineEnd)) := by
        simp only [List.append_assoc]
      have gap : linesWithEnds (lineEnd ++ (text ++ lineEnd)) = [lineEnd] ++ linesWithEnds (text ++ lineEnd) := by
        have ended : EndsLine lineEnd := valid.endsLine []
        have alone : linesWithEnds lineEnd = [lineEnd] := valid.linesWithEnds_append List.not_mem_nil
        rw [linesWithEnds_append ended, alone]
      rw [← appended, String.toList_ofList, parts, linesWithEnds_append (valid.endsLine kept), gap, List.append_assoc]
    have count : front.length = (linesWithEnds (kept ++ lineEnd) ++ [lineEnd]).length := by
      have total := congrArg List.length lines
      rw [linesOf, pieces, List.length_map, List.length_append, height, @List.length_append _ front] at total
      exact (Nat.add_right_cancel total).symm
    rw [← height, count, removeLines_of_last pieces, dropBlankEnd_concat_blank valid.isBlankLine,
      dropBlankEnd_of_closes valid closes, flatten_linesWithEnds]

end Deletion

section LineEnds

/-- A text is looked for everywhere in another one. -/
theorem containsText_iff {pattern text : List Char} : containsText pattern text = true ↔ pattern <:+: text := by
  induction text with
  | nil => simp [containsText]
  | cons c text later => simp [containsText, later, List.infix_cons_iff]

/-- A text uses line ends of two characters if there is one. -/
theorem lineEndOf_eq_iff {text : List Char} : lineEndOf text = ['\r', '\n'] ↔ ['\r', '\n'] <:+: text := by
  rw [← containsText_iff, lineEndOf]
  cases containsText ['\r', '\n'] text <;> decide

/-- No line end of two characters stands where two texts meet at a line end. -/
theorem infix_append_of_endsLine {front back : List Char} (ended : EndsLine front) (found : ['\r', '\n'] <:+: front ++ back) :
    ['\r', '\n'] <:+: front ∨ ['\r', '\n'] <:+: back := by
  obtain ⟨before, after, whole⟩ := found
  rw [List.append_assoc] at whole
  rcases List.append_eq_append_iff.mp whole with ⟨rest, rfl, parts⟩ | ⟨rest, rfl, parts⟩
  · -- The line end starts in front of the meeting point.
    match rest, parts with
    | [], parts => exact .inr ⟨[], after, by simpa using parts⟩
    | [c], parts =>
      obtain ⟨rfl, _⟩ : '\r' = c ∧ '\n' :: after = back := by simpa using parts
      exact absurd (ended '\r' (by simp)) (by decide)
    | c :: d :: rest, parts =>
      obtain ⟨rfl, rfl, _⟩ : '\r' = c ∧ '\n' = d ∧ after = rest ++ back := by simpa using parts
      exact .inl ⟨before, rest, by simp⟩
  · exact .inr ⟨rest, after, by simpa using parts.symm⟩

/-- There is no line end of two characters in a line that keeps a lone line feed. -/
theorem not_infix_of_isLineBefore {line : List Char} (before : IsLineBefore ['\n'] line) :
    ¬ ['\r', '\n'] <:+: line ++ ['\n'] := by
  have bare : line.getLast? ≠ some '\r' := before.2.resolve_left (by decide)
  intro found
  rcases List.infix_concat_iff.mp found with ends | inside
  · obtain ⟨front, whole⟩ := ends
    have same : front ++ ['\r'] = line := by
      rw [show ['\r', '\n'] = ['\r'] ++ ['\n'] from rfl, ← List.append_assoc] at whole
      exact List.append_cancel_right whole
    exact bare (by rw [← same, List.getLast?_concat])
  · exact before.1 (inside.subset (by simp))

/-- Nor is there one in lines that keep lone line feeds. -/
theorem infix_of_flatMap {lines : List (List Char)} (before : ∀ raw ∈ lines, IsLineBefore ['\n'] raw) {rest : List Char}
    (found : ['\r', '\n'] <:+: lines.flatMap (· ++ ['\n']) ++ rest) : ['\r', '\n'] <:+: rest := by
  induction lines with
  | nil => exact found
  | cons line lines later =>
    obtain ⟨here, others⟩ := List.forall_mem_cons.mp before
    have ended : EndsLine (line ++ ['\n']) := by simp [EndsLine]
    rw [List.flatMap_cons, List.append_assoc] at found
    exact later others ((infix_append_of_endsLine ended found).resolve_left (not_infix_of_isLineBefore here))

end LineEnds

section Replacement

/-- Whether a text has lines in the place of others: all of them have a line end, but the last one may lack it. -/
structure IsReplaced (lineEnd : List Char) (content : String) (before start : List (List Char)) (line tail : List Char)
    (after : List (List Char)) : Prop where
  /-- The lines stand between pieces of another text. -/
  whole : content.toList = before.flatten ++ (start.flatMap (· ++ lineEnd) ++ (line ++ tail)) ++ after.flatten
  /-- The line end ends a line. -/
  valid : IsLineEnd lineEnd
  /-- The lines start behind a line end. -/
  ended : EndsLine before.flatten
  /-- In front of them are pieces. -/
  first : ArePieces before
  /-- Behind them are pieces. -/
  behind : ArePieces after
  /-- Lone line feeds stand among lone line feeds. -/
  plain : lineEnd = ['\n'] → ¬ ['\r', '\n'] <:+: before.flatten ∧ ¬ ['\r', '\n'] <:+: after.flatten
  /-- The lines stay as they are. -/
  kept : ∀ raw ∈ start ++ [line], IsLineBefore lineEnd raw
  /-- The last line is not empty. -/
  some : line ≠ []
  /-- It lacks the line end only where nothing follows. -/
  closes : tail = lineEnd ∨ tail = [] ∧ after = []

variable {lineEnd : List Char} {content : String} {before start : List (List Char)} {line tail : List Char}
  {after : List (List Char)} (replaced : IsReplaced lineEnd content before start line tail after)

include replaced

/-- The text is cut into the lines and the pieces around them. -/
theorem IsReplaced.linesWithEnds_eq :
    linesWithEnds content.toList = before ++ (start.map (· ++ lineEnd) ++ [line ++ tail]) ++ after := by
  have oneLine : '\n' ∉ line := (replaced.kept line (by simp)).1
  have first : linesWithEnds before.flatten = before := replaced.first
  have behind : linesWithEnds after.flatten = after := replaced.behind
  have last : linesWithEnds (line ++ tail ++ after.flatten) = [line ++ tail] ++ after := by
    rcases replaced.closes with rfl | ⟨rfl, rfl⟩
    · rw [linesWithEnds_append (replaced.valid.endsLine line), replaced.valid.linesWithEnds_append oneLine, behind]
    · simpa using linesWithEnds_bare replaced.some oneLine
  rw [replaced.whole, List.append_assoc, linesWithEnds_append replaced.ended, first, List.append_assoc,
    replaced.valid.linesWithEnds_flatMap fun raw inside => (replaced.kept raw (List.mem_append_left _ inside)).1, last]
  simp only [List.append_assoc]

/-- The last line lacks the line end if the text does. -/
theorem IsReplaced.tail_eq_nil_iff : (after.isEmpty && content.toList.getLast? != Option.some '\n') = true ↔ tail = [] := by
  have oneLine : '\n' ∉ line := (replaced.kept line (by simp)).1
  rw [Bool.and_eq_true, List.isEmpty_iff, bne_iff_ne, replaced.whole]
  rcases replaced.closes with rfl | ⟨rfl, rfl⟩
  · have some : tail ≠ [] := by rcases replaced.valid with rfl | rfl <;> decide
    refine iff_of_false ?_ some
    rintro ⟨rfl, open'⟩
    refine open' ?_
    rcases replaced.valid with rfl | rfl <;> simp
  · refine iff_of_true ⟨rfl, fun ends => oneLine ?_⟩ rfl
    simp only [List.append_nil, List.flatten_nil, List.getLast?_append_of_ne_nil _ replaced.some,
      List.getLast?_append_of_ne_nil _ (List.append_ne_nil_of_right_ne_nil _ replaced.some)] at ends
    exact List.mem_of_getLast? ends

/-- The line end is the one that the text uses, unless it stands nowhere in the lines. -/
theorem IsReplaced.lineEndOf_eq : lineEndOf content.toList = lineEnd ∨ start = [] ∧ tail = [] ∧ after = [] := by
  rcases replaced.valid with rfl | rfl
  · left
    refine (isLineEnd_lineEndOf content.toList).resolve_right fun other => ?_
    obtain ⟨none, none'⟩ := replaced.plain rfl
    have found := lineEndOf_eq_iff.mp other
    rw [replaced.whole, List.append_assoc] at found
    -- It would stand in one of the lines or in the text around them.
    have found := (infix_append_of_endsLine replaced.ended found).resolve_left none
    rw [List.append_assoc] at found
    have found := infix_of_flatMap (fun raw inside => replaced.kept raw (List.mem_append_left _ inside)) found
    have last := replaced.kept line (by simp)
    rcases replaced.closes with rfl | ⟨rfl, rfl⟩
    · exact none' ((infix_append_of_endsLine (replaced.valid.endsLine line) found).resolve_left (not_infix_of_isLineBefore last))
    · rw [List.append_nil, List.flatten_nil, List.append_nil] at found
      exact last.1 (found.subset (by simp))
  · rw [lineEndOf_eq_iff, replaced.whole]
    rcases replaced.closes with rfl | ⟨rfl, rfl⟩
    · exact .inl ⟨before.flatten ++ start.flatMap (· ++ ['\r', '\n']) ++ line, after.flatten, by simp⟩
    · cases start with
      | nil => exact .inr ⟨rfl, rfl, rfl⟩
      | cons raw start => exact .inl ⟨before.flatten ++ raw, start.flatMap (· ++ ['\r', '\n']) ++ line, by simp⟩

/-- Replacing the lines once more by the same ones changes nothing. -/
theorem IsReplaced.replaceLines_eq_self {text : List Char} (lines : linesOf text = start ++ [line]) :
    replaceLines content ⟨before.length + 1, before.length + (start ++ [line]).length⟩ text = content := by
  have again := replaceLines_eq replaced.linesWithEnds_eq lines
  rw [List.length_append, List.length_map, List.length_singleton] at again
  rw [List.length_append, List.length_singleton, again, ← String.toList_inj, String.toList_ofList]
  conv_rhs => rw [replaced.whole]
  congr 2
  rcases replaced.lineEndOf_eq with same | ⟨rfl, rfl, rfl⟩
  · rw [same]
    congr 2
    split
    · rename_i bare
      exact (replaced.tail_eq_nil_iff.mp bare).symm
    · rename_i closed
      rcases replaced.closes with rfl | ⟨rfl, _⟩
      · rfl
      · exact absurd (replaced.tail_eq_nil_iff.mpr rfl) closed
  · rw [if_pos (replaced.tail_eq_nil_iff.mpr rfl)]
    rfl

end Replacement

/-- The text that is written for a template holds no line end but the one that is used for it. -/
theorem formatTemplate_of_oneLine {name body : String} {parameters : List String} {lineEnd : List Char} (valid : IsLineEnd lineEnd)
    (oneLine : '\n' ∉ formatTemplate name parameters body lineEnd) (other : List Char) :
    formatTemplate name parameters body other = formatTemplate name parameters body lineEnd := by
  cases lines : linesOf (trimBack body.toList) with
  | nil => simp only [formatTemplate, lines, List.flatMap_nil]
  | cons line rest =>
    -- A line of the body follows a line end.
    refine absurd ?_ oneLine
    simp only [formatTemplate, lines, List.flatMap_cons, List.mem_append]
    exact .inr (.inl (.inl (by rcases valid with rfl | rfl <;> decide)))

section Again

variable {content : String} {front part back : List (List Char)} (lines : linesOf content.toList = front ++ part ++ back)
  (some : part ≠ [])

include lines some

/-- Replacing lines puts the new ones in their place. -/
theorem exists_isReplaced {text : List Char} (ends : EndsInLine text) (keeps : KeepsLines (lineEndOf content.toList) text) :
    ∃ before start line tail after, before.length = front.length ∧ linesOf text = start ++ [line] ∧
      (start = [] → text = line) ∧ IsReplaced (lineEndOf content.toList)
        (replaceLines content ⟨front.length + 1, front.length + part.length⟩ text) before start line tail after := by
  obtain ⟨before, middle, after, pieces, rfl, rfl, rfl, ended, first, behind⟩ := exists_pieces lines some
  obtain ⟨start, line, rfl, some, oneLine, lines'⟩ := ends.exists_line
  rw [KeepsLines, lines'] at keeps
  have whole := flatten_linesWithEnds content.toList
  rw [pieces, List.flatten_append, List.flatten_append] at whole
  have replaced := replaceLines_eq pieces lines'
  have alone (none : linesOf start = []) : start ++ line = line := by
    rw [← flatten_linesWithEnds start, List.map_eq_nil_iff.mp none]
    rfl
  have plain (lone : lineEndOf content.toList = ['\n']) :
      ¬ ['\r', '\n'] <:+: before.flatten ∧ ¬ ['\r', '\n'] <:+: after.flatten := by
    have none : ¬ ['\r', '\n'] <:+: content.toList := fun found => by
      rw [← lineEndOf_eq_iff, lone] at found
      cases found
    rw [← whole] at none
    exact ⟨fun found => none (found.trans ⟨[], middle.flatten ++ after.flatten, by simp⟩),
      fun found => none (found.trans ⟨before.flatten ++ middle.flatten, [], by simp⟩)⟩
  have kept : ∀ raw ∈ linesOf start ++ [line], IsLineBefore (lineEndOf content.toList) raw := fun raw inside =>
    ⟨feed_not_mem_linesOf (lines' ▸ inside), keeps raw inside⟩
  rw [List.length_map, List.length_map, replaced]
  refine ⟨before, linesOf start, line, _, after, rfl, lines', alone, String.toList_ofList, isLineEnd_lineEndOf _, ended, first,
    behind, plain, kept, some, ?_⟩
  split
  · rename_i last
    exact .inr ⟨rfl, List.isEmpty_iff.mp (Bool.and_eq_true_iff.mp last).1⟩
  · exact .inl rfl

/-- Replacing lines by those of a template, and those by the same ones, is replacing them once. -/
theorem replaceLines_twice {name body : String} {parameters : List String}
    (ends : EndsInLine (formatTemplate name parameters body (lineEndOf content.toList)))
    (keeps : KeepsLines (lineEndOf content.toList) (formatTemplate name parameters body (lineEndOf content.toList)))
    {once : String} (replaced : once = replaceLines content ⟨front.length + 1, front.length + part.length⟩
      (formatTemplate name parameters body (lineEndOf content.toList))) :
    replaceLines once ⟨front.length + 1,
      front.length + (linesOf (formatTemplate name parameters body (lineEndOf content.toList))).length⟩
        (formatTemplate name parameters body (lineEndOf once.toList)) = once := by
  obtain ⟨before, start, line, tail, after, count, lines', alone, is⟩ := exists_isReplaced lines some ends keeps
  rw [← replaced] at is
  have same : formatTemplate name parameters body (lineEndOf once.toList) =
      formatTemplate name parameters body (lineEndOf content.toList) := by
    rcases is.lineEndOf_eq with same | ⟨none, _⟩
    · rw [same]
    · refine formatTemplate_of_oneLine is.valid (fun feed => ?_) _
      rw [alone none] at feed
      exact (is.kept line (by simp)).1 feed
  rw [same, ← count, lines']
  exact is.replaceLines_eq_self lines'

end Again

end Phrasebook
