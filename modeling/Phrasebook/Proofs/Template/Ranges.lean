import Phrasebook.Proofs.Template.Cuts
import Phrasebook.Proofs.Template.Outline

/-! The lines of templates start at name lines, do not overlap, and leave out nothing but imports, comments and blank lines. -/

namespace Phrasebook

/-- Whether a range of the first lines of a file starts at a name line. -/
structure LineRange.IsHeaded (range : LineRange) (lines : List (List Char)) (count : Nat) : Prop where
  /-- The first line is a name line. -/
  named : ∃ index raw, range.first = index + 1 ∧ lines[index]? = some raw ∧ IsNameLine raw
  /-- The last line does not stand in front of it. -/
  ordered : range.first ≤ range.last
  /-- The last line is one of the lines. -/
  bounded : range.last ≤ count

/-- Whether ranges of the first lines of a file start at name lines and stand one behind the other. -/
structure AreOrdered (ranges : List LineRange) (lines : List (List Char)) (count : Nat) : Prop where
  /-- Each of them starts at a name line. -/
  headed : ∀ range ∈ ranges, range.IsHeaded lines count
  /-- Each of them ends before the next one starts. -/
  apart : ranges.Pairwise fun earlier later => earlier.last < later.first

namespace AreOrdered

variable {ranges : List LineRange} {lines : List (List Char)} {count : Nat}

/-- Further lines change nothing. -/
theorem mono {further : Nat} (ordered : AreOrdered ranges lines count) (more : count ≤ further) :
    AreOrdered ranges lines further :=
  ⟨fun range inside => { ordered.headed range inside with bounded := (ordered.headed range inside).bounded.trans more },
    ordered.apart⟩

/-- The last range may reach further. -/
theorem reach {range : LineRange} (ordered : AreOrdered (ranges ++ [range]) lines count) {last : Nat}
    (further : range.last ≤ last) (bounded : last ≤ count) : AreOrdered (ranges ++ [⟨range.first, last⟩]) lines count := by
  obtain ⟨headed, apart⟩ := ordered
  rw [List.forall_mem_append, List.forall_mem_singleton] at headed
  rw [List.pairwise_append] at apart
  refine ⟨?_, ?_⟩
  · rw [List.forall_mem_append, List.forall_mem_singleton]
    exact ⟨headed.1, headed.2.named, headed.2.ordered.trans further, bounded⟩
  · rw [List.pairwise_append]
    refine ⟨apart.1, List.pairwise_singleton _ _, fun earlier inside later same => ?_⟩
    rw [List.mem_singleton.mp same]
    exact apart.2.2 earlier inside range List.mem_cons_self

/-- The next line may start a range if it is a name line. -/
theorem start (ordered : AreOrdered ranges lines count) {raw : List Char} (next : lines[count]? = some raw)
    (named : IsNameLine raw) : AreOrdered (ranges ++ [.single (count + 1)]) lines (count + 1) := by
  refine ⟨?_, ?_⟩
  · rw [List.forall_mem_append, List.forall_mem_singleton]
    exact ⟨(ordered.mono (Nat.le_succ count)).headed, ⟨count, raw, rfl, next, named⟩, Nat.le_refl _, Nat.le_refl _⟩
  · rw [List.pairwise_append]
    refine ⟨ordered.apart, List.pairwise_singleton _ _, fun earlier inside later same => ?_⟩
    rw [List.mem_singleton.mp same]
    exact Nat.lt_succ_of_le (ordered.headed earlier inside).bounded

/-- The last range may be left out. -/
theorem left {more : List LineRange} (ordered : AreOrdered (ranges ++ more) lines count) : AreOrdered ranges lines count :=
  ⟨fun range inside => ordered.headed range (List.mem_append_left more inside), (List.pairwise_append.mp ordered.apart).1⟩

end AreOrdered

namespace Outline

/-- The lines of all templates, the one that is being read included. -/
def ranges (outline : Outline) : List LineRange :=
  -- That one stands behind the others.
  outline.done ++ (outline.pending.map (·.1)).toList

/-- Whether everything in the outline of the first lines of a file stands in them, the templates one behind the other. -/
structure IsOrdered (outline : Outline) (lines : List (List Char)) (count : Nat) : Prop where
  /-- The templates stand one behind the other. -/
  ranges : AreOrdered outline.ranges lines count
  /-- The fenced text was opened on one of the lines. -/
  fenced : ∀ line, outline.fenced = some line → line ≤ count

/-- Further lines change nothing. -/
theorem IsOrdered.mono {outline : Outline} {lines : List (List Char)} {count further : Nat}
    (ordered : outline.IsOrdered lines count) (more : count ≤ further) : outline.IsOrdered lines further :=
  ⟨ordered.ranges.mono more, fun line opened => (ordered.fenced line opened).trans more⟩

/-- Whether the outline of some lines tells what a line is there for. -/
def Covers (outline : Outline) (line : Nat) (raw : List Char) : Prop :=
  -- An open fence takes all lines behind it.
  IsIdleLine raw ∨ (IsImportLine raw ∧ line ∈ outline.imports) ∨
    (∃ range ∈ outline.ranges, range.first ≤ line ∧ line ≤ range.last) ∨ ∃ opened, outline.fenced = some opened ∧ opened ≤ line

/-- What a line is there for is still told where nothing has been given up. -/
theorem Covers.of_kept {before after : Outline} {line : Nat} {raw : List Char} (covered : before.Covers line raw)
    (imports : before.imports ⊆ after.imports)
    (ranges : ∀ range ∈ before.ranges, ∃ last, range.last ≤ last ∧ ⟨range.first, last⟩ ∈ after.ranges)
    (fenced : ∀ opened, before.fenced = some opened → opened ≤ line →
      after.fenced = some opened ∨ ∃ range ∈ after.ranges, range.first ≤ line ∧ line ≤ range.last) : after.Covers line raw := by
  rcases covered with idle | ⟨linked, imported⟩ | ⟨range, inside, first, last⟩ | ⟨opened, same, behind⟩
  · exact .inl idle
  · exact .inr (.inl ⟨linked, imports imported⟩)
  · obtain ⟨later, further, inside'⟩ := ranges range inside
    exact .inr (.inr (.inl ⟨_, inside', first, last.trans further⟩))
  · rcases fenced opened same behind with still | taken
    · exact .inr (.inr (.inr ⟨opened, still, behind⟩))
    · exact .inr (.inr (.inl taken))

/-- Whether the outline of the first lines of a file tells what each of them is there for. -/
structure IsComplete (outline : Outline) (lines : List (List Char)) (count : Nat) : Prop where
  /-- The template that is being read is worth keeping. -/
  readable : ∀ range valid, outline.pending = some (range, valid) → valid = true
  /-- The fenced text belongs to a template. -/
  inside : ∀ line, outline.fenced = some line → ∃ range valid, outline.pending = some (range, valid) ∧ range.first ≤ line
  /-- Each line is told what it is there for. -/
  covers : ∀ index raw, index < count → lines[index]? = some raw → outline.Covers (index + 1) raw

/-- Where no template is being read, no fenced text is open. -/
theorem IsComplete.unfenced {outline : Outline} {lines : List (List Char)} {count : Nat} (complete : outline.IsComplete lines count)
    (nothing : outline.pending = none) : outline.fenced = none := by
  refine Option.eq_none_iff_forall_ne_some.mpr fun line opened => ?_
  obtain ⟨range, valid, started, _⟩ := complete.inside line opened
  exact absurd started (by simp [nothing])

section Finishing

variable {clean : Prop} {before after : Outline} (finishes : Finishes clean before after)

include finishes

/-- Nothing is being read once a template has been finished. -/
theorem Finishes.settled : after.pending = none ∧ after.fenced = none := by
  cases finishes with
  | idle nothing => exact ⟨nothing, rfl⟩
  | kept => exact ⟨rfl, rfl⟩
  | dropped => exact ⟨rfl, rfl⟩

/-- All templates are finished once the last one has been. -/
theorem Finishes.ranges_eq : after.ranges = after.done := by
  simp [Outline.ranges, finishes.settled.1]

variable {lines : List (List Char)} {count : Nat}

/-- Finishing a template keeps everything in order. -/
theorem Finishes.isOrdered (ordered : before.IsOrdered lines count) : after.IsOrdered lines count := by
  refine ⟨?_, fun line opened => ?_⟩
  · cases finishes with
    | idle nothing => exact ordered.ranges
    | @kept range valid started last reaches _ =>
      have ranges : AreOrdered (before.done ++ [range]) lines count := by simpa [Outline.ranges, started] using ordered.ranges
      have bounded := (ranges.headed range (by simp)).bounded
      have reached : AreOrdered (before.done ++ [⟨range.first, last⟩]) lines count := by
        rcases reaches with rfl | ⟨line, opened, rfl⟩
        · exact ranges
        · exact ranges.reach (Nat.le_max_left _ _) (Nat.max_le.mpr ⟨bounded, ordered.fenced line opened⟩)
      simpa [Outline.ranges] using reached
    | dropped started => simpa [Outline.ranges] using ordered.ranges.left
  · rw [finishes.settled.2] at opened
    cases opened

/-- Without errors, finishing a template keeps all lines and imports, and no fenced text was open. -/
theorem Finishes.same (mild : clean) (complete : before.IsComplete lines count) :
    after.ranges = before.ranges ∧ after.imports = before.imports ∧ before.fenced = none := by
  cases finishes with
  | idle nothing unfenced => exact ⟨rfl, rfl, unfenced mild⟩
  | @kept range valid started last reaches unfenced =>
    have same : last = range.last := by
      rcases reaches with same | ⟨line, opened, _⟩
      · exact same
      · rw [unfenced mild] at opened
        cases opened
    exact ⟨by simp [Outline.ranges, started, same], rfl, unfenced mild⟩
  | dropped started faulty =>
    have readable := complete.readable _ _ started
    rw [faulty mild] at readable
    cases readable

end Finishing

section Stepping

variable {clean : Prop} {before after : Outline} {lines : List (List Char)} {count : Nat} {raw : List Char}
  (step : Step clean (count + 1) raw before after) (ordered : before.IsOrdered lines count)

include step ordered

/-- Reading the next line keeps everything in order. -/
theorem Step.isOrdered (next : lines[count]? = some raw) : after.IsOrdered lines (count + 1) := by
  have kept := ordered.mono (Nat.le_succ count)
  cases step with
  | passed => exact kept
  | opened => exact ⟨kept.ranges, fun line same => (Option.some.inj same).ge⟩
  | @reached range valid started last reaches bounded =>
    have ranges : AreOrdered (before.done ++ [range]) lines count := by simpa [Outline.ranges, started] using ordered.ranges
    have inside := (ranges.headed range (by simp)).bounded
    have reached : AreOrdered (before.done ++ [⟨range.first, last⟩]) lines (count + 1) :=
      (ranges.mono (Nat.le_succ count)).reach (by omega) (by omega)
    exact ⟨by simpa [Outline.ranges] using reached, nofun⟩
  | closed => exact ⟨kept.ranges, nofun⟩
  | @started after finishes named valid readable =>
    have ranges : AreOrdered after.done lines count := finishes.ranges_eq ▸ (finishes.isOrdered ordered).ranges
    exact ⟨ranges.start next named, fun line opened => absurd opened (by simp [finishes.settled.2])⟩
  | imported finishes =>
    have finished := (finishes.isOrdered ordered).mono (Nat.le_succ count)
    exact ⟨finished.ranges, finished.fenced⟩
  | failed finishes => exact (finishes.isOrdered ordered).mono (Nat.le_succ count)

variable (mild : clean) (complete : before.IsComplete lines count)

include mild complete

/-- Without errors, it is known after the next line what each line in front of it is there for. -/
theorem Step.covers_of_covers {line : Nat} (earlier : line ≤ count) {other : List Char} (covered : before.Covers line other) :
    after.Covers line other := by
  have all (range : LineRange) (inside : range ∈ before.ranges) : ∃ last, range.last ≤ last ∧ ⟨range.first, last⟩ ∈ before.ranges :=
    ⟨range.last, Nat.le_refl _, inside⟩
  cases step with
  | passed => exact covered
  | opened started unfenced =>
    exact covered.of_kept (List.Subset.refl _) all fun opened same => absurd same (by simp [unfenced])
  | @reached range valid started last reaches bounded =>
    have inside := ordered.ranges.headed range (by simp [Outline.ranges, started])
    refine covered.of_kept (List.Subset.refl _) (fun other among => ?_) fun opened same behind => ?_
    · simp only [Outline.ranges, started, Option.map_some, Option.toList_some, List.mem_append, List.mem_singleton] at among ⊢
      rcases among with done | rfl
      · exact ⟨other.last, Nat.le_refl _, .inl done⟩
      · exact ⟨last, (inside.bounded.trans (Nat.le_succ count)).trans reaches, .inr rfl⟩
    · -- The lines behind the fence are between the name line and this one.
      obtain ⟨range', valid', started', first⟩ := complete.inside opened same
      rw [started] at started'
      cases started'
      refine .inr ⟨⟨range.first, last⟩, by simp [Outline.ranges], first.trans behind, ?_⟩
      exact (earlier.trans (Nat.le_succ count)).trans reaches
  | closed nothing fenced =>
    exact absurd (complete.unfenced nothing) fenced
  | @started after finishes named valid readable =>
    obtain ⟨ranges, imports, unfenced⟩ := finishes.same mild complete
    refine covered.of_kept (imports ▸ List.Subset.refl _) (fun range inside => ?_) fun opened same =>
      absurd same (by simp [unfenced])
    rw [← ranges, finishes.ranges_eq] at inside
    exact ⟨range.last, Nat.le_refl _, List.mem_append_left _ inside⟩
  | @imported after finishes linked =>
    obtain ⟨ranges, imports, unfenced⟩ := finishes.same mild complete
    refine covered.of_kept (imports ▸ List.subset_append_left _ _) (fun range inside => ?_) fun opened same =>
      absurd same (by simp [unfenced])
    rw [← ranges] at inside
    exact ⟨range.last, Nat.le_refl _, inside⟩
  | failed _ faulty => exact absurd mild faulty

/-- Without errors, it is known after the next line what that line is there for. -/
theorem Step.covers_next : after.Covers (count + 1) raw := by
  cases step with
  | passed idle =>
    rcases idle mild with idle | fenced
    · exact .inl idle
    · obtain ⟨opened, same⟩ := Option.ne_none_iff_exists'.mp fenced
      exact .inr (.inr (.inr ⟨opened, same, (ordered.fenced opened same).trans (Nat.le_succ count)⟩))
  | opened => exact .inr (.inr (.inr ⟨count + 1, rfl, Nat.le_refl _⟩))
  | @reached range valid started last reaches bounded =>
    have inside := ordered.ranges.headed range (by simp [Outline.ranges, started])
    refine .inr (.inr (.inl ⟨⟨range.first, last⟩, by simp [Outline.ranges], ?_, reaches⟩))
    exact (inside.ordered.trans inside.bounded).trans (Nat.le_succ count)
  | closed nothing fenced =>
    exact absurd (complete.unfenced nothing) fenced
  | started => exact .inr (.inr (.inl ⟨.single (count + 1), by simp [Outline.ranges], Nat.le_refl _, Nat.le_refl _⟩))
  | imported _ linked => exact .inr (.inl ⟨linked, by simp⟩)
  | failed _ faulty => exact absurd mild faulty

/-- Without errors, it is known after the next line what each line is there for. -/
theorem Step.isComplete (next : lines[count]? = some raw) : after.IsComplete lines (count + 1) := by
  have covers (index : Nat) (other : List Char) (earlier : index < count + 1) (there : lines[index]? = some other) :
      after.Covers (index + 1) other := by
    rcases Nat.lt_succ_iff_lt_or_eq.mp earlier with before | rfl
    · exact step.covers_of_covers ordered mild complete before (complete.covers index other before there)
    · rw [next] at there
      cases there
      exact step.covers_next ordered mild complete
  cases step with
  | passed => exact ⟨complete.readable, complete.inside, covers⟩
  | @opened range valid started unfenced =>
    have headed := ordered.ranges.headed range (by simp [Outline.ranges, started])
    refine ⟨complete.readable, fun line fenced => ⟨range, valid, started, ?_⟩, covers⟩
    cases fenced
    exact (headed.ordered.trans headed.bounded).trans (Nat.le_succ count)
  | reached started =>
    refine ⟨fun range valid same => ?_, nofun, covers⟩
    cases same
    exact complete.readable _ _ started
  | closed nothing => exact ⟨complete.readable, nofun, covers⟩
  | started finishes named readable =>
    refine ⟨fun range valid same => ?_, fun line fenced => absurd fenced (by simp [finishes.settled.2]), covers⟩
    cases same
    exact readable mild
  | imported finishes =>
    exact ⟨fun range valid started => absurd started (by simp [finishes.settled.1]),
      fun line fenced => absurd fenced (by simp [finishes.settled.2]), covers⟩
  | failed _ faulty => exact absurd mild faulty

end Stepping

end Outline

namespace FileReading

variable {reading : FileReading} {lines : List (List Char)} (source : String)

/-- Whether the first lines of a file have been followed: what has been read stands in them, the templates one behind the other,
    and unless there are errors each line is told what it is there for. -/
structure IsFollowed (reading : FileReading) (lines : List (List Char)) (count : Nat) : Prop where
  /-- What has been read stands in the lines. -/
  ordered : reading.outline.IsOrdered lines count
  /-- Each of the lines is told what it is there for. -/
  complete : reading.IsClean → reading.outline.IsComplete lines count

/-- No lines have been followed at first. -/
theorem isFollowed_nothing (lines : List (List Char)) : ({} : FileReading).IsFollowed lines 0 :=
  ⟨⟨⟨by simp [outline, Outline.ranges], by simp [outline, Outline.ranges]⟩, nofun⟩, fun _ => ⟨nofun, nofun, nofun⟩⟩

/-- One more line is followed. -/
theorem IsFollowed.line {count : Nat} (followed : reading.IsFollowed lines count) {raw : List Char}
    (next : lines[count]? = some raw) : (reading.line source (count + 1) raw).IsFollowed lines (count + 1) := by
  have step := reading.step_line source (count + 1) raw
  refine ⟨step.isOrdered followed.ordered next, fun clean => ?_⟩
  have before := followed.complete ((extends_line reading source (count + 1) raw).isClean clean)
  exact step.isComplete followed.ordered clean before next

/-- All further lines are followed. -/
theorem IsFollowed.readLines {count : Nat} (followed : reading.IsFollowed lines count) {back : List (List Char)}
    (further : lines.drop count = back) :
    (reading.readLines source count back).IsFollowed lines (count + back.length) := by
  induction back generalizing reading count with
  | nil => exact followed
  | cons raw rest ih =>
    have next : lines[count]? = some raw := by rw [← List.head?_drop, further, List.head?_cons]
    have further' : lines.drop (count + 1) = rest := by rw [← List.tail_drop, further, List.tail_cons]
    rw [readLines_cons, List.length_cons, Nat.add_comm rest.length, ← Nat.add_assoc]
    exact ih (followed.line source next) further'

/-- The last template is finished behind the last line. -/
theorem IsFollowed.finishTemplate {count : Nat} (followed : reading.IsFollowed lines count) :
    AreOrdered (reading.finishTemplate source).outline.done lines count ∧
      ((reading.finishTemplate source).IsClean → ∀ index raw, index < count → lines[index]? = some raw →
        IsIdleLine raw ∨ (IsImportLine raw ∧ index + 1 ∈ (reading.finishTemplate source).outline.imports) ∨
          ∃ range ∈ (reading.finishTemplate source).outline.done, range.first ≤ index + 1 ∧ index + 1 ≤ range.last) := by
  have finishes := reading.finishes_finishTemplate source
  refine ⟨finishes.ranges_eq ▸ (finishes.isOrdered followed.ordered).ranges, fun clean index raw within there => ?_⟩
  have complete := followed.complete ((extends_finishTemplate reading source).isClean clean)
  obtain ⟨ranges, imports, unfenced⟩ := finishes.same clean complete
  rw [finishes.ranges_eq] at ranges
  rw [ranges, imports]
  rcases complete.covers index raw within there with idle | linked | taken | ⟨opened, fenced, _⟩
  · exact .inl idle
  · exact .inr (.inl linked)
  · exact .inr (.inr taken)
  · exact absurd fenced (by simp [unfenced])

end FileReading

/-- **The lines of templates are in bounds and in order.** In every text, with or without errors, each template takes lines of the
    text, starts at one whose first sign is that of a name line, and ends before the next template starts. In a text without
    errors, every line that belongs to no template is blank, a comment or an option, or one of the imports. -/
theorem templateRanges_areOrdered (content source : String) :
    (∀ template ∈ (TemplateFile.parse content source).templates,
      1 ≤ template.range.first ∧ template.range.first ≤ template.range.last ∧
        template.range.last ≤ (linesOf content.toList).length ∧
        ∃ raw, (linesOf content.toList)[template.range.first - 1]? = some raw ∧ IsNameLine raw) ∧
    ((TemplateFile.parse content source).templates.Pairwise fun earlier later => earlier.range.last < later.range.first) ∧
    ((TemplateFile.parse content source).IsErrorFree → ∀ index raw, (linesOf content.toList)[index]? = some raw →
      (∀ template ∈ (TemplateFile.parse content source).templates,
        ¬ (template.range.first ≤ index + 1 ∧ index + 1 ≤ template.range.last)) →
        IsIdleLine raw ∨ IsImportLine raw ∧ ∃ entry ∈ (TemplateFile.parse content source).imports, entry.line = index + 1) := by
  have followed := (FileReading.isFollowed_nothing (linesOf content.toList)).readLines source List.drop_zero
  rw [Nat.zero_add] at followed
  obtain ⟨ordered, covers⟩ := followed.finishTemplate source
  refine ⟨fun template inside => ?_, List.pairwise_map.mp ordered.apart, fun clean index raw there outside => ?_⟩
  · have headed := ordered.headed template.range (List.mem_map_of_mem inside)
    obtain ⟨index, raw, first, there, named⟩ := headed.named
    exact ⟨by omega, headed.ordered, headed.bounded, raw, by simpa [first] using there, named⟩
  · rw [TemplateFile.isErrorFree_iff] at clean
    rcases covers clean index raw (List.getElem?_eq_some_iff.mp there).1 there with idle | ⟨linked, imported⟩ | ⟨_, inside, within⟩
    · exact .inl idle
    · obtain ⟨entry, among, line⟩ := List.mem_map.mp imported
      exact .inr ⟨linked, entry, among, line⟩
    · obtain ⟨template, among, rfl⟩ := List.mem_map.mp inside
      exact absurd within (outside template among)

/-- A repeated template is left out, and a fenced text that is never closed counts as the line that opens it. -/
example : (TemplateFile.parse "# a\n- x\n# a\n- y\n# b\n- ```z\nw" "").templates.map (·.range) = [⟨1, 2⟩, ⟨5, 6⟩] := by
  decide +kernel

/-- A file with an option, an import, a text of several lines and a structured body. -/
def leafletText : String :=
  -- The last two lines belong to no template.
  "> !# @strict = true\n[x](y.lg)\n\n# a\n- ```x\n# y\n```\n\n# b\n[Card\nt = 1\n]\n\n> end"

/-- The two templates of the leaflet leave out an option, an import, blank lines and a comment. -/
theorem leaflet_areOrdered :
    (TemplateFile.parse leafletText "").IsErrorFree ∧
      (TemplateFile.parse leafletText "").templates.map (·.range) = [⟨4, 7⟩, ⟨9, 12⟩] ∧
      (linesOf leafletText.toList)[1]? = some "[x](y.lg)".toList ∧
      (IsIdleLine "[x](y.lg)".toList ∨ IsImportLine "[x](y.lg)".toList ∧
        ∃ entry ∈ (TemplateFile.parse leafletText "").imports, entry.line = 2) := by
  obtain ⟨clean, ranges, second, apart⟩ : (TemplateFile.parse leafletText "").IsErrorFree ∧
      (TemplateFile.parse leafletText "").templates.map (·.range) = [⟨4, 7⟩, ⟨9, 12⟩] ∧
      (linesOf leafletText.toList)[1]? = some "[x](y.lg)".toList ∧
      ∀ template ∈ (TemplateFile.parse leafletText "").templates, ¬ (template.range.first ≤ 2 ∧ 2 ≤ template.range.last) := by
    decide +kernel
  exact ⟨clean, ranges, second, (templateRanges_areOrdered leafletText "").2.2 clean 1 _ second apart⟩

end Phrasebook
