import Phrasebook.Proofs.Template.Cuts
import Phrasebook.Proofs.Text.Lines

/-! White space around a file and blank lines around its parts do not matter. -/

namespace Phrasebook

/-- A text has a fence where a shorter one had it. -/
theorem cutAt_append_of_some {mark text before after : List Char} (cut : cutAt mark text = some (before, after))
    (more : List Char) : cutAt mark (text ++ more) = some (before, after ++ more) := by
  induction text generalizing before with
  | nil =>
    simp only [cutAt] at cut
    split at cut
    · rename_i empty
      obtain rfl := List.isEmpty_iff.mp empty
      cases cut
      cases more <;> simp [cutAt]
    · cases cut
  | cons c text later =>
    simp only [cutAt] at cut
    split at cut
    · rename_i here
      have starts := List.isPrefixOf_iff_prefix.mp here
      cases cut
      have longer : mark.isPrefixOf (c :: (text ++ more)) = true :=
        List.isPrefixOf_iff_prefix.mpr (starts.trans (List.prefix_append (c :: text) more))
      rw [List.cons_append, cutAt, if_pos longer, ← List.cons_append, List.drop_append_of_le_length starts.length_le]
    · rename_i here
      obtain ⟨⟨front, back⟩, found, same⟩ := Option.map_eq_some_iff.mp cut
      obtain ⟨rfl, rfl⟩ := Prod.mk.inj same
      rw [List.cons_append, cutAt, if_neg, later found, Option.map_some]
      -- The mark is too short to reach beyond the text, which holds it further behind.
      intro starts
      refine here (List.isPrefixOf_iff_prefix.mpr ?_)
      have long := congrArg List.length (eq_append_of_cutAt found)
      refine List.prefix_of_prefix_length_le (List.isPrefixOf_iff_prefix.mp starts) (List.prefix_append (c :: text) more) ?_
      simp only [List.length_append, List.length_cons] at long ⊢
      omega

/-- White space holds no fence. -/
theorem unfenced_of_blank {gap : List Char} (blank : ∀ c ∈ gap, isBlank c = true) : Unfenced gap := by
  have absent : '`' ∉ gap := fun inside => absurd (blank _ inside) (by decide)
  refine ⟨cutAt_eq_none fun inside => absent (inside.subset (show '`' ∈ fence by decide)), fun first => absent ?_⟩
  exact List.mem_of_mem_head? first

namespace FileReading

section Blank

variable {reading : FileReading} (source : String)

/-- White space is trimmed away. -/
theorem trimChars_eq_nil {raw : List Char} (blank : ∀ c ∈ raw, isBlank c = true) : trimChars raw = [] := by
  rw [trimChars, trimFront, List.dropWhile_eq_nil_iff.mpr blank]
  rfl

/-- A blank line changes nothing outside a fenced text. -/
theorem line_blank {raw : List Char} (blank : ∀ c ∈ raw, isBlank c = true) (unfenced : reading.fenced = none) (line : Nat) :
    reading.line source line raw = reading := by
  simp only [FileReading.line, unfenced, trimChars_eq_nil blank]
  split
  · rename_i later inside
    -- A structured body passes over the line.
    unfold structureLine? at inside
    split at inside
    · cases inside
    · split at inside <;> cases inside <;> rfl
  · rfl

/-- A blank line does not close a fenced text. -/
theorem fenced_line_blank {raw : List Char} (blank : ∀ c ∈ raw, isBlank c = true) {fenced : BodyLine}
    (open' : reading.fenced = some fenced) (line : Nat) : (reading.line source line raw).fenced ≠ none := by
  simp [FileReading.line, open', fencedLine, (unfenced_of_blank blank).1]

/-- Blank lines change nothing outside a fenced text. -/
theorem readLines_blank {lines : List (List Char)} (blank : AreBlank lines) (unfenced : reading.fenced = none) (start : Nat) :
    reading.readLines source start lines = reading := by
  induction lines generalizing start with
  | nil => rfl
  | cons raw lines later =>
    obtain ⟨here, others⟩ := List.forall_mem_cons.mp blank
    rw [readLines_cons, line_blank source here unfenced, later others]

/-- Blank lines do not close a fenced text. -/
theorem unfenced_of_readLines_blank {lines : List (List Char)} (blank : AreBlank lines) {start : Nat}
    (unfenced : (reading.readLines source start lines).fenced = none) : reading.fenced = none := by
  induction lines generalizing reading start with
  | nil => exact unfenced
  | cons raw lines later =>
    obtain ⟨here, others⟩ := List.forall_mem_cons.mp blank
    rw [readLines_cons] at unfenced
    cases open' : reading.fenced with
    | none => rfl
    | some fenced => exact absurd (later others unfenced) (fenced_line_blank source here open' _)

/-- Blank lines at the end change nothing. -/
theorem ofLines_append_blank {lines blanks : List (List Char)} (blank : AreBlank blanks)
    (clean : (ofLines source lines).IsClean ∨ (ofLines source (lines ++ blanks)).IsClean) :
    ofLines source (lines ++ blanks) = ofLines source lines := by
  have unfenced : (readLines {} source 0 lines).fenced = none := by
    rcases clean with clean | clean
    · exact (isSettled_of_finish source clean).unfenced
    · have settled := isSettled_of_finish source clean
      rw [readLines_append] at settled
      exact unfenced_of_readLines_blank source blank settled.unfenced
  rw [ofLines, readLines_append, readLines_blank source blank unfenced, ofLines]

/-- White space at the end of the last line changes nothing. -/
theorem ofLines_trail {front : List (List Char)} {line gap : List Char} (blank : ∀ c ∈ gap, isBlank c = true)
    (clean : (ofLines source (front ++ [line ++ gap])).IsClean) :
    ofLines source (front ++ [line ++ gap]) = ofLines source (front ++ [line]) := by
  have settled := isSettled_of_finish source clean
  rw [ofLines, ofLines, readLines_append, readLines_append]
  rw [readLines_append] at settled
  refine congrArg (FileReading.finishTemplate · source) ?_
  generalize readLines {} source 0 front = reading at settled ⊢
  rw [readLines_cons] at settled ⊢
  rw [readLines_cons]
  refine congrArg (FileReading.readLines · source _ []) ?_
  cases open' : reading.fenced with
  | none => simp only [FileReading.line, open', trimChars_back line blank]
  | some fenced =>
    simp only [FileReading.line, open', fencedLine]
    cases cut : cutAt fence line with
    | none =>
      -- The fenced text would stay open.
      have unfenced := settled.unfenced
      rw [show ∀ reading : FileReading, reading.readLines source (0 + front.length + 1) [] = reading from fun _ => rfl] at unfenced
      simp [FileReading.line, open', fencedLine, cutAt_fence_append cut (unfenced_of_blank blank)] at unfenced
    | some parts => simp [cutAt_append_of_some cut, trimBack_append _ blank]

/-- White space at the end of a file changes nothing. -/
theorem ofLines_trimBack {text : List Char} (clean : (ofLines source (linesOf text)).IsClean) :
    ofLines source (linesOf text) = ofLines source (linesOf (trimBack text)) := by
  rcases exists_of_trimBack text with ⟨none, blank⟩ | ⟨front, line, gap, blanks, kept, lines, blank, blanks'⟩
  · rw [none]
    have lines : ofLines source ([] ++ linesOf text) = ofLines source [] := ofLines_append_blank source blank (.inr clean)
    exact lines
  · rw [lines, List.append_cons] at clean ⊢
    have same := ofLines_append_blank source blanks' (.inr clean)
    rw [same] at clean ⊢
    rw [ofLines_trail source blank clean, kept]

/-- Lines behind blank lines are detached if all of them are. -/
theorem detached_of_append_blank {blanks lines : List (List Char)} (blank : AreBlank blanks)
    (detached : AreDetached (blanks ++ lines)) : AreDetached lines := by
  induction blanks with
  | nil => exact detached
  | cons raw blanks later =>
    obtain ⟨here, others⟩ := List.forall_mem_cons.mp blank
    refine later others (detached.resolve_left fun opening => ?_).2
    -- A blank line opens nothing.
    rw [IsOpeningLine, trimChars_eq_nil here] at opening
    rcases opening with ⟨header, chars⟩ | ⟨rest, chars, _⟩
    · cases chars
    · cases chars

/-- Detached lines are read behind blank lines as they are by themselves. -/
theorem ofLines_blank_append {blanks lines : List (List Char)} (blank : AreBlank blanks) (detached : AreDetached lines) :
    (ofLines source (blanks ++ lines)).Continues {} blanks.length (ofLines source lines) := by
  have none : ofLines source ([] ++ blanks) = ofLines source [] :=
    ofLines_append_blank source blank (.inl (isClean_nothing source))
  rw [List.nil_append, ofLines_nothing] at none
  have clean : (ofLines source blanks).IsClean := by
    rw [none]
    exact nofun
  have continues := ofLines_append clean detached fun template inside other taken => by
    rw [none] at taken
    cases taken
  rwa [none] at continues

end Blank

end FileReading

end Phrasebook
