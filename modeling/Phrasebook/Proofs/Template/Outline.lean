import Phrasebook.Proofs.Template.Sections

/-! Where the templates and imports of a file stand, followed line by line. -/

namespace Phrasebook

/-- Whether a line is an import: a description in brackets with a target in parentheses behind it. -/
def IsImportLine (raw : List Char) : Prop :=
  -- White space around the line does not count.
  ∃ rest, trimChars raw = '[' :: rest ∧ (cutAt [']', '('] rest).isSome = true

/-- Whether a line starts with the sign of a name line. -/
def IsNameLine (raw : List Char) : Prop :=
  -- The name behind it may be unreadable.
  ∃ header, trimChars raw = '#' :: header

/-- Where the parts of a file stand that have been read. -/
structure Outline where
  /-- The lines of the finished templates. -/
  done : List LineRange
  /-- The lines of the imports. -/
  imports : List Nat
  /-- The lines of the template that is being read, and whether its name line could be read. -/
  pending : Option (LineRange × Bool)
  /-- The line on which the fenced text was opened that is being read. -/
  fenced : Option Nat

/-- Where the parts of a file stand that have been read. -/
def FileReading.outline (reading : FileReading) : Outline :=
  -- Names, texts and findings are left out.
  ⟨reading.templates.map (·.range), reading.imports.map (·.line),
    reading.pending.map fun pending => (pending.range, pending.valid), reading.fenced.map (·.line)⟩

namespace Outline

/-- What finishing a template does, given whether nothing but warnings has been found by then. -/
inductive Finishes (clean : Prop) (before : Outline) : Outline → Prop where
  /-- Without a template there is nothing to finish. -/
  | idle (nothing : before.pending = none) (unfenced : clean → before.fenced = none) :
    Finishes clean before { before with fenced := none }
  /-- The template is kept, perhaps with the fenced text that was left open. -/
  | kept {range : LineRange} {valid : Bool} (started : before.pending = some (range, valid)) {last : Nat}
    (reaches : last = range.last ∨ ∃ line, before.fenced = some line ∧ last = max range.last line)
    (unfenced : clean → before.fenced = none) :
    Finishes clean before
      { before with done := before.done ++ [⟨range.first, last⟩], pending := none, fenced := none }
  /-- The template is dropped, because of its name line or for some other error. -/
  | dropped {range : LineRange} {valid : Bool} (started : before.pending = some (range, valid))
    (faulty : clean → valid = false) : Finishes clean before { before with pending := none, fenced := none }

/-- What reading a line does, given whether nothing but warnings has been found by then. -/
inductive Step (clean : Prop) (line : Nat) (raw : List Char) (before : Outline) : Outline → Prop where
  /-- The line is passed over, or belongs to a fenced text that goes on. -/
  | passed (idle : clean → IsIdleLine raw ∨ before.fenced ≠ none) : Step clean line raw before before
  /-- The line opens a fenced text. -/
  | opened {range : LineRange} {valid : Bool} (started : before.pending = some (range, valid))
    (unfenced : before.fenced = none) : Step clean line raw before { before with fenced := some line }
  /-- The template that is being read reaches the line. -/
  | reached {range : LineRange} {valid : Bool} (started : before.pending = some (range, valid)) {last : Nat}
    (reaches : line ≤ last) (bounded : last ≤ max range.last line) :
    Step clean line raw before { before with pending := some (⟨range.first, last⟩, valid), fenced := none }
  /-- A fenced text without a template is closed, which never happens in a file. -/
  | closed (nothing : before.pending = none) (fenced : before.fenced ≠ none) :
    Step clean line raw before { before with fenced := none }
  /-- A template is started behind the one in front. -/
  | started {after : Outline} (finishes : Finishes clean before after) (named : IsNameLine raw) {valid : Bool}
    (readable : clean → valid = true) :
    Step clean line raw before { after with pending := some (.single line, valid) }
  /-- An import stands behind the template in front. -/
  | imported {after : Outline} (finishes : Finishes clean before after) (linked : IsImportLine raw) :
    Step clean line raw before { after with imports := after.imports ++ [line] }
  /-- An import that cannot be read ends the template in front all the same. -/
  | failed {after : Outline} (finishes : Finishes clean before after) (faulty : ¬ clean) :
    Step clean line raw before after

/-- Where fewer errors may have been found, less is known. -/
theorem Finishes.mono {clean clean' : Prop} {before after : Outline} (finishes : Finishes clean before after)
    (fewer : clean' → clean) : Finishes clean' before after := by
  cases finishes with
  | idle nothing unfenced => exact .idle nothing fun mild => unfenced (fewer mild)
  | kept started reaches unfenced => exact .kept started reaches fun mild => unfenced (fewer mild)
  | dropped started faulty => exact .dropped started fun mild => faulty (fewer mild)

end Outline

namespace FileReading

open Outline

variable (reading : FileReading) (source : String) (line : Nat)

variable {reading} in
/-- Where no fenced text is open, the outline has none. -/
theorem fenced_outline (unfenced : reading.fenced = none) : reading.outline.fenced = none :=
  congrArg (Option.map BodyLine.line) unfenced

variable {reading} in
/-- The template that is being read is in the outline. -/
theorem pending_outline {pending : Pending} (opened : reading.pending = some pending) :
    reading.outline.pending = some (pending.range, pending.valid) := by
  rw [outline, opened]
  rfl

/-- Findings are not in the outline. -/
theorem outline_noteAll (notes : List (LineRange × Fault)) : (reading.noteAll source notes).outline = reading.outline :=
  rfl

/-- A structured body that is noted is not in the outline. -/
theorem outline_noteUnclosed (pending : Pending) : (reading.noteUnclosed source pending).outline = reading.outline := by
  unfold noteUnclosed
  split <;> rfl

/-- A body line lets a template with a plain body reach at least to it. -/
theorem outline_pushBodyLine (text : List Char) :
    (reading.pushBodyLine line text).outline = reading.outline ∨
      ∃ range valid, reading.outline.pending = some (range, valid) ∧ (reading.pushBodyLine line text).outline =
        { reading.outline with pending := some (⟨range.first, max range.last line⟩, valid) } := by
  unfold pushBodyLine
  split
  · rename_i pending opened
    split
    · exact .inr ⟨pending.range, pending.valid, pending_outline opened, rfl⟩
    · exact .inl rfl
  · exact .inl rfl

/-- Closing a fenced text lets a template with a plain body reach at least to where it was opened. -/
theorem outline_closeFence :
    (reading.closeFence source).outline = { reading.outline with fenced := none } ∨
      ∃ range valid opened, reading.outline.pending = some (range, valid) ∧ reading.outline.fenced = some opened ∧
        (reading.closeFence source).outline =
          { reading.outline with pending := some (⟨range.first, max range.last opened⟩, valid), fenced := none } := by
  unfold closeFence
  cases fence : reading.fenced with
  | none => exact .inl (by simp [outline, fence])
  | some fenced =>
    have opened : reading.outline.fenced = some fenced.line := by simp [outline, fence]
    refine (outline_pushBodyLine _ fenced.line fenced.text).imp id ?_
    rintro ⟨range, valid, started, same⟩
    exact ⟨range, valid, fenced.line, started, opened, same⟩

/-- A template is added behind the others, unless its name is taken. -/
theorem outline_addTemplate (pending : Pending) (body : Body) :
    (reading.addTemplate source pending body).outline =
        { reading.outline with done := reading.outline.done ++ [pending.range] } ∨
      ¬ (reading.addTemplate source pending body).IsClean ∧
        (reading.addTemplate source pending body).outline = reading.outline := by
  unfold addTemplate
  split
  · exact .inr ⟨not_isClean_note _ _ _ rfl, rfl⟩
  · exact .inl (by simp [outline])

variable {reading} in
/-- A template whose fenced text has been closed is kept with the lines that it has reached, unless there is an error. -/
theorem outline_finishTemplate {pending : Pending} (opened : (reading.closeFence source).pending = some pending) :
    (reading.finishTemplate source).outline =
        { (reading.closeFence source).outline with
          done := (reading.closeFence source).outline.done ++ [pending.range], pending := none } ∨
      ((reading.finishTemplate source).IsClean → pending.valid = false) ∧
        (reading.finishTemplate source).outline = { (reading.closeFence source).outline with pending := none } := by
  rw [finishTemplate_of_pending reading source opened]
  have noted : (noteUnclosed { reading.closeFence source with pending := none } source pending).outline =
      { (reading.closeFence source).outline with pending := none } := outline_noteUnclosed _ source pending
  split
  · dsimp only
    rcases outline_addTemplate _ source pending _ with added | ⟨taken, same⟩
    · refine .inl (added.trans ?_)
      rw [outline_noteAll, noted]
    · refine .inr ⟨fun clean => absurd clean taken, same.trans ?_⟩
      exact noted
  · rename_i invalid
    exact .inr ⟨fun _ => by simpa using invalid, noted⟩

/-- A template is finished as outlines tell. -/
theorem finishes_finishTemplate :
    Finishes (reading.finishTemplate source).IsClean reading.outline (reading.finishTemplate source).outline := by
  have unfenced (clean : (reading.finishTemplate source).IsClean) : reading.outline.fenced = none :=
    fenced_outline (unfenced_of_closeFence source ((extends_finishTemplate_of_closeFence reading source).isClean clean))
  cases opened : (reading.closeFence source).pending with
  | none =>
    have same : reading.finishTemplate source = reading.closeFence source := by simp only [finishTemplate, opened]
    have nothing : (reading.closeFence source).outline.pending = none := congrArg (Option.map _) opened
    rw [same] at unfenced ⊢
    rcases reading.outline_closeFence source with closed | ⟨_, _, _, _, _, closed⟩
    · rw [closed] at nothing ⊢
      exact .idle nothing unfenced
    · rw [closed] at nothing
      cases nothing
  | some pending =>
    have started := pending_outline opened
    rcases reading.outline_closeFence source with closed | ⟨range, valid, line, before, fence, closed⟩
    · have before : reading.outline.pending = some (pending.range, pending.valid) := by rwa [closed] at started
      rcases outline_finishTemplate source opened with kept | ⟨faulty, dropped⟩
      · rw [kept, closed]
        exact .kept before (.inl rfl) unfenced
      · rw [dropped, closed]
        exact .dropped before faulty
    · rw [closed] at started
      obtain ⟨reached, same⟩ := Prod.mk.inj (Option.some.inj started)
      rcases outline_finishTemplate source opened with kept | ⟨faulty, dropped⟩
      · rw [kept, closed, ← reached]
        exact .kept before (.inr ⟨line, fence, rfl⟩) unfenced
      · rw [dropped, closed]
        exact .dropped before (same ▸ faulty)

/-- A name line starts a template, which is worth keeping unless there is an error. -/
theorem outline_startTemplate (header : List Char) : ∃ valid,
    (reading.startTemplate source line header).outline = { reading.outline with pending := some (.single line, valid) } ∧
      ((reading.startTemplate source line header).IsClean → valid = true) := by
  unfold startTemplate
  split
  · exact ⟨false, rfl, fun clean => absurd clean (not_isClean_note reading source (.single line) rfl)⟩
  · exact ⟨true, rfl, fun _ => rfl⟩

/-- An import line adds its import, unless there is an error. -/
theorem outline_importLine (text : List Char) :
    (reading.importLine source line text).outline = { reading.outline with imports := reading.outline.imports ++ [line] } ∨
      ¬ (reading.importLine source line text).IsClean ∧ (reading.importLine source line text).outline = reading.outline := by
  unfold importLine
  split
  · exact .inr ⟨not_isClean_note _ _ _ rfl, rfl⟩
  · dsimp only
    split
    · exact .inr ⟨not_isClean_note _ _ _ rfl, rfl⟩
    · exact .inl (by simp [outline])

section Steps

variable (raw : List Char)

variable {reading}

variable (reading) in
/-- A line on which an error is noted is passed over. -/
theorem step_note (range : LineRange) {fault : Fault} (serious : fault.severity = .error) :
    Step (reading.note source range fault).IsClean line raw reading.outline (reading.note source range fault).outline :=
  .passed fun clean => absurd clean (not_isClean_note _ _ _ serious)

/-- A line of a plain body is reached by its template, and so is one that closes a text of several lines. -/
theorem step_pushBodyLine {pending : Pending} (opened : reading.pending = some pending) {lines : List BodyLine}
    (plain : pending.draft = .plain lines) (unfenced : reading.fenced = none) (text : List Char) :
    Step (reading.pushBodyLine line text).IsClean line raw reading.outline (reading.pushBodyLine line text).outline := by
  have pushed : (reading.pushBodyLine line text).outline =
      { reading.outline with pending := some (⟨pending.range.first, max pending.range.last line⟩, pending.valid), fenced := none } := by
    simp [pushBodyLine, opened, plain, outline, unfenced]
  rw [pushed]
  exact .reached (pending_outline opened) (Nat.le_max_right _ _) (Nat.le_refl _)

/-- A line of a structured body is reached by its template. -/
theorem step_reached {pending : Pending} (opened : reading.pending = some pending) (unfenced : reading.fenced = none)
    (draft : Draft) (clean : Prop) :
    Step clean line raw reading.outline
      (outline { reading with pending := some { pending with draft := draft, range := ⟨pending.range.first, line⟩ } }) := by
  have same : outline { reading with pending := some { pending with draft := draft, range := ⟨pending.range.first, line⟩ } } =
      { reading.outline with pending := some (⟨pending.range.first, line⟩, pending.valid), fenced := none } := by
    simp [outline, unfenced]
  rw [same]
  exact .reached (pending_outline opened) (Nat.le_refl line) (Nat.le_max_right _ _)

/-- A line with a dash is reached by its template, or opens a fenced text. -/
theorem step_bodyLine (unfenced : reading.fenced = none) (text : List Char) :
    Step (reading.bodyLine source line text).IsClean line raw reading.outline (reading.bodyLine source line text).outline := by
  unfold bodyLine
  split
  · exact step_note reading source line raw _ rfl
  · rename_i pending opened
    split
    · exact step_note reading source line raw _ rfl
    · rename_i plain
      split
      · exact step_pushBodyLine line raw opened plain unfenced text
      · split
        · exact step_pushBodyLine line raw opened plain unfenced _
        · exact .opened (pending_outline opened) (fenced_outline unfenced)

/-- A line inside a fenced text leaves it open, or closes it and is reached by the template. -/
theorem step_fencedLine {fenced : BodyLine} (open' : reading.fenced = some fenced) :
    Step (reading.fencedLine fenced line raw).IsClean line raw reading.outline (reading.fencedLine fenced line raw).outline := by
  have inside : reading.outline.fenced ≠ none := by simp [outline, open']
  unfold fencedLine
  split
  · have same : outline { reading with fenced := some ⟨fenced.line, fenced.text ++ '\n' :: raw⟩ } = reading.outline := by
      simp [outline, open']
    rw [same]
    exact .passed fun _ => .inr inside
  · dsimp only
    generalize fenced.text ++ '\n' :: _ ++ _ = text
    generalize closed : ({ reading with fenced := none }.pushBodyLine fenced.line text) = now
    cases opened : reading.pending with
    | none =>
      have same : outline { now with pending := now.pending.map fun pending => { pending with range := ⟨pending.range.first, line⟩ } } =
          { reading.outline with fenced := none } := by
        simp [← closed, pushBodyLine, opened, outline]
      rw [same]
      exact .closed (congrArg (Option.map _) opened) inside
    | some pending =>
      have same : outline { now with pending := now.pending.map fun pending => { pending with range := ⟨pending.range.first, line⟩ } } =
          { reading.outline with pending := some (⟨pending.range.first, line⟩, pending.valid), fenced := none } := by
        cases draft : pending.draft <;> simp [← closed, pushBodyLine, opened, draft, outline]
      rw [same]
      exact .reached (pending_outline opened) (Nat.le_refl line) (Nat.le_max_right _ _)

/-- The start of a structured body is reached by its template. -/
theorem step_startStructure (unfenced : reading.fenced = none) (text : List Char) :
    Step (reading.startStructure source line text).IsClean line raw reading.outline
      (reading.startStructure source line text).outline := by
  simp only [startStructure]
  split
  · exact step_note reading source line raw _ rfl
  · rename_i pending opened
    split
    · generalize trimChars _ = typeName
      split
      · exact step_reached line raw opened unfenced _ _
      · exact step_reached line raw opened unfenced _ _
    · exact step_note reading source line raw _ rfl

/-- A line inside an open structured body is idle, or reached by the template. -/
theorem step_structureLine (unfenced : reading.fenced = none) {later : FileReading}
    (goesOn : reading.structureLine? line (trimChars raw) = some later) (clean : Prop) :
    Step clean line raw reading.outline later.outline := by
  unfold structureLine? at goesOn
  split at goesOn
  · cases goesOn
  · rename_i pending opened
    split at goesOn
    · cases goesOn
    · rename_i blank
      cases goesOn
      exact .passed fun _ => .inl (.inl blank)
    · rename_i tail _ chars
      cases goesOn
      exact .passed fun _ => .inl (.inr ⟨tail, chars⟩)
    · cases goesOn
      exact step_reached line raw opened unfenced _ _
    · cases goesOn

/-- Outside fenced texts and structured bodies, the first character tells what becomes of the outline. -/
theorem step_plainLine (unfenced : reading.fenced = none) :
    Step (reading.plainLine source line (trimChars raw)).IsClean line raw reading.outline
      (reading.plainLine source line (trimChars raw)).outline := by
  unfold plainLine
  split
  · rename_i blank
    exact .passed fun _ => .inl (.inl blank)
  · rename_i comment chars
    split <;> exact .passed fun _ => .inl (.inr ⟨comment, chars⟩)
  · rename_i header chars
    obtain ⟨valid, same, readable⟩ := (reading.finishTemplate source).outline_startTemplate source line header
    rw [same]
    exact .started ((reading.finishes_finishTemplate source).mono (extends_startTemplate _ _ _ _).isClean) ⟨header, chars⟩ readable
  · exact step_bodyLine source line raw unfenced _
  · rename_i rest chars
    split
    · rename_i linked
      have finishes := (reading.finishes_finishTemplate source).mono
        (extends_importLine (reading.finishTemplate source) source line ('[' :: rest)).isClean
      rcases (reading.finishTemplate source).outline_importLine source line ('[' :: rest) with added | ⟨faulty, same⟩
      · rw [added]
        exact .imported finishes ⟨rest, chars, linked⟩
      · rw [same]
        exact .failed finishes faulty
    · exact step_startStructure source line raw unfenced _
  · split <;> exact step_note reading source line raw _ rfl

variable (reading) in
/-- What reading a line does to the outline. -/
theorem step_line : Step (reading.line source line raw).IsClean line raw reading.outline (reading.line source line raw).outline := by
  simp only [FileReading.line]
  split
  · rename_i fenced open'
    exact step_fencedLine line raw open'
  · rename_i unfenced
    split
    · rename_i goesOn
      exact step_structureLine line raw unfenced goesOn _
    · exact step_plainLine source line raw unfenced

end Steps

end FileReading

end Phrasebook
