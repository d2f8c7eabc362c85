import Phrasebook.Proofs.Template.Places
import Phrasebook.Proofs.Template.RoundTrip

/-! A part of a file is read behind other parts as it is read by itself, on later lines. -/

namespace Phrasebook

/-- A range of lines behind a number of other lines. -/
def LineRange.behind (count : Nat) (range : LineRange) : LineRange :=
  -- Both ends move.
  ⟨count + range.first, count + range.last⟩

/-- A template behind a number of other lines. -/
def Template.behind (count : Nat) (template : Template) : Template :=
  -- Only its place changes.
  { template with range := template.range.behind count }

/-- An import behind a number of other lines. -/
def Import.behind (count : Nat) (entry : Import) : Import :=
  -- Only its place changes.
  { entry with line := count + entry.line }

/-- Whether a template that is being read is another one behind a number of other lines. -/
structure Pending.IsBehind (count : Nat) (alone whole : Pending) : Prop where
  /-- The names are the same. -/
  name : whole.name = alone.name
  /-- The parameters are the same. -/
  parameters : whole.parameters = alone.parameters
  /-- The range has moved. -/
  range : whole.range = alone.range.behind count
  /-- The name lines could be read or not. -/
  valid : whole.valid = alone.valid
  /-- The lines have the same texts. -/
  draft : alone.draft.SameTexts whole.draft

/-- Whether a line is another one behind a number of other lines. -/
structure BodyLine.IsBehind (count : Nat) (alone whole : BodyLine) : Prop where
  /-- The line has moved. -/
  line : whole.line = count + alone.line
  /-- The texts are the same. -/
  text : whole.text = alone.text

/-- The same texts make up the same draft. -/
theorem Draft.SameTexts.refl (draft : Draft) : draft.SameTexts draft := by
  cases draft with
  | plain lines => exact .plain (List.forall₂_same.mpr fun line _ => rfl)
  | structured typeName lines closed => exact .structured typeName (List.forall₂_same.mpr fun line _ => rfl) closed

namespace FileReading

/-- What was found wrong, wherever it was. -/
def faults (reading : FileReading) : List Fault :=
  -- They come in the order in which they were found.
  reading.findings.map (·.fault)

/-- Whether nothing but warnings has been found. -/
def IsClean (reading : FileReading) : Prop :=
  -- Places do not matter.
  ∀ fault ∈ reading.faults, fault.severity = .warning

section Growth

/-- Whether nothing that was read or found earlier has been given up later. -/
structure Extends (later earlier : FileReading) : Prop where
  /-- Templates are added only. -/
  templates : earlier.templates <+: later.templates
  /-- Faults are added only. -/
  faults : earlier.faults <+: later.faults
  /-- No name is used twice. -/
  distinct : (earlier.templates.map (·.name)).Nodup → (later.templates.map (·.name)).Nodup

/-- A reading extends itself. -/
theorem Extends.refl (reading : FileReading) : reading.Extends reading :=
  ⟨List.prefix_rfl, List.prefix_rfl, id⟩

/-- What extends a later reading extends the earlier one. -/
theorem Extends.trans {last later earlier : FileReading} (second : last.Extends later) (first : later.Extends earlier) :
    last.Extends earlier :=
  ⟨first.templates.trans second.templates, first.faults.trans second.faults, fun distinct => second.distinct (first.distinct distinct)⟩

/-- What is being read does not matter. -/
theorem Extends.of_same {last later earlier : FileReading} (grows : later.Extends earlier)
    (templates : last.templates = later.templates) (findings : last.findings = later.findings) : last.Extends earlier :=
  ⟨templates ▸ grows.templates, by simpa only [FileReading.faults, findings] using grows.faults, templates ▸ grows.distinct⟩

/-- A reading that turns out clean was clean before. -/
theorem Extends.isClean {later earlier : FileReading} (grows : later.Extends earlier) (clean : later.IsClean) :
    earlier.IsClean :=
  fun fault found => clean fault (grows.faults.subset found)

variable (reading : FileReading) (source : String)

/-- A finding is added. -/
theorem extends_note (range : LineRange) (fault : Fault) : (reading.note source range fault).Extends reading :=
  ⟨List.prefix_rfl, by simp [note, FileReading.faults], id⟩

/-- Findings are added. -/
theorem extends_noteAll (notes : List (LineRange × Fault)) : (reading.noteAll source notes).Extends reading :=
  ⟨List.prefix_rfl, by simp [noteAll, FileReading.faults], id⟩

/-- An error that is noted stays. -/
theorem not_isClean_note (range : LineRange) {fault : Fault} (serious : fault.severity = .error) :
    ¬ (reading.note source range fault).IsClean := by
  intro clean
  have mild : fault.severity = .warning := clean fault (by simp [note, FileReading.faults])
  rw [serious] at mild
  cases mild

/-- A body line is added to the template that is being read. -/
theorem extends_pushBodyLine (line : Nat) (text : List Char) : (reading.pushBodyLine line text).Extends reading := by
  unfold pushBodyLine
  split
  · split
    · exact ⟨List.prefix_rfl, List.prefix_rfl, id⟩
    · exact .refl _
  · exact .refl _

/-- Closing a fenced text is a finding. -/
theorem extends_closeFence : (reading.closeFence source).Extends reading := by
  unfold closeFence
  split
  · exact .refl _
  · rename_i fenced _
    have opened : Extends { reading with fenced := none } reading := ⟨List.prefix_rfl, List.prefix_rfl, id⟩
    exact (extends_pushBodyLine _ fenced.line fenced.text).trans ((extends_note _ source _ _).trans opened)

/-- The reading with a template added, or noted to be a duplicate. -/
def addTemplate (pending : Pending) (body : Body) : FileReading :=
  -- The first template of a name is kept.
  if reading.templates.any (·.name == pending.name) then
    reading.note source pending.range (.duplicateTemplate pending.name)
  else
    { reading with templates :=
        reading.templates ++ [⟨pending.name, pending.parameters, body, source, pending.range⟩] }

/-- The reading with a structured body noted that has not been closed. -/
def noteUnclosed (pending : Pending) : FileReading :=
  -- Other bodies need no end.
  match pending.draft with
  | .structured _ _ false => reading.note source pending.range (.unclosedStructure pending.name)
  | _ => reading

/-- A template is finished by reading its draft, unless its name line could not be read. -/
theorem finishTemplate_of_pending {pending : Pending} (opened : (reading.closeFence source).pending = some pending) :
    reading.finishTemplate source =
      if pending.valid then
        let body := pending.draft.read pending.name pending.range
        ((noteUnclosed { reading.closeFence source with pending := none } source pending).noteAll source body.notes).addTemplate
          source pending body.value
      else noteUnclosed { reading.closeFence source with pending := none } source pending := by
  simp only [finishTemplate, opened]
  obtain ⟨name, parameters, range, valid, draft⟩ := pending
  cases valid <;> rfl

/-- A template is added, or noted to be a duplicate. -/
theorem extends_addTemplate (pending : Pending) (body : Body) : (reading.addTemplate source pending body).Extends reading := by
  unfold addTemplate
  split
  · exact extends_note _ _ _ _
  · rename_i new
    refine ⟨List.prefix_append _ _, List.prefix_rfl, fun distinct => ?_⟩
    rw [List.map_append, List.nodup_append]
    refine ⟨distinct, List.pairwise_singleton _ _, ?_⟩
    rintro name taken _ added rfl
    obtain ⟨other, inside, rfl⟩ := List.mem_map.mp taken
    have same : other.name = pending.name := by simpa using added
    exact new (List.any_eq_true.mpr ⟨other, inside, beq_iff_eq.mpr same⟩)

/-- A structured body that has not been closed is noted. -/
theorem extends_noteUnclosed (pending : Pending) : (reading.noteUnclosed source pending).Extends reading := by
  unfold noteUnclosed
  split
  · exact extends_note _ _ _ _
  · exact .refl _

/-- Finishing a template gives nothing up that was there when its fenced text was closed. -/
theorem extends_finishTemplate_of_closeFence : (reading.finishTemplate source).Extends (reading.closeFence source) := by
  cases opened : (reading.closeFence source).pending with
  | none =>
    simp only [finishTemplate, opened]
    exact .refl _
  | some pending =>
    rw [finishTemplate_of_pending reading source opened]
    have idle : Extends { reading.closeFence source with pending := none } (reading.closeFence source) :=
      ⟨List.prefix_rfl, List.prefix_rfl, id⟩
    have noted := (extends_noteUnclosed { reading.closeFence source with pending := none } source pending).trans idle
    split
    · exact (extends_addTemplate _ _ _ _).trans ((extends_noteAll _ _ _).trans noted)
    · exact noted

/-- Finishing a template gives nothing up. -/
theorem extends_finishTemplate : (reading.finishTemplate source).Extends reading :=
  (extends_finishTemplate_of_closeFence reading source).trans (extends_closeFence reading source)

/-- A name line gives nothing up. -/
theorem extends_startTemplate (line : Nat) (header : List Char) :
    (reading.startTemplate source line header).Extends reading := by
  simp only [startTemplate]
  split
  · exact (extends_note reading source (.single line) (.badHeader (String.ofList header))).of_same rfl rfl
  · rename_i name parameters _
    exact (extends_noteAll reading source ((repeatedParameters [] parameters).map fun parameter =>
      (LineRange.single line, Fault.duplicateParameter parameter name))).of_same rfl rfl

/-- A line that starts with a dash gives nothing up. -/
theorem extends_bodyLine (line : Nat) (text : List Char) : (reading.bodyLine source line text).Extends reading := by
  unfold bodyLine
  split
  · exact extends_note _ _ _ _
  · split
    · exact extends_note _ _ _ _
    · split
      · exact extends_pushBodyLine _ _ _
      · split
        · exact extends_pushBodyLine _ _ _
        · exact ⟨List.prefix_rfl, List.prefix_rfl, id⟩

/-- A line inside a fenced text gives nothing up. -/
theorem extends_fencedLine (fenced : BodyLine) (line : Nat) (raw : List Char) :
    (reading.fencedLine fenced line raw).Extends reading := by
  simp only [fencedLine]
  split
  · exact ⟨List.prefix_rfl, List.prefix_rfl, id⟩
  · rename_i inside after _
    have pushed := extends_pushBodyLine { reading with fenced := none } fenced.line
      (fenced.text ++ '\n' :: inside ++ trimBack after)
    have opened : Extends { reading with fenced := none } reading := ⟨List.prefix_rfl, List.prefix_rfl, id⟩
    exact (pushed.trans opened).of_same rfl rfl

/-- The start of a structured body gives nothing up. -/
theorem extends_startStructure (line : Nat) (text : List Char) :
    (reading.startStructure source line text).Extends reading := by
  simp only [startStructure]
  split
  · exact extends_note _ _ _ _
  · split
    · generalize trimChars _ = typeName
      split
      · exact ⟨List.prefix_rfl, List.prefix_rfl, id⟩
      · exact (extends_note reading source (.single line) (.badTypeName (String.ofList typeName))).of_same rfl rfl
    · exact extends_note _ _ _ _

/-- An import line gives nothing up. -/
theorem extends_importLine (line : Nat) (text : List Char) : (reading.importLine source line text).Extends reading := by
  simp only [importLine]
  split
  · exact extends_note _ _ _ _
  · split
    · exact extends_note _ _ _ _
    · exact ⟨List.prefix_rfl, List.prefix_rfl, id⟩

/-- A line inside an open structured body gives nothing up. -/
theorem extends_structureLine {reading later : FileReading} {line : Nat} {text : List Char}
    (goesOn : reading.structureLine? line text = some later) : later.Extends reading := by
  unfold structureLine? at goesOn
  split at goesOn
  · cases goesOn
  · split at goesOn
    · cases goesOn
    · cases goesOn
      exact .refl _
    · cases goesOn
      exact .refl _
    · cases goesOn
      exact ⟨List.prefix_rfl, List.prefix_rfl, id⟩
    · cases goesOn

/-- A line outside fenced texts and structured bodies gives nothing up. -/
theorem extends_plainLine (line : Nat) (text : List Char) : (reading.plainLine source line text).Extends reading := by
  unfold plainLine
  split
  · exact .refl _
  · split
    · exact ⟨List.prefix_rfl, List.prefix_rfl, id⟩
    · exact .refl _
  · exact (extends_startTemplate _ _ _ _).trans (extends_finishTemplate _ _)
  · exact extends_bodyLine _ _ _ _
  · split
    · exact (extends_importLine _ _ _ _).trans (extends_finishTemplate _ _)
    · exact extends_startStructure _ _ _ _
  · split
    · exact extends_note _ _ _ _
    · exact extends_note _ _ _ _

/-- No line gives anything up. -/
theorem extends_line (line : Nat) (raw : List Char) : (reading.line source line raw).Extends reading := by
  simp only [FileReading.line]
  split
  · exact extends_fencedLine _ _ _ _
  · split
    · rename_i goesOn
      exact extends_structureLine goesOn
    · exact extends_plainLine _ _ _ _

/-- No lines give anything up. -/
theorem extends_readLines (start : Nat) (lines : List (List Char)) : (reading.readLines source start lines).Extends reading := by
  induction lines generalizing reading start with
  | nil => exact .refl _
  | cons line lines later =>
    rw [readLines_cons]
    exact (later _ _).trans (extends_line _ _ _ _)

end Growth

section Inside

variable {reading : FileReading} {pending : Pending} (opened : reading.pending = some pending) {typeName : String}
  {lines : List BodyLine} (draft : pending.draft = .structured typeName lines false) (line : Nat)

include opened draft

/-- Blank lines are passed over in an open structured body. -/
theorem structureLine?_blank : reading.structureLine? line [] = some reading := by
  unfold structureLine?
  simp only [opened, draft]

/-- Comments are passed over in an open structured body. -/
theorem structureLine?_comment (comment : List Char) : reading.structureLine? line ('>' :: comment) = some reading := by
  unfold structureLine?
  simp only [opened, draft]

/-- Other lines are kept in an open structured body, or close it. -/
theorem structureLine?_text {c : Char} (unlike : c ≠ '#' ∧ c ≠ '>') (rest : List Char) :
    reading.structureLine? line (c :: rest) = some { reading with pending := some { pending with
      draft := if (c :: rest) == [']'] then .structured typeName lines true
        else .structured typeName (lines ++ [⟨line, c :: rest⟩]) false
      range := ⟨pending.range.first, line⟩ } } := by
  unfold structureLine?
  simp only [opened, draft]
  split
  case h_1 _ _ _ _ _ hash => exact absurd (List.cons.inj hash).1 unlike.1
  case h_2 _ _ _ _ empty => cases empty
  case h_3 _ _ _ _ _ comment => exact absurd (List.cons.inj comment).1 unlike.2
  case h_4 _ _ _ _ same _ _ _ =>
    cases same
    rfl
  case h_5 _ _ other _ _ _ => exact absurd rfl (other typeName lines)

end Inside

/-- Whether a reading is another one behind what has been read of the lines in front of it. -/
structure Continues (whole base : FileReading) (count : Nat) (alone : FileReading) : Prop where
  /-- Further templates have moved. -/
  templates : whole.templates = base.templates ++ alone.templates.map (·.behind count)
  /-- Further imports have moved. -/
  imports : whole.imports = base.imports ++ alone.imports.map (·.behind count)
  /-- Further option lines are the same. -/
  options : whole.options = base.options ++ alone.options
  /-- Further faults are the same. -/
  faults : whole.faults = base.faults ++ alone.faults
  /-- The same template is being read. -/
  pending : Option.Rel (Pending.IsBehind count) alone.pending whole.pending
  /-- The same fenced text is being read. -/
  fenced : Option.Rel (BodyLine.IsBehind count) alone.fenced whole.fenced

/-- Whether no template has a name that was taken in front of it, or else no duplicate has been found. -/
def Unclashing (base alone whole : FileReading) : Prop :=
  -- A duplicate is an error.
  (∀ template ∈ alone.templates, ∀ other ∈ base.templates, other.name ≠ template.name) ∨ whole.IsClean

/-- What does not clash in the end did not clash before. -/
theorem Unclashing.of_extends {base alone whole alone' whole' : FileReading} (unclashing : Unclashing base alone' whole')
    (grows : alone'.Extends alone) (grows' : whole'.Extends whole) : Unclashing base alone whole :=
  unclashing.imp (fun apart template inside => apart template (grows.templates.subset inside)) grows'.isClean

section Continuation

variable {base alone whole : FileReading} {count : Nat} (continues : whole.Continues base count alone) (source : String)

include continues

/-- The whole is clean if both parts are. -/
theorem Continues.isClean_iff : whole.IsClean ↔ base.IsClean ∧ alone.IsClean := by
  simp only [IsClean, continues.faults, List.forall_mem_append]

/-- A finding goes on alike. -/
theorem Continues.note (range range' : LineRange) (fault : Fault) :
    (whole.note source range fault).Continues base count (alone.note source range' fault) := by
  refine ⟨continues.templates, continues.imports, continues.options, ?_, continues.pending, continues.fenced⟩
  have faults := continues.faults
  simp only [FileReading.faults] at faults
  simp [FileReading.note, FileReading.faults, faults]

/-- Findings go on alike. -/
theorem Continues.noteAll {notes notes' : List (LineRange × Fault)} (same : notes'.map (·.2) = notes.map (·.2)) :
    (whole.noteAll source notes').Continues base count (alone.noteAll source notes) := by
  refine ⟨continues.templates, continues.imports, continues.options, ?_, continues.pending, continues.fenced⟩
  have faults := continues.faults
  simp only [FileReading.faults] at faults
  have again (notes : List (LineRange × Fault)) :
      (notes.map fun note => (⟨note.1, note.2, source⟩ : Finding)).map (·.fault) = notes.map (·.2) := by simp
  have added : ((notes'.map fun note => (⟨note.1, note.2, source⟩ : Finding)).map (·.fault)) =
      (notes.map fun note => (⟨note.1, note.2, source⟩ : Finding)).map (·.fault) := by rw [again, again, same]
  show (whole.findings ++ notes'.map fun note => (⟨note.1, note.2, source⟩ : Finding)).map (·.fault) =
    base.findings.map (·.fault) ++ (alone.findings ++ notes.map fun note => (⟨note.1, note.2, source⟩ : Finding)).map (·.fault)
  rw [List.map_append, List.map_append, faults, added, List.append_assoc]

/-- Another template goes on alike. -/
theorem Continues.pend {pending pending' : Option Pending} (same : Option.Rel (Pending.IsBehind count) pending pending') :
    { whole with pending := pending' }.Continues base count { alone with pending := pending } :=
  ⟨continues.templates, continues.imports, continues.options, continues.faults, same, continues.fenced⟩

/-- Another fenced text goes on alike. -/
theorem Continues.fence {fenced fenced' : Option BodyLine} (same : Option.Rel (BodyLine.IsBehind count) fenced fenced') :
    { whole with fenced := fenced' }.Continues base count { alone with fenced := fenced } :=
  ⟨continues.templates, continues.imports, continues.options, continues.faults, continues.pending, same⟩

/-- The same template is being read, if any. -/
theorem Continues.pending_cases : (alone.pending = none ∧ whole.pending = none) ∨
    ∃ pending pending', alone.pending = some pending ∧ whole.pending = some pending' ∧ pending.IsBehind count pending' := by
  have same := continues.pending
  revert same
  cases alone.pending <;> cases whole.pending <;> rintro (_ | _)
  · exact .inl ⟨rfl, rfl⟩
  · exact .inr ⟨_, _, rfl, rfl, by assumption⟩

/-- The same fenced text is being read, if any. -/
theorem Continues.fenced_cases : (alone.fenced = none ∧ whole.fenced = none) ∨
    ∃ fenced fenced', alone.fenced = some fenced ∧ whole.fenced = some fenced' ∧ fenced.IsBehind count fenced' := by
  have same := continues.fenced
  revert same
  cases alone.fenced <;> cases whole.fenced <;> rintro (_ | _)
  · exact .inl ⟨rfl, rfl⟩
  · exact .inr ⟨_, _, rfl, rfl, by assumption⟩

/-- A body line goes on alike. -/
theorem Continues.pushBodyLine (line : Nat) (text : List Char) :
    (whole.pushBodyLine (count + line) text).Continues base count (alone.pushBodyLine line text) := by
  unfold FileReading.pushBodyLine
  rcases continues.pending_cases with ⟨before, after⟩ | ⟨pending, pending', before, after, behind⟩
  · simp only [before, after]
    exact continues
  · obtain ⟨name, parameters, range, valid, draft⟩ := pending
    obtain ⟨name', parameters', range', valid', draft'⟩ := pending'
    obtain ⟨sameName, sameParameters, moved, sameValid, texts⟩ := behind
    simp only [before, after]
    cases texts with
    | structured typeName texts closed => exact continues
    | plain texts =>
      refine continues.pend (.some ⟨sameName, sameParameters, ?_, sameValid, .plain (List.rel_append texts (.cons rfl .nil))⟩)
      rw [show range' = range.behind count from moved]
      simp only [LineRange.behind, Nat.add_max_add_left]

/-- Closing a fenced text goes on alike. -/
theorem Continues.closeFence : (whole.closeFence source).Continues base count (alone.closeFence source) := by
  unfold FileReading.closeFence
  rcases continues.fenced_cases with ⟨before, after⟩ | ⟨fenced, fenced', before, after, behind⟩
  · simp only [before, after]
    exact continues
  · simp only [before, after, behind.line, behind.text]
    exact ((continues.fence .none).note source _ _ _).pushBodyLine _ _

/-- A template is added alike unless its name was taken in front of it. -/
theorem Continues.addTemplate {pending pending' : Pending} (behind : pending.IsBehind count pending') (body : Body)
    (unclashing : Unclashing base (alone.addTemplate source pending body) (whole.addTemplate source pending' body)) :
    (whole.addTemplate source pending' body).Continues base count (alone.addTemplate source pending body) := by
  obtain ⟨name, parameters, range, valid, draft⟩ := pending
  obtain ⟨name', parameters', range', valid', draft'⟩ := pending'
  obtain ⟨sameName, sameParameters, moved, _, _⟩ := behind
  obtain rfl : name' = name := sameName
  obtain rfl : parameters' = parameters := sameParameters
  obtain rfl : range' = range.behind count := moved
  have known : whole.templates.any (·.name == name') =
      (base.templates.any (·.name == name') || alone.templates.any (·.name == name')) := by
    rw [continues.templates, List.any_append, List.any_map]
    rfl
  unfold FileReading.addTemplate at unclashing ⊢
  rw [known] at unclashing ⊢
  by_cases repeated : alone.templates.any (·.name == name') = true
  · rw [repeated, Bool.or_true, if_pos rfl, if_pos rfl]
    exact continues.note source _ _ _
  · rw [Bool.not_eq_true] at repeated
    rw [repeated, Bool.or_false, if_neg Bool.false_ne_true] at unclashing ⊢
    by_cases taken : base.templates.any (·.name == name') = true
    · -- The template is a duplicate for the whole only.
      rw [if_pos taken] at unclashing
      rcases unclashing with apart | clean
      · obtain ⟨other, inside, same⟩ := List.any_eq_true.mp taken
        exact absurd (beq_iff_eq.mp same) (apart ⟨name', parameters', body, source, range⟩ (by simp) other inside)
      · exact absurd clean (not_isClean_note whole source _ rfl)
    · rw [if_neg taken]
      refine ⟨?_, continues.imports, continues.options, continues.faults, continues.pending, continues.fenced⟩
      simp [continues.templates, Template.behind]

/-- A structured body that has not been closed is noted alike. -/
theorem Continues.noteUnclosed {pending pending' : Pending} (behind : pending.IsBehind count pending') :
    (whole.noteUnclosed source pending').Continues base count (alone.noteUnclosed source pending) := by
  obtain ⟨name, parameters, range, valid, draft⟩ := pending
  obtain ⟨name', parameters', range', valid', draft'⟩ := pending'
  obtain ⟨sameName, _, _, _, texts⟩ := behind
  obtain rfl : name' = name := sameName
  cases texts with
  | plain texts => exact continues
  | structured typeName texts closed =>
    cases closed with
    | true => exact continues
    | false => exact continues.note source _ _ _

/-- Finishing a template goes on alike unless its name was taken in front of it. -/
theorem Continues.finishTemplate
    (unclashing : Unclashing base (alone.finishTemplate source) (whole.finishTemplate source)) :
    (whole.finishTemplate source).Continues base count (alone.finishTemplate source) := by
  have closed := continues.closeFence source
  rcases closed.pending_cases with ⟨before, after⟩ | ⟨pending, pending', before, after, behind⟩
  · simp only [FileReading.finishTemplate, before, after]
    exact closed
  · rw [finishTemplate_of_pending _ _ before, finishTemplate_of_pending _ _ after] at unclashing ⊢
    have body := behind.draft.read pending.name pending.range pending'.range
    have noted := (closed.pend .none).noteUnclosed source behind
    rw [behind.valid, behind.name] at unclashing ⊢
    dsimp only at unclashing ⊢
    rw [← body.values] at unclashing ⊢
    by_cases valid : pending.valid = true
    · rw [if_pos valid, if_pos valid] at unclashing ⊢
      exact (noted.noteAll source body.faults.symm).addTemplate source behind _ unclashing
    · rw [if_neg valid, if_neg valid]
      exact noted

/-- A name line starts a template alike. -/
theorem Continues.startTemplate (line : Nat) (header : List Char) :
    (whole.startTemplate source (count + line) header).Continues base count (alone.startTemplate source line header) := by
  simp only [FileReading.startTemplate]
  split
  · exact (continues.note source _ _ _).pend (.some ⟨rfl, rfl, rfl, rfl, .refl _⟩)
  · refine (continues.noteAll source ?_).pend (.some ⟨rfl, rfl, rfl, rfl, .refl _⟩)
    rw [List.map_map, List.map_map]
    rfl

/-- A line that starts with a dash goes on alike. -/
theorem Continues.bodyLine (line : Nat) (text : List Char) :
    (whole.bodyLine source (count + line) text).Continues base count (alone.bodyLine source line text) := by
  unfold FileReading.bodyLine
  rcases continues.pending_cases with ⟨before, after⟩ | ⟨pending, pending', before, after, behind⟩
  · simp only [before, after]
    exact continues.note source _ _ _
  · obtain ⟨name, parameters, range, valid, draft⟩ := pending
    obtain ⟨name', parameters', range', valid', draft'⟩ := pending'
    simp only [before, after]
    cases (show draft.SameTexts draft' from behind.draft) with
    | structured typeName texts closed => exact continues.note source _ _ _
    | plain texts =>
      dsimp only
      split
      · exact continues.pushBodyLine line text
      · rename_i front rest _
        split
        · exact continues.pushBodyLine line _
        · have same : BodyLine.IsBehind count ⟨line, front ++ rest⟩ ⟨count + line, front ++ rest⟩ := ⟨rfl, rfl⟩
          exact (continues.pend (.some behind)).fence (.some same)

/-- A line inside a fenced text goes on alike. -/
theorem Continues.fencedLine {fenced fenced' : BodyLine} (behind : fenced.IsBehind count fenced') (line : Nat)
    (raw : List Char) :
    (whole.fencedLine fenced' (count + line) raw).Continues base count (alone.fencedLine fenced line raw) := by
  simp only [FileReading.fencedLine, behind.line, behind.text]
  split
  · exact continues.fence (.some ⟨rfl, rfl⟩)
  · rename_i inside after _
    have pushed := (continues.fence .none).pushBodyLine fenced.line (fenced.text ++ '\n' :: inside ++ trimBack after)
    refine pushed.pend ?_
    rcases pushed.pending_cases with ⟨before, after⟩ | ⟨pending, pending', before, after, behind⟩
    · rw [before, after]
      exact .none
    · rw [before, after]
      refine .some ⟨behind.name, behind.parameters, ?_, behind.valid, behind.draft⟩
      dsimp only
      rw [behind.range]
      rfl

/-- A structured body is started alike. -/
theorem Continues.startStructure (line : Nat) (text : List Char) :
    (whole.startStructure source (count + line) text).Continues base count (alone.startStructure source line text) := by
  simp only [FileReading.startStructure]
  rcases continues.pending_cases with ⟨before, after⟩ | ⟨pending, pending', before, after, behind⟩
  · simp only [before, after]
    exact continues.note source _ _ _
  · obtain ⟨name, parameters, range, valid, draft⟩ := pending
    obtain ⟨name', parameters', range', valid', draft'⟩ := pending'
    obtain ⟨sameName, sameParameters, moved, sameValid, texts⟩ := behind
    simp only [before, after]
    have started (draft : Draft) : Option.Rel (Pending.IsBehind count)
        (some ⟨name, parameters, ⟨range.first, line⟩, valid, draft⟩)
        (some ⟨name', parameters', ⟨range'.first, count + line⟩, valid', draft⟩) := by
      refine .some ⟨sameName, sameParameters, ?_, sameValid, .refl draft⟩
      rw [show range' = range.behind count from moved]
      rfl
    cases texts with
    | structured typeName texts closed => exact continues.note source _ _ _
    | plain texts =>
      cases texts with
      | cons _ _ => exact continues.note source _ _ _
      | nil =>
        dsimp only
        generalize trimChars _ = typeName
        split
        · exact continues.pend (started _)
        · exact (continues.pend (started _)).note source _ _ _

/-- An import goes on alike. -/
theorem Continues.importLine (line : Nat) (text : List Char) :
    (whole.importLine source (count + line) text).Continues base count (alone.importLine source line text) := by
  simp only [FileReading.importLine]
  split
  · exact continues.note source _ _ _
  · split
    · exact continues.note source _ _ _
    · refine ⟨continues.templates, ?_, continues.options, continues.faults, continues.pending, continues.fenced⟩
      simp [continues.imports, Import.behind]

/-- A line inside an open structured body goes on alike. -/
theorem Continues.structureLine (line : Nat) (text : List Char) :
    Option.Rel (fun alone' whole' => Continues whole' base count alone') (alone.structureLine? line text)
      (whole.structureLine? (count + line) text) := by
  rcases continues.pending_cases with ⟨before, after⟩ | ⟨pending, pending', before, after, behind⟩
  · simp only [structureLine?, before, after]
    exact .none
  obtain ⟨name, parameters, range, valid, draft⟩ := pending
  obtain ⟨name', parameters', range', valid', draft'⟩ := pending'
  obtain ⟨sameName, sameParameters, moved, sameValid, texts⟩ := behind
  cases (show draft.SameTexts draft' from texts) with
  | plain texts =>
    simp only [structureLine?, before, after]
    exact .none
  | @structured typeName lines lines' same closed =>
    cases closed with
    | true =>
      simp only [structureLine?, before, after]
      exact .none
    | false =>
      cases text with
      | nil =>
        rw [structureLine?_blank before rfl, structureLine?_blank after rfl]
        exact .some continues
      | cons c rest =>
        by_cases hash : c = '#'
        · rw [hash, structureLine?_header, structureLine?_header]
          exact .none
        by_cases comment : c = '>'
        · rw [comment, structureLine?_comment before rfl, structureLine?_comment after rfl]
          exact .some continues
        rw [structureLine?_text before rfl _ ⟨hash, comment⟩, structureLine?_text after rfl _ ⟨hash, comment⟩]
        refine .some (continues.pend (.some ⟨sameName, sameParameters, ?_, sameValid, ?_⟩))
        · rw [show range' = range.behind count from moved]
          rfl
        · dsimp only
          split
          · exact .structured typeName same true
          · have here : BodyLine.SameText ⟨line, c :: rest⟩ ⟨count + line, c :: rest⟩ := rfl
            exact .structured typeName (List.rel_append same (.cons here .nil)) false

/-- A line outside fenced texts and structured bodies goes on alike. -/
theorem Continues.plainLine (line : Nat) (text : List Char)
    (unclashing : Unclashing base (alone.plainLine source line text) (whole.plainLine source (count + line) text)) :
    (whole.plainLine source (count + line) text).Continues base count (alone.plainLine source line text) := by
  unfold FileReading.plainLine at unclashing ⊢
  split
  · exact continues
  · split
    · refine ⟨continues.templates, continues.imports, ?_, continues.faults, continues.pending, continues.fenced⟩
      simp [continues.options]
    · exact continues
  · have finished := continues.finishTemplate source
      (unclashing.of_extends (extends_startTemplate _ _ _ _) (extends_startTemplate _ _ _ _))
    exact finished.startTemplate source line _
  · exact continues.bodyLine source line _
  · split
    · rename_i linked
      simp only [linked, if_true] at unclashing
      have finished := continues.finishTemplate source
        (unclashing.of_extends (extends_importLine _ _ _ _) (extends_importLine _ _ _ _))
      exact finished.importLine source line _
    · exact continues.startStructure source line _
  · rcases continues.pending_cases with ⟨before, after⟩ | ⟨pending, pending', before, after, behind⟩
    · simp only [before, after]
      exact continues.note source _ _ _
    · simp only [before, after]
      exact continues.note source _ _ _

/-- A line goes on alike unless a name was taken in front of it. -/
theorem Continues.line (line : Nat) (raw : List Char)
    (unclashing : Unclashing base (alone.line source line raw) (whole.line source (count + line) raw)) :
    (whole.line source (count + line) raw).Continues base count (alone.line source line raw) := by
  simp only [FileReading.line] at unclashing ⊢
  rcases continues.fenced_cases with ⟨before, after⟩ | ⟨fenced, fenced', before, after, behind⟩
  · simp only [before, after] at unclashing ⊢
    have inside := continues.structureLine line (trimChars raw)
    generalize alone.structureLine? line (trimChars raw) = first at inside unclashing ⊢
    generalize whole.structureLine? (count + line) (trimChars raw) = second at inside unclashing ⊢
    cases inside with
    | none => exact continues.plainLine source line _ unclashing
    | some goesOn => exact goesOn
  · simp only [before, after]
    exact continues.fencedLine behind line raw

/-- Lines go on alike unless a name was taken in front of them. -/
theorem Continues.readLines (start : Nat) (lines : List (List Char))
    (unclashing : Unclashing base (alone.readLines source start lines) (whole.readLines source (count + start) lines)) :
    (whole.readLines source (count + start) lines).Continues base count (alone.readLines source start lines) := by
  induction lines generalizing alone whole start with
  | nil => exact continues
  | cons line lines later =>
    rw [readLines_cons, readLines_cons] at unclashing ⊢
    exact later (continues.line source _ line (unclashing.of_extends (extends_readLines _ _ _ _) (extends_readLines _ _ _ _)))
      (start + 1) unclashing

end Continuation

end FileReading

end Phrasebook
