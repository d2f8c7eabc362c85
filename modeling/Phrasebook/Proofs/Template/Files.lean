import Phrasebook.Proofs.Template.Names

/-! What holds of every template that is read from a file. -/

namespace Phrasebook

/-- Whether a text is made of characters that can stand in a name. -/
def IsSpelled (name : String) : Prop :=
  -- The name of a template that could not be read is empty.
  ∀ c ∈ name.toList, isNameChar c = true

/-- The name and the expressions of a template are as reading makes them. -/
structure Template.IsRead (template : Template) : Prop where
  /-- Other characters do not stand in the name. -/
  spelled : IsSpelled template.name
  /-- The variables and members in the expressions are named by identifiers. -/
  named : AllWellNamed template.expressions

/-- There is no exclamation mark in the name of a template that is read. -/
theorem Template.IsRead.unmarked {template : Template} (read : template.IsRead) : '!' ∉ template.name.toList :=
  fun inside => absurd (read.spelled '!' inside) (by decide)

/-- A name that is read is made of characters that can stand in one. -/
theorem nameRule_gives : FileReading.nameRule.Gives IsSpelled := by
  intro text name rest reads
  unfold FileReading.nameRule at reads
  split at reads
  · rename_i first more
    split at reads
    · rename_i starts
      cases reads
      rw [IsSpelled, String.toList_ofList, List.forall_mem_cons]
      refine ⟨?_, fun c inside => List.mem_takeWhile_imp inside⟩
      -- What starts a name may also stand inside one.
      simp only [startsIdentifier, Bool.or_eq_true] at starts
      rcases starts with letter | underscore
      · simp [isNameChar, isAlphanumeric, letter]
      · simp [isNameChar, underscore]
    · cases reads
  · cases reads

/-- The name of a name line is made of characters that can stand in one. -/
theorem headerRule_gives : FileReading.headerRule.Gives fun header => IsSpelled header.1 := by
  unfold FileReading.headerRule
  refine Rule.gives_of_next fun _ => Rule.gives_bind nameRule_gives fun name spelled => ?_
  exact Rule.gives_of_next fun _ => Rule.gives_of_next fun parameters => Rule.gives_pure spelled

/-- A text that is read as a whole is read as something that the rule gives. -/
theorem FileReading.of_readWhole {α : Type} {rule : Rule α} {Good : α → Prop} (good : rule.Gives Good) {text : List Char} {value : α}
    (reads : readWhole rule text = some value) : Good value := by
  unfold readWhole at reads
  split at reads
  · rename_i read rest done
    split at reads
    · cases reads
      exact good _ _ _ done
    · cases reads
  · cases reads

/-- The alias of an import is an identifier. -/
theorem importRule_gives : FileReading.importRule.Gives fun parts => ∀ qualifier ∈ parts.2.2, IsIdentifier qualifier := by
  unfold FileReading.importRule
  have aliased : Rule.Gives (do FileReading.importRule.gap; Rule.exactly ['a', 's']; FileReading.importRule.gap; identifier)
      IsIdentifier :=
    Rule.gives_of_next fun _ => Rule.gives_of_next fun _ => Rule.gives_of_next fun _ => identifier_gives
  refine Rule.gives_of_next fun _ => Rule.gives_of_next fun description => Rule.gives_of_next fun _ => ?_
  refine Rule.gives_of_next fun target => Rule.gives_of_next fun _ => ?_
  exact Rule.gives_bind (Rule.gives_optional aliased) fun qualifier named => Rule.gives_pure named

namespace FileReading

/-- Whether the templates and imports that have been read so far, and the name of the template being read, are sound. -/
structure IsSound (reading : FileReading) : Prop where
  /-- The finished templates are as reading makes them. -/
  templates : ∀ template ∈ reading.templates, template.IsRead
  /-- Other characters do not stand in the name of the template that is being read. -/
  pending : ∀ pending, reading.pending = some pending → IsSpelled pending.name
  /-- The aliases of imports are identifiers. -/
  aliases : ∀ entry ∈ reading.imports, ∀ qualifier ∈ entry.qualifier, IsIdentifier qualifier

variable {reading : FileReading} (sound : reading.IsSound) (source : String)

include sound

/-- A reading that has the same templates and imports, and whose pending template has the same name, is as sound. -/
theorem IsSound.of_same {later : FileReading} (templates : later.templates = reading.templates)
    (imports : later.imports = reading.imports)
    (pending : ∀ pending, later.pending = some pending → ∃ before, reading.pending = some before ∧ pending.name = before.name) :
    later.IsSound := by
  refine ⟨templates ▸ sound.templates, fun now found => ?_, imports ▸ sound.aliases⟩
  obtain ⟨before, earlier, same⟩ := pending now found
  rw [same]
  exact sound.pending before earlier

/-- Findings do not matter. -/
theorem IsSound.note (range : LineRange) (fault : Fault) : (reading.note source range fault).IsSound :=
  ⟨sound.templates, sound.pending, sound.aliases⟩

/-- Findings do not matter, however many there are. -/
theorem IsSound.noteAll (notes : List (LineRange × Fault)) : (reading.noteAll source notes).IsSound :=
  ⟨sound.templates, sound.pending, sound.aliases⟩

/-- A fenced text does not matter until it is closed. -/
theorem IsSound.fence (fenced : Option BodyLine) : { reading with fenced := fenced }.IsSound :=
  ⟨sound.templates, sound.pending, sound.aliases⟩

/-- A body line changes neither the finished templates nor the name of the one being read. -/
theorem IsSound.pushBodyLine (line : Nat) (text : List Char) : (reading.pushBodyLine line text).IsSound := by
  unfold FileReading.pushBodyLine
  split
  · rename_i pending opened
    split
    · refine sound.of_same rfl rfl fun now found => ⟨pending, opened, ?_⟩
      cases found
      rfl
    · exact sound
  · exact sound

/-- Closing a fenced text keeps a reading sound. -/
theorem IsSound.closeFence : (reading.closeFence source).IsSound := by
  unfold FileReading.closeFence
  split
  · exact sound
  · exact ((sound.fence none).note source _ _).pushBodyLine _ _

/-- A template that is added keeps a reading sound, and so does one that is noted to be a duplicate. -/
theorem IsSound.addTemplate {pending : Pending} (spelled : IsSpelled pending.name) {body : Body}
    (named : AllWellNamed body.expressions) :
    IsSound (if reading.templates.any (·.name == pending.name) then
        reading.note source pending.range (.duplicateTemplate pending.name)
      else
        { reading with templates :=
            reading.templates ++ [⟨pending.name, pending.parameters, body, source, pending.range⟩] }) := by
  split
  · exact sound.note source _ _
  · refine ⟨fun template inside => ?_, sound.pending, sound.aliases⟩
    rcases List.mem_append.mp inside with earlier | new
    · exact sound.templates template earlier
    · rw [List.mem_singleton.mp new]
      exact ⟨spelled, named⟩

/-- Finishing a template keeps a reading sound. -/
theorem IsSound.finishTemplate : (reading.finishTemplate source).IsSound := by
  have closed := sound.closeFence source
  simp only [FileReading.finishTemplate]
  generalize reading.closeFence source = now at closed
  split
  · exact closed
  · rename_i pending opened
    have spelled := closed.pending pending opened
    have idle : IsSound { now with pending := none } := ⟨closed.templates, nofun, closed.aliases⟩
    have body := allWellNamed_readDraft pending.draft pending.name pending.range
    have noted := idle.note source pending.range (.unclosedStructure pending.name)
    -- An unclosed structured body is noted and read all the same.
    split
    · split
      · exact noted
      · exact idle
    · split
      · exact (noted.noteAll source _).addTemplate source spelled body
      · exact (idle.noteAll source _).addTemplate source spelled body

/-- A name line keeps a reading sound. -/
theorem IsSound.startTemplate (line : Nat) (header : List Char) :
    (reading.startTemplate source line header).IsSound := by
  simp only [FileReading.startTemplate]
  split
  · -- The template has no name if the line cannot be read.
    refine ⟨sound.templates, fun now found => ?_, sound.aliases⟩
    cases found
    exact fun c inside => absurd inside List.not_mem_nil
  · rename_i name parameters reads
    refine ⟨sound.templates, fun now found => ?_, sound.aliases⟩
    cases found
    exact of_readWhole headerRule_gives reads

/-- A line that starts with a dash keeps a reading sound. -/
theorem IsSound.bodyLine (line : Nat) (text : List Char) : (reading.bodyLine source line text).IsSound := by
  unfold FileReading.bodyLine
  split
  · exact sound.note source _ _
  · split
    · exact sound.note source _ _
    · split
      · exact sound.pushBodyLine line text
      · split
        · exact sound.pushBodyLine line _
        · exact sound.fence _

/-- A line inside a fenced text keeps a reading sound. -/
theorem IsSound.fencedLine (fenced : BodyLine) (line : Nat) (raw : List Char) :
    (reading.fencedLine fenced line raw).IsSound := by
  simp only [FileReading.fencedLine]
  split
  · exact sound.fence _
  · refine ((sound.fence none).pushBodyLine _ _).of_same rfl rfl fun now found => ?_
    simp only [Option.map_eq_some_iff] at found
    obtain ⟨before, earlier, rfl⟩ := found
    exact ⟨before, earlier, rfl⟩

/-- The start of a structured body keeps a reading sound. -/
theorem IsSound.startStructure (line : Nat) (text : List Char) :
    (reading.startStructure source line text).IsSound := by
  simp only [FileReading.startStructure]
  split
  · exact sound.note source _ _
  · rename_i pending opened
    split
    · -- Only the draft and the lines of the template change.
      have started (draft : Draft) (range : LineRange) :
          IsSound { reading with pending := some { pending with draft := draft, range := range } } := by
        refine sound.of_same rfl rfl fun now found => ⟨pending, opened, ?_⟩
        cases found
        rfl
      generalize trimChars _ = typeName
      split
      · exact started _ _
      · exact (started _ _).note source _ _
    · exact sound.note source _ _

/-- An import keeps a reading sound. -/
theorem IsSound.importLine (line : Nat) (text : List Char) : (reading.importLine source line text).IsSound := by
  simp only [FileReading.importLine]
  split
  · exact sound.note source _ _
  · rename_i description target qualifier reads
    split
    · exact sound.note source _ _
    · refine ⟨sound.templates, sound.pending, List.forall_mem_append.mpr ⟨sound.aliases, ?_⟩⟩
      rw [List.forall_mem_singleton]
      exact of_readWhole importRule_gives reads

/-- A line inside an open structured body keeps a reading sound. -/
theorem IsSound.structureLine {later : FileReading} {line : Nat} {text : List Char}
    (goesOn : reading.structureLine? line text = some later) : later.IsSound := by
  unfold FileReading.structureLine? at goesOn
  split at goesOn
  · cases goesOn
  · rename_i pending opened
    split at goesOn
    · cases goesOn
    · cases goesOn
      exact sound
    · cases goesOn
      exact sound
    · cases goesOn
      refine sound.of_same rfl rfl fun now found => ⟨pending, opened, ?_⟩
      cases found
      rfl
    · cases goesOn

/-- A line outside fenced texts and structured bodies keeps a reading sound. -/
theorem IsSound.plainLine (line : Nat) (text : List Char) : (reading.plainLine source line text).IsSound := by
  unfold FileReading.plainLine
  split
  · exact sound
  · split
    · exact ⟨sound.templates, sound.pending, sound.aliases⟩
    · exact sound
  · exact (sound.finishTemplate source).startTemplate source line _
  · exact sound.bodyLine source line _
  · split
    · exact (sound.finishTemplate source).importLine source line _
    · exact sound.startStructure source line _
  · split
    · exact sound.note source _ _
    · exact sound.note source _ _

/-- Every line keeps a reading sound. -/
theorem IsSound.line (line : Nat) (raw : List Char) : (reading.line source line raw).IsSound := by
  simp only [FileReading.line]
  split
  · exact sound.fencedLine _ line raw
  · split
    · rename_i later goesOn
      exact sound.structureLine goesOn
    · exact sound.plainLine source line _

end FileReading

/-- What is read of a file is sound. -/
theorem TemplateFile.exists_isSound (content source : String) : ∃ reading : FileReading, reading.IsSound ∧
    (TemplateFile.parse content source).templates = reading.templates ∧
      (TemplateFile.parse content source).imports = reading.imports := by
  -- Nothing has been read at first, and every line keeps the reading sound.
  have lines : ∀ (lines : List (List Char × Nat)) (reading : FileReading), reading.IsSound →
      (lines.foldl (fun reading line => reading.line source (line.2 + 1) line.1) reading).IsSound := by
    intro lines
    induction lines with
    | nil => exact fun _ sound => sound
    | cons line rest ih => exact fun reading sound => ih _ (sound.line source _ _)
  have start : FileReading.IsSound {} := ⟨by simp, by simp, by simp⟩
  exact ⟨_, (lines _ _ start).finishTemplate source, rfl, rfl⟩

/-- The templates of a file are as reading makes them. -/
theorem TemplateFile.isRead_of_mem_parse {content source : String} {template : Template}
    (inside : template ∈ (TemplateFile.parse content source).templates) : template.IsRead := by
  obtain ⟨reading, sound, templates, _⟩ := exists_isSound content source
  exact sound.templates template (templates ▸ inside)

/-- The aliases of the imports of a file are identifiers. -/
theorem TemplateFile.isIdentifier_of_mem_parse {content source : String} {entry : Import}
    (inside : entry ∈ (TemplateFile.parse content source).imports) {qualifier : String} (aliased : entry.qualifier = some qualifier) :
    IsIdentifier qualifier := by
  obtain ⟨reading, sound, _, imports⟩ := exists_isSound content source
  exact sound.aliases entry (imports ▸ inside) qualifier aliased

end Phrasebook
