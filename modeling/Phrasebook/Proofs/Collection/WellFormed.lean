import Phrasebook.Proofs.Collection.Loaded
import Phrasebook.Proofs.Template.Cuts
import Phrasebook.Proofs.Template.Drafts

/-! Files without errors are well formed, and so is everything that can be called from a collection without errors. -/

namespace Phrasebook

/-- The lines of a text that a range takes. -/
def LineRange.linesIn (range : LineRange) (content : String) : List (List Char) :=
  -- Lines are counted from one, and both ends belong to the range.
  ((linesOf content.toList).take range.last).drop (range.first - 1)

/-- Whether a template is as its own lines of a text say, with nothing in it that could not be read. -/
structure Template.IsWellFormed (template : Template) (content : String) : Prop where
  /-- No parameter is repeated. -/
  distinct : template.parameters.Nodup
  /-- The parts of the body stand in an order that evaluation expects. -/
  ordered : template.body.IsWellFormed
  /-- Every expression is the one that its text spells. -/
  faithful : AllFaithful template.expressions
  /-- Every part of the body is what the lines of the template are read as. -/
  read : ∃ pending, (FileReading.readLines {} template.source 0 (template.range.linesIn content)).pending = some pending ∧
    template.body.IsReadFrom pending.draft
  /-- A structured body was closed by a bracket at the end of the last line. -/
  closed : ∀ typeName parts, template.body = .structured typeName parts →
    ∃ raw, (template.range.linesIn content).getLast? = some raw ∧ (trimChars raw).getLast? = some ']'

section WellFormed

open FileReading

/-- A template that has been cut out of the lines of a text is well formed. -/
theorem Template.isWellFormed_of_cut {content source : String} {before after : List Template} {template : Template}
    {front part back : List (List Char)} (lines : linesOf content.toList = front ++ part ++ back)
    (cut : Cut source before template after front part back) : template.IsWellFormed content := by
  obtain ⟨alone, is, rfl⟩ := cut.alone
  obtain ⟨pending, drafting, same, mild, closed⟩ := is.draft
  have taken : (alone.behind front.length).range.linesIn content = part := by
    simp only [LineRange.linesIn, Template.behind, LineRange.behind, is.range, lines, Nat.add_sub_cancel]
    rw [List.take_left' List.length_append, List.drop_left]
  have reads := pending.draft.bears_read pending.name pending.range (fun typeName parts last drafted =>
    ⟨(closed typeName parts last drafted).1, drafting.proper typeName parts last drafted⟩) mild
  have source : alone.source = source := by rw [same]
  have body : alone.body = (pending.draft.read pending.name pending.range).value := by rw [same]
  rw [← body] at reads
  refine ⟨?_, reads.1, reads.2.allFaithful, ⟨pending, ?_, reads.2⟩, fun typeName parts structured => ?_⟩
  · show alone.parameters.Nodup
    rw [same]
    exact drafting.distinct
  · rw [taken, show (alone.behind front.length).source = _ from source]
    exact drafting.opened
  · rw [taken]
    have structured : alone.body = .structured typeName parts := structured
    rw [structured] at reads
    -- Only a structured draft is read as a structured body.
    cases drafted : pending.draft with
    | plain lines =>
      rw [drafted] at reads
      exact reads.2.elim
    | structured typeName' lines last => exact (closed typeName' lines last drafted).2

/-- The templates of a text without errors have different names and are well formed. -/
theorem TemplateFile.wellFormed_of_isErrorFree {content source : String} (clean : (TemplateFile.parse content source).IsErrorFree) :
    ((TemplateFile.parse content source).templates.map (·.name)).Nodup ∧
      ∀ template ∈ (TemplateFile.parse content source).templates, template.IsWellFormed content := by
  rw [TemplateFile.isErrorFree_iff] at clean
  refine ⟨nodup_names source _, fun template inside => ?_⟩
  obtain ⟨before, after, templates⟩ := List.append_of_mem inside
  obtain ⟨front, part, back, lines, cut⟩ := exists_cut clean templates
  exact Template.isWellFormed_of_cut lines cut

end WellFormed

namespace Collection

variable {collection : Collection}

/-- The text of a file that a collection without errors imports has no errors either. -/
theorem IsLoaded.isErrorFree (loaded : collection.IsLoaded) (sound : collection.errors = []) {id : String} {file : LoadedFile}
    (leads : collection.Leads collection.id id) (found : collection.graph.file? id = some file) :
    (TemplateFile.parse file.content file.id).IsErrorFree := by
  intro finding inside
  have same : collection.fileOf id = file := by simp [fileOf, found]
  have kept : finding ∈ (collection.fileOf id).findings := same ▸ (loaded.isOfText found).findings inside
  have mild := List.filter_eq_nil_iff.mp sound finding (mem_allFindings leads kept)
  simpa using mild

end Collection

/-- **Files without errors are well formed.** Their templates have different names, and each of them is as its own lines say:
    its parameters differ, branches and cases stand in order, structured bodies have been closed and have a proper type name, and
    every text and expression is the one that was read from the file. The same holds of everything that can be called from a
    collection without errors. -/
theorem errorFree_isWellFormed :
    (∀ content source, (TemplateFile.parse content source).IsErrorFree →
      ((TemplateFile.parse content source).templates.map (·.name)).Nodup ∧
        ∀ template ∈ (TemplateFile.parse content source).templates, template.IsWellFormed content) ∧
    ∀ collection : Collection, collection.IsLoaded → collection.errors = [] →
      ∀ name template, (name, template) ∈ collection.registry →
        ∃ id, collection.Leads collection.id id ∧ template ∈ (collection.fileOf id).templates ∧
          template.IsWellFormed (collection.fileOf id).content := by
  refine ⟨fun content source clean => TemplateFile.wellFormed_of_isErrorFree clean, ?_⟩
  intro collection loaded sound name template inside
  obtain ⟨id, _, leads, defined, _⟩ := Collection.exists_of_mem_registry inside
  have found := Collection.file?_of_mem_templates defined
  have whole := TemplateFile.wellFormed_of_isErrorFree (loaded.isErrorFree sound leads found)
  exact ⟨id, leads, defined, whole.2 template ((loaded.isOfText found).templates ▸ defined)⟩

/-- A file with conditions, cases, a structured body and a text of several lines. -/
def letterText : String :=
  -- One template calls another.
  "# hi(n)\n- IF: $\x7bn\x7d\n- Hi\n- ELSE:\n- Oh\n\n# of(n)\n- SWITCH: $\x7bn\x7d\n- CASE: 1\n- one\n\n" ++
    "# card\n[Card\nby = $\x7bhi(1)\x7d|I\n]\n\n# note\n- ```a\nb```"

/-- The letter has no errors, so all of its templates are well formed. -/
theorem letter_isWellFormed :
    (TemplateFile.parse letterText "").IsErrorFree ∧
      (TemplateFile.parse letterText "").templates.map (·.name) = ["hi", "of", "card", "note"] ∧
      (∀ template ∈ (TemplateFile.parse letterText "").templates, template.IsWellFormed letterText) ∧
      ∀ name template, (name, template) ∈ (Collection.ofText letterText).registry →
        ∃ id, (Collection.ofText letterText).Leads "" id ∧ template ∈ ((Collection.ofText letterText).fileOf id).templates ∧
          template.IsWellFormed ((Collection.ofText letterText).fileOf id).content := by
  obtain ⟨clean, names⟩ : (TemplateFile.parse letterText "").IsErrorFree ∧
      (TemplateFile.parse letterText "").templates.map (·.name) = ["hi", "of", "card", "note"] := by decide +kernel
  have sound : (Collection.ofText letterText).errors.length = 0 := by decide +kernel
  refine ⟨clean, names, (errorFree_isWellFormed.1 letterText "" clean).2, ?_⟩
  exact errorFree_isWellFormed.2 (Collection.ofText letterText) ⟨_, _, _, rfl⟩ (List.eq_nil_of_length_eq_zero sound)

end Phrasebook
