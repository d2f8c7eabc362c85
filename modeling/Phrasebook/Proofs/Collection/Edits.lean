import Mathlib.Data.List.Nodup
import Phrasebook.Proofs.Collection.EditedText
import Phrasebook.Proofs.Collection.Loaded
import Phrasebook.Proofs.Template.Margins

/-! Edits of a file without errors change the templates that they are meant for and leave the rest of the file as it is. -/

namespace Phrasebook

/-- The number of lines of a text. -/
def lineCount (content : String) : Nat :=
  -- A line end at the end of the text starts no further line.
  (linesOf content.toList).length

/-- Whether a template is another one that has moved by as many lines as a text has become longer or shorter. -/
structure Template.IsShifted (old new : String) (template moved : Template) : Prop where
  /-- Only the range is another one. -/
  same : moved = { template with range := moved.range }
  /-- The first line has moved. -/
  first : moved.range.first + lineCount old = template.range.first + lineCount new
  /-- The last line has moved. -/
  last : moved.range.last + lineCount old = template.range.last + lineCount new

/-- An import without its place. -/
def Import.unplaced (entry : Import) : Import :=
  -- The line is left out.
  { entry with line := 0 }

/-- Whether a file is another one with some templates added in the place of others. -/
structure LoadedFile.IsEdited (old new : LoadedFile) (before removed added after : List Template) : Prop where
  /-- There is no error in the new text. -/
  clean : (TemplateFile.parse new.content new.id).IsErrorFree
  /-- Templates before the place stay where they are, and those behind it move with their lines. -/
  templates : ∃ count after', (∀ template ∈ removed, template.range.first = count + 1) ∧
    new.templates = before ++ added.map (·.behind count) ++ after' ∧
    List.Forall₂ (Template.IsShifted old.content new.content) after after'
  /-- The imports are the same, wherever they stand. -/
  imports : new.imports.map (·.unplaced) = old.imports.map (·.unplaced)

/-- An import that moves is the same but for its place. -/
@[simp] theorem unplaced_behind (entries : List Import) (count : Nat) :
    (entries.map (·.behind count)).map (·.unplaced) = entries.map (·.unplaced) := by
  rw [List.map_map]
  rfl

/-- The file of a collection is what its text is read as. -/
theorem Collection.IsLoaded.isOfText_file {collection : Collection} (loaded : collection.IsLoaded) : collection.file.IsOfText := by
  cases found : collection.graph.file? collection.id with
  | none =>
    -- A file that is not there is empty.
    rw [file, fileOf, found]
    refine ⟨rfl, rfl, rfl, List.Subset.refl _, ?_⟩
    rintro _ ⟨⟩
  | some file =>
    have same : collection.file = file := by rw [Collection.file, fileOf, found]; rfl
    exact same ▸ loaded.isOfText found

/-- The file of a collection has the id of the collection. -/
theorem Collection.id_file (collection : Collection) : collection.file.id = collection.id := by
  cases found : collection.graph.file? collection.id with
  | none => rw [file, fileOf, found]; rfl
  | some file =>
    have same : collection.file = file := by rw [Collection.file, fileOf, found]; rfl
    rw [same]
    simpa using List.find?_some found

/-- The file of a collection after its text has been replaced and loaded again. -/
def Collection.edited (collection : Collection) (content : String) : LoadedFile :=
  -- The new text keeps the id and the resolver of the old one.
  (Collection.load collection.graph.resolver content collection.id).root.file

section Splice

open FileReading

variable (collection : Collection) {front part back : List (List Char)} (splice : IsSpliced collection.id front part back)

include splice

/-- A file whose lines are read as three parts is another one with the templates of the second part added. -/
theorem Collection.isEdited_of_splice (removed : List Template) (count : Nat) {content : String}
    (lines : ofLines collection.id (linesOf content.toList) = ofLines collection.id (front ++ part ++ back))
    (newLines : back ≠ [] → lineCount content = front.length + part.length + back.length)
    (imports : (ofLines collection.id front).imports.map (·.unplaced) ++ (ofLines collection.id back).imports.map (·.unplaced) =
      collection.file.imports.map (·.unplaced)) (none : (ofLines collection.id part).imports = [])
    (starts : ∀ template ∈ removed, template.range.first = front.length + 1)
    (oldLines : lineCount collection.file.content = count + back.length) :
    collection.file.IsEdited (collection.edited content) (ofLines collection.id front).templates removed
      (ofLines collection.id part).templates ((ofLines collection.id back).templates.map (·.behind count)) := by
  obtain ⟨read, same, id⟩ := Collection.file_load collection.graph.resolver content collection.id
  change (collection.edited content).IsOfText at read
  change (collection.edited content).content = content at same
  change (collection.edited content).id = collection.id at id
  have after : List.Forall₂ (Template.IsShifted collection.file.content (collection.edited content).content)
      ((ofLines collection.id back).templates.map (·.behind count))
      ((ofLines collection.id back).templates.map (·.behind (front.length + part.length))) := by
    rw [List.forall₂_map_left_iff, List.forall₂_map_right_iff, List.forall₂_same]
    intro template inside
    have some : back ≠ [] := by
      rintro rfl
      cases inside
    refine ⟨rfl, ?_, ?_⟩
    · simp only [Template.behind, LineRange.behind, oldLines, same, newLines some]
      omega
    · simp only [Template.behind, LineRange.behind, oldLines, same, newLines some]
      omega
  refine ⟨?_, ⟨front.length, _, starts, ?_, after⟩, ?_⟩
  · rw [same, id, TemplateFile.isErrorFree_iff, lines]
    exact splice.clean
  · rw [read.templates, same, id, TemplateFile.parse_eq]
    dsimp only
    rw [lines, splice.templates]
  · rw [read.imports, same, id, TemplateFile.parse_eq]
    dsimp only
    rw [lines, splice.imports, none, List.map_nil, List.append_nil, List.map_append, unplaced_behind, imports]

end Splice

/-- Whether the text that is written for a template is by itself read as that template and nothing else. -/
structure Collection.Writes (collection : Collection) (name : String) (parameters : List String) (body : String)
    (template : Template) : Prop where
  /-- There is no error. -/
  clean : (TemplateFile.parse (String.ofList (formatTemplate name parameters body (lineEndOf collection.file.content.toList)))
    collection.id).IsErrorFree
  /-- There is no other template. -/
  single : (TemplateFile.parse (String.ofList (formatTemplate name parameters body (lineEndOf collection.file.content.toList)))
    collection.id).templates = [template]
  /-- The template has the name. -/
  named : template.name = name
  /-- Nothing is imported. -/
  none : (TemplateFile.parse (String.ofList (formatTemplate name parameters body (lineEndOf collection.file.content.toList)))
    collection.id).imports = []

section Edits

open FileReading

variable {collection : Collection} (loaded : collection.IsLoaded)
  (clean : (TemplateFile.parse collection.file.content collection.id).IsErrorFree)

section Lines

variable {name body : String} {parameters : List String} {template : Template}
  (writes : collection.Writes name parameters body template)

include writes

/-- The lines that are written for a template make it up. -/
theorem Collection.Writes.lines : ∃ lines,
    lines = linesOf (formatTemplate name parameters body (lineEndOf collection.file.content.toList)) ∧
    (ofLines collection.id lines).IsClean ∧ AreDetached lines ∧ (ofLines collection.id lines).templates = [template] ∧
    (ofLines collection.id lines).imports = [] := by
  obtain ⟨clean, single, _, none⟩ := writes
  rw [TemplateFile.isErrorFree_iff, String.toList_ofList] at clean
  rw [TemplateFile.parse_eq, String.toList_ofList] at single none
  exact ⟨_, rfl, clean, areDetached_of_isClean collection.id rfl rfl clean, single, none⟩

/-- The text that is written for a template ends in a line. -/
theorem Collection.Writes.endsInLine :
    EndsInLine (formatTemplate name parameters body (lineEndOf collection.file.content.toList)) := by
  have read : template.IsRead := TemplateFile.isRead_of_mem_parse (writes.single ▸ List.mem_singleton_self template)
  exact formatTemplate_endsInLine (writes.named ▸ read.spelled) parameters body _

end Lines

include loaded clean

/-- The lines of the file are read without an error, and give its templates and imports. -/
theorem Collection.IsLoaded.lines : (ofLines collection.id (linesOf collection.file.content.toList)).IsClean ∧
    (ofLines collection.id (linesOf collection.file.content.toList)).templates = collection.file.templates ∧
    (ofLines collection.id (linesOf collection.file.content.toList)).imports = collection.file.imports := by
  have read := loaded.isOfText_file
  refine ⟨(TemplateFile.isErrorFree_iff _ _).mp clean, ?_, ?_⟩
  · rw [read.templates, collection.id_file, TemplateFile.parse_eq]
  · rw [read.imports, collection.id_file, TemplateFile.parse_eq]

/-- Lines of a template that is added under a free name are read behind those of the file. -/
theorem Collection.IsLoaded.exists_appended {name body : String} {parameters : List String} {template : Template}
    (writes : collection.Writes name parameters body template)
    (free : ∀ other ∈ collection.file.templates, other.name ≠ name) :
    collection.file.addTemplate name parameters body = some (appendTemplate collection.file.content name parameters body) ∧
      ∃ front, linesOf (appendTemplate collection.file.content name parameters body).toList =
          front ++ linesOf (formatTemplate name parameters body (lineEndOf collection.file.content.toList)) ∧
        ofLines collection.id front = ofLines collection.id (linesOf collection.file.content.toList) ∧
        IsSpliced collection.id front (linesOf (formatTemplate name parameters body (lineEndOf collection.file.content.toList))) [] := by
  obtain ⟨whole, templates, imports⟩ := loaded.lines clean
  obtain ⟨lines, written, alone, detached, single, none⟩ := writes.lines
  obtain ⟨gap, blank, added⟩ := linesOf_appendTemplate writes.endsInLine
  have unknown : (collection.file.template? name).isSome = false := by
    simpa [LoadedFile.template?] using free
  refine ⟨by simp [LoadedFile.addTemplate, unknown], linesOf (trimBack collection.file.content.toList) ++ gap, added, ?_⟩
  -- White space behind the old text does not matter.
  have trimmed := ofLines_trimBack collection.id whole
  have same : ofLines collection.id (linesOf (trimBack collection.file.content.toList) ++ gap) =
      ofLines collection.id (linesOf collection.file.content.toList) := by
    rw [trimmed] at whole
    rw [ofLines_append_blank collection.id blank (.inl whole), trimmed]
  have cleanFront : (ofLines collection.id (linesOf (trimBack collection.file.content.toList) ++ gap)).IsClean := by
    rw [same]
    exact whole
  refine ⟨same, ?_⟩
  rw [← written]
  refine isSpliced_of_nodup cleanFront alone (isClean_nothing collection.id) detached trivial ?_
  have names := nodup_names collection.id (linesOf collection.file.content.toList)
  rw [templates] at names
  rw [same, templates, single, ofLines_nothing, List.append_nil, List.map_append, List.nodup_append]
  refine ⟨names, by simp, fun taken inside other among equal => ?_⟩
  obtain ⟨one, defined, rfl⟩ := List.mem_map.mp inside
  rw [List.map_singleton, List.mem_singleton, writes.named] at among
  exact free one defined (equal.trans among)

/-- A template that is added under a free name comes to the others. -/
theorem Collection.IsLoaded.addTemplate {name body : String} {parameters : List String} {template : Template}
    (writes : collection.Writes name parameters body template)
    (free : ∀ other ∈ collection.file.templates, other.name ≠ name) :
    ∃ content, collection.file.addTemplate name parameters body = some content ∧
      collection.file.IsEdited (collection.edited content) collection.file.templates [] [template] [] := by
  obtain ⟨_, templates, imports⟩ := loaded.lines clean
  obtain ⟨lines, written, _, _, single, none⟩ := writes.lines
  obtain ⟨added, front, whole, same, splice⟩ := loaded.exists_appended clean writes free
  rw [← written] at whole splice
  refine ⟨_, added, ?_⟩
  have edited := collection.isEdited_of_splice splice [] _ (by rw [whole, List.append_nil]) (fun some => absurd rfl some)
    (by rw [same, imports, ofLines_nothing, List.map_nil, List.append_nil]) none nofun (Nat.add_zero _).symm
  rwa [same, templates, single] at edited

/-- Lines that take the place of a template, and the lines of the file around it. -/
theorem Collection.IsLoaded.exists_cut {before after : List Template} {old : Template}
    (templates : collection.file.templates = before ++ old :: after) :
    ∃ front part back, linesOf collection.file.content.toList = front ++ part ++ back ∧ part ≠ [] ∧
      Cut collection.id before old after front part back ∧ ((before ++ after).map (·.name)).Nodup ∧
      old.range = ⟨front.length + 1, front.length + part.length⟩ ∧ collection.file.template? old.name = some old ∧
      (ofLines collection.id front).imports.map (·.unplaced) ++ (ofLines collection.id back).imports.map (·.unplaced) =
        collection.file.imports.map (·.unplaced) := by
  obtain ⟨whole, same, imports⟩ := loaded.lines clean
  have names := nodup_names collection.id (linesOf collection.file.content.toList)
  rw [same, templates] at names
  obtain ⟨front, part, back, lines, cut⟩ := FileReading.exists_cut whole (same.trans templates)
  obtain ⟨alone, is, place⟩ := cut.alone
  have some : part ≠ [] := by
    rintro rfl
    have single := is.templates
    rw [ofLines_nothing] at single
    cases single
  have others : ((before ++ after).map (·.name)).Nodup := by
    rw [List.map_append, List.map_cons, List.nodup_middle, List.nodup_cons] at names
    rw [List.map_append]
    exact names.2
  refine ⟨front, part, back, lines, some, cut, others, ?_, ?_, ?_⟩
  · rw [place, Template.behind, LineRange.behind, is.range]
  · rw [LoadedFile.template?, templates, List.find?_eq_some_iff_append]
    refine ⟨by simp, before, after, rfl, fun other inside => ?_⟩
    rw [List.map_append, List.map_cons, List.nodup_append] at names
    simpa using names.2.2 _ (List.mem_map_of_mem inside) _ List.mem_cons_self
  · have splice : IsSpliced collection.id front part back := by
      refine isSpliced_of_nodup cut.cleanFront is.clean cut.cleanBack is.detached cut.detached ?_
      rw [cut.before, is.templates]
      rw [cut.after, place] at names
      simpa [Function.comp_def] using names
    rw [← imports, lines, splice.imports, is.imports, List.map_nil, List.append_nil, List.map_append, unplaced_behind]

/-- Lines of a template that takes the place of another one are read between those in front of it and behind it. -/
theorem Collection.IsLoaded.exists_replaced {name body : String} {parameters : List String} {template : Template}
    (writes : collection.Writes name parameters body template) {before after : List Template} {old : Template}
    (templates : collection.file.templates = before ++ old :: after) (free : ∀ other ∈ before ++ after, other.name ≠ name)
    (keeps : KeepsLines (lineEndOf collection.file.content.toList)
      (formatTemplate name parameters body (lineEndOf collection.file.content.toList))) :
    ∃ front part back, linesOf collection.file.content.toList = front ++ part ++ back ∧ part ≠ [] ∧
      Cut collection.id before old after front part back ∧ old.range = ⟨front.length + 1, front.length + part.length⟩ ∧
      (ofLines collection.id front).imports.map (·.unplaced) ++ (ofLines collection.id back).imports.map (·.unplaced) =
        collection.file.imports.map (·.unplaced) ∧
      collection.file.updateTemplate old.name name parameters body = some (replaceLines collection.file.content old.range
        (formatTemplate name parameters body (lineEndOf collection.file.content.toList))) ∧
      linesOf (replaceLines collection.file.content old.range
        (formatTemplate name parameters body (lineEndOf collection.file.content.toList))).toList =
          front ++ linesOf (formatTemplate name parameters body (lineEndOf collection.file.content.toList)) ++ back ∧
      IsSpliced collection.id front
        (linesOf (formatTemplate name parameters body (lineEndOf collection.file.content.toList))) back := by
  obtain ⟨front, part, back, lines, some, cut, names, range, defined, imports⟩ := loaded.exists_cut clean templates
  obtain ⟨new, written, alone, detached, single, none⟩ := writes.lines
  have replaced := linesOf_replaceLines lines some writes.endsInLine keeps
  rw [← range] at replaced
  refine ⟨front, part, back, lines, some, cut, range, imports, congrArg (Option.map _) defined, replaced, ?_⟩
  rw [← written]
  refine isSpliced_of_nodup cut.cleanFront alone cut.cleanBack detached cut.detached ?_
  rw [cut.after, List.map_append, names_behind] at names
  rw [cut.before, single, List.append_assoc, List.map_append, List.singleton_append, List.map_cons, List.nodup_middle,
    List.nodup_cons, writes.named]
  refine ⟨fun inside => ?_, names⟩
  rw [← names_behind (ofLines collection.id back).templates (front.length + part.length), ← cut.after,
    ← List.map_append] at inside
  obtain ⟨other, among, same⟩ := List.mem_map.mp inside
  exact free other among same

/-- A template that is replaced by one with a free name gives way to it. -/
theorem Collection.IsLoaded.updateTemplate {name body : String} {parameters : List String} {template : Template}
    (writes : collection.Writes name parameters body template) {before after : List Template} {old : Template}
    (templates : collection.file.templates = before ++ old :: after) (free : ∀ other ∈ before ++ after, other.name ≠ name)
    (keeps : KeepsLines (lineEndOf collection.file.content.toList)
      (formatTemplate name parameters body (lineEndOf collection.file.content.toList))) :
    ∃ content, collection.file.updateTemplate old.name name parameters body = some content ∧
      collection.file.IsEdited (collection.edited content) before [old] [template] after := by
  obtain ⟨front, part, back, lines, some, cut, range, imports, updated, replaced, splice⟩ :=
    loaded.exists_replaced clean writes templates free keeps
  obtain ⟨new, written, _, _, single, none⟩ := writes.lines
  rw [← written] at replaced splice
  refine ⟨_, updated, ?_⟩
  have oldLines : lineCount collection.file.content = front.length + part.length + back.length := by
    rw [lineCount, lines, List.length_append, List.length_append]
  have newLines : lineCount (replaceLines collection.file.content old.range
      (formatTemplate name parameters body (lineEndOf collection.file.content.toList))) =
        front.length + new.length + back.length := by
    rw [lineCount, replaced, List.length_append, List.length_append]
  have edited := collection.isEdited_of_splice splice [old] (front.length + part.length)
    (congrArg (ofLines collection.id) replaced) (fun _ => newLines) imports none (by simp [range]) oldLines
  rwa [cut.before, single, ← cut.after] at edited

/-- A template that is deleted leaves the others. -/
theorem Collection.IsLoaded.deleteTemplate {before after : List Template} {old : Template}
    (templates : collection.file.templates = before ++ old :: after) :
    ∃ content, collection.file.deleteTemplate old.name = some content ∧
      collection.file.IsEdited (collection.edited content) before [old] [] after := by
  obtain ⟨front, part, back, lines, some, cut, names, range, defined, imports⟩ := loaded.exists_cut clean templates
  obtain ⟨front', blanks, back', rfl, blank, removed, shape⟩ := linesOf_removeLines lines some
  rw [← range] at removed
  refine ⟨_, congrArg (Option.map _) defined, ?_⟩
  have detached := detached_of_append_blank blank cut.detached
  have continues := ofLines_blank_append collection.id blank detached
  have cleanBack : (ofLines collection.id back').IsClean := (continues.isClean_iff.mp cut.cleanBack).2
  have splice : IsSpliced collection.id front [] back' := by
    refine isSpliced_of_nodup cut.cleanFront (isClean_nothing collection.id) cleanBack trivial detached ?_
    rw [cut.after, List.map_append, names_behind, continues.templates] at names
    rw [cut.before, ofLines_nothing, List.append_nil, List.map_append]
    simpa [Function.comp_def] using names
  have lines' : ofLines collection.id (linesOf (removeLines collection.file.content old.range).toList) =
      ofLines collection.id (front ++ [] ++ back') := by
    rw [removed, List.append_nil]
    rcases shape with rfl | ⟨rfl, trail, blank, rfl⟩
    · rfl
    · -- Blank lines that are left at the end do not matter.
      rw [List.append_nil, List.append_nil]
      exact (ofLines_append_blank collection.id blank (.inr cut.cleanFront)).symm
  have oldLines : lineCount collection.file.content = front.length + part.length + blanks.length + back'.length := by
    rw [lineCount, lines]
    simp [Nat.add_assoc]
  have newLines : back' ≠ [] → lineCount (removeLines collection.file.content old.range) =
      front.length + ([] : List (List Char)).length + back'.length := by
    intro some
    obtain rfl := shape.resolve_right fun absent => some absent.1
    rw [lineCount, removed, List.length_append]
    rfl
  have imports' : (ofLines collection.id front).imports.map (·.unplaced) ++
      (ofLines collection.id back').imports.map (·.unplaced) = collection.file.imports.map (·.unplaced) := by
    rw [← imports, continues.imports, List.nil_append, unplaced_behind]
  have edited := collection.isEdited_of_splice splice [old] (front.length + part.length + blanks.length) lines' newLines imports'
    rfl (by simp [range]) oldLines
  have after' : (ofLines collection.id back').templates.map (·.behind (front.length + part.length + blanks.length)) = after := by
    rw [cut.after, continues.templates, List.nil_append, List.map_map]
    simp [Function.comp_def]
  rwa [cut.before, after'] at edited

end Edits

/-- **Edits are local.** In a file without errors, a template is added behind the others, replaced by one whose name is free, or
    deleted, and everything else stays as it is: the other templates keep their names, parameters and bodies and move with their
    lines, the imports are the same, and the new text has no errors. What is written for a template must by itself be read as
    that template; to replace another one, no line of it may end with a carriage return that a lone line feed would take up. -/
theorem edits_areLocal {collection : Collection} (loaded : collection.IsLoaded)
    (clean : (TemplateFile.parse collection.file.content collection.id).IsErrorFree) :
    (∀ name parameters body template, collection.Writes name parameters body template →
      ((∀ other ∈ collection.file.templates, other.name ≠ name) →
        ∃ content, collection.file.addTemplate name parameters body = some content ∧
          collection.file.IsEdited (collection.edited content) collection.file.templates [] [template] []) ∧
      ∀ before old after, collection.file.templates = before ++ old :: after → (∀ other ∈ before ++ after, other.name ≠ name) →
        KeepsLines (lineEndOf collection.file.content.toList)
          (formatTemplate name parameters body (lineEndOf collection.file.content.toList)) →
        ∃ content, collection.file.updateTemplate old.name name parameters body = some content ∧
          collection.file.IsEdited (collection.edited content) before [old] [template] after) ∧
    ∀ before old after, collection.file.templates = before ++ old :: after →
      ∃ content, collection.file.deleteTemplate old.name = some content ∧
        collection.file.IsEdited (collection.edited content) before [old] [] after := by
  refine ⟨fun name parameters body template writes => ⟨fun free => loaded.addTemplate clean writes free, ?_⟩, ?_⟩
  · exact fun before old after templates free keeps => loaded.updateTemplate clean writes templates free keeps
  · exact fun before old after templates => loaded.deleteTemplate clean templates

/-- A file with three templates and a comment. -/
def notebook : Collection :=
  -- The comment belongs to no template.
  .ofText "# a\n- x\n\n# t\n- y\n\n> c\n# b\n- z\n"

/-- Templates of the notebook are added, replaced and deleted. -/
theorem notebook_edits :
    notebook.IsLoaded ∧ (TemplateFile.parse notebook.file.content notebook.id).IsErrorFree ∧
      ∃ first old last template, notebook.file.templates = [first, old, last] ∧ old.name = "t" ∧
        notebook.Writes "u" ["x"] "- 1\n- 2" template ∧
        (∃ content, notebook.file.addTemplate "u" ["x"] "- 1\n- 2" = some content ∧
          notebook.file.IsEdited (notebook.edited content) [first, old, last] [] [template] []) ∧
        (∃ content, notebook.file.updateTemplate "t" "u" ["x"] "- 1\n- 2" = some content ∧
          notebook.file.IsEdited (notebook.edited content) [first] [old] [template] [last]) ∧
        ∃ content, notebook.file.deleteTemplate "t" = some content ∧
          notebook.file.IsEdited (notebook.edited content) [first] [old] [] [last] := by
  have loaded : notebook.IsLoaded := ⟨_, _, _, rfl⟩
  have clean : (TemplateFile.parse notebook.file.content notebook.id).IsErrorFree := by decide +kernel
  obtain ⟨first, old, last, templates⟩ := List.length_eq_three.mp (show notebook.file.templates.length = 3 by decide +kernel)
  have names : notebook.file.templates.map (·.name) = ["a", "t", "b"] := by decide +kernel
  have keeps : KeepsLines (lineEndOf notebook.file.content.toList)
      (formatTemplate "u" ["x"] "- 1\n- 2" (lineEndOf notebook.file.content.toList)) := by
    unfold KeepsLines
    decide +kernel
  obtain ⟨template, single⟩ := List.length_eq_one_iff.mp (show (TemplateFile.parse (String.ofList (formatTemplate "u" ["x"]
    "- 1\n- 2" (lineEndOf notebook.file.content.toList))) notebook.id).templates.length = 1 by decide +kernel)
  have named : (TemplateFile.parse (String.ofList (formatTemplate "u" ["x"] "- 1\n- 2" (lineEndOf
    notebook.file.content.toList))) notebook.id).templates.map (·.name) = ["u"] := by decide +kernel
  rw [single] at named
  have writes : notebook.Writes "u" ["x"] "- 1\n- 2" template :=
    ⟨by decide +kernel, single, List.singleton_inj.mp named, by decide +kernel⟩
  rw [templates] at names
  injection names with a others
  injection others with t others
  injection others with b _
  have free : ∀ other ∈ notebook.file.templates, other.name ≠ "u" := by
    simp [templates, show first.name = "a" from a, show old.name = "t" from t, show last.name = "b" from b]
  obtain ⟨written, deleted⟩ := edits_areLocal loaded clean
  obtain ⟨added, updated⟩ := written "u" ["x"] "- 1\n- 2" template writes
  have free' : ∀ other ∈ [first] ++ [last], other.name ≠ "u" :=
    fun other inside => free other (by rw [templates]; exact (List.Sublist.cons_cons first (.cons old (.refl _))).subset inside)
  refine ⟨loaded, clean, first, old, last, template, templates, t, writes, ?_, ?_, ?_⟩
  · have add := added free
    rwa [templates] at add
  · have update := updated [first] old [last] templates free' keeps
    rwa [show old.name = "t" from t] at update
  · have delete := deleted [first] old [last] templates
    rwa [show old.name = "t" from t] at delete

/-- The texts of a body of alternatives, as far as they are literal. -/
def Template.literals (template : Template) : List String :=
  -- Other bodies are left out.
  match template.body with
  | .normal candidates => candidates.flatMap fun text => text.filterMap fun segment =>
    match segment with
    | .literal text => some text
    | .expression _ => none
  | _ => []

/-- A file with a single template. -/
def label : Collection :=
  -- Its line ends are lone line feeds.
  .ofText "# t\n- a"

/-- A template is not replaced as it is written where a line of a text of several lines ends with carriage returns. -/
theorem carriageReturn_isLost :
    label.IsLoaded ∧ (TemplateFile.parse label.file.content label.id).IsErrorFree ∧
      ∃ old template, label.file.templates = [old] ∧ old.name = "t" ∧ label.Writes "t" [] "- ```a\nx\r\r\r\nb```" template ∧
        ¬ ∃ content, label.file.updateTemplate "t" "t" [] "- ```a\nx\r\r\r\nb```" = some content ∧
          label.file.IsEdited (label.edited content) [] [old] [template] [] := by
  obtain ⟨old, templates⟩ := List.length_eq_one_iff.mp (show label.file.templates.length = 1 by decide +kernel)
  have name : label.file.templates.map (·.name) = ["t"] := by decide +kernel
  obtain ⟨template, single⟩ := List.length_eq_one_iff.mp (show (TemplateFile.parse (String.ofList (formatTemplate "t" []
    "- ```a\nx\r\r\r\nb```" (lineEndOf label.file.content.toList))) label.id).templates.length = 1 by decide +kernel)
  have alone : (TemplateFile.parse (String.ofList (formatTemplate "t" [] "- ```a\nx\r\r\r\nb```" (lineEndOf
    label.file.content.toList))) label.id).templates.map (fun template => (template.name, template.literals)) =
      [("t", ["a\nx\r\nb"])] := by decide +kernel
  have updated : (label.file.updateTemplate "t" "t" [] "- ```a\nx\r\r\r\nb```").map (fun content =>
      (label.edited content).templates.map (·.literals)) = some [["a\nx\nb"]] := by decide +kernel
  rw [single] at alone
  obtain ⟨named, literals⟩ := Prod.mk.inj (List.singleton_inj.mp alone)
  rw [templates] at name
  have loaded : label.IsLoaded := ⟨_, _, _, rfl⟩
  have clean : (TemplateFile.parse label.file.content label.id).IsErrorFree := by decide +kernel
  have writes : label.Writes "t" [] "- ```a\nx\r\r\r\nb```" template := ⟨by decide +kernel, single, named, by decide +kernel⟩
  refine ⟨loaded, clean, old, template, templates, List.singleton_inj.mp name, writes, ?_⟩
  rintro ⟨content, result, edited⟩
  obtain ⟨count, after, _, same, none⟩ := edited.templates
  cases none
  rw [result, Option.map_some, same] at updated
  have literals' : template.literals = ["a\nx\nb"] := List.singleton_inj.mp (Option.some.inj updated)
  rw [literals'] at literals
  exact absurd literals (by decide)

end Phrasebook
