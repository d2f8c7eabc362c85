import Phrasebook.Proofs.Collection.Edits
import Phrasebook.Proofs.Collection.Splices

/-! Deleting a template undoes adding it, and replacing a template once more by the same one changes nothing. -/

namespace Phrasebook

/-- Whether the text that is written for a template is by itself read as that template, all of its lines included. -/
structure Collection.Fills (collection : Collection) (name : String) (parameters : List String) (body : String)
    (template : Template) : Prop where
  /-- There is no error. -/
  clean : (TemplateFile.parse (String.ofList (formatTemplate name parameters body (lineEndOf collection.file.content.toList)))
    collection.id).IsErrorFree
  /-- There is no other template. -/
  single : (TemplateFile.parse (String.ofList (formatTemplate name parameters body (lineEndOf collection.file.content.toList)))
    collection.id).templates = [template]
  /-- The template has the name. -/
  named : template.name = name
  /-- No line in front of the template or behind it is left. -/
  covers : template.range =
    ⟨1, (linesOf (formatTemplate name parameters body (lineEndOf collection.file.content.toList))).length⟩

section Laws

open FileReading

variable {collection : Collection}

section Fills

variable {name body : String} {parameters : List String} {template : Template}
  (fills : collection.Fills name parameters body template)

include fills

/-- The lines that are written for a template make it up. -/
theorem Collection.Fills.isTemplate : IsTemplate collection.id
    (linesOf (formatTemplate name parameters body (lineEndOf collection.file.content.toList))) template := by
  have lines := fills.clean
  have single := fills.single
  rw [TemplateFile.isErrorFree_iff, String.toList_ofList] at lines
  rw [TemplateFile.parse_eq, String.toList_ofList] at single
  exact isTemplate_of_covers lines single fills.covers

/-- A template that takes all of its text imports nothing. -/
theorem Collection.Fills.writes : collection.Writes name parameters body template := by
  refine ⟨fills.clean, fills.single, fills.named, ?_⟩
  rw [TemplateFile.parse_eq, String.toList_ofList]
  exact fills.isTemplate.imports

end Fills

/-- A template of a text is found by its name after the text has been loaded. -/
theorem Collection.template?_edited {content : String} {template : Template}
    (inside : template ∈ (ofLines collection.id (linesOf content.toList)).templates) :
    (collection.edited content).template? template.name = some template := by
  obtain ⟨read, same, id⟩ := Collection.file_load collection.graph.resolver content collection.id
  have templates : (collection.edited content).templates = (ofLines collection.id (linesOf content.toList)).templates := by
    rw [edited, read.templates, same, id, TemplateFile.parse_eq]
  have names := nodup_names collection.id (linesOf content.toList)
  rw [LoadedFile.template?, templates]
  cases found : (ofLines collection.id (linesOf content.toList)).templates.find? (·.name == template.name) with
  | none =>
    have other := List.find?_eq_none.mp found template inside
    simp at other
  | some first =>
    have name : first.name = template.name := by simpa using List.find?_some found
    rw [List.inj_on_of_nodup_map names (List.mem_of_find?_eq_some found) inside name]

variable (loaded : collection.IsLoaded) (clean : (TemplateFile.parse collection.file.content collection.id).IsErrorFree)

include loaded clean

/-- **Deleting undoes adding.** A template that is added to a file without errors, and deleted again, leaves the text of the file
    without the white space at its end and with one line end there, or nothing where there is nothing but white space. What is
    written for the template must by itself be read as that template, all of its lines included. -/
theorem deleteTemplate_addTemplate {name body : String} {parameters : List String} {template : Template}
    (fills : collection.Fills name parameters body template) (free : ∀ other ∈ collection.file.templates, other.name ≠ name) :
    ∃ content, collection.file.addTemplate name parameters body = some content ∧
      (collection.edited content).deleteTemplate name = some (endedOnce collection.file.content) := by
  obtain ⟨added, front, lines, _, splice⟩ := loaded.exists_appended clean fills.writes free
  refine ⟨_, added, ?_⟩
  obtain ⟨_, same, _⟩ := Collection.file_load collection.graph.resolver
    (appendTemplate collection.file.content name parameters body) collection.id
  -- The template stands behind the lines of the old text.
  have inside : template.behind front.length ∈ (ofLines collection.id
      (linesOf (appendTemplate collection.file.content name parameters body).toList)).templates := by
    have templates := splice.templates
    rw [List.append_nil, ← lines] at templates
    rw [templates, fills.isTemplate.templates]
    simp
  have found := Collection.template?_edited inside
  rw [Template.name_behind, fills.named] at found
  rw [LoadedFile.deleteTemplate, found, Option.map_some, Collection.edited, same, Template.behind, LineRange.behind, fills.covers]
  exact congrArg some (removeLines_appendTemplate fills.writes.endsInLine lines)

/-- **Updating twice is updating once.** A template that is replaced in a file without errors, and replaced again by the same
    one, leaves the text as it was after the first time. What is written for the template must by itself be read as that
    template, all of its lines included, and no line of it may end with a carriage return that a lone line feed would take up. -/
theorem updateTemplate_updateTemplate {name body : String} {parameters : List String} {old template : Template}
    (defined : collection.file.template? name = some old) (fills : collection.Fills name parameters body template)
    (keeps : KeepsLines (lineEndOf collection.file.content.toList)
      (formatTemplate name parameters body (lineEndOf collection.file.content.toList))) :
    ∃ content, collection.file.updateTemplate name name parameters body = some content ∧
      (collection.edited content).updateTemplate name name parameters body = some content := by
  obtain ⟨named, before, after, templates, _⟩ := List.find?_eq_some_iff_append.mp defined
  obtain rfl : old.name = name := by simpa using named
  have free : ∀ other ∈ before ++ after, other.name ≠ old.name := by
    have names := nodup_names collection.id (linesOf collection.file.content.toList)
    rw [(loaded.lines clean).2.1, templates, List.map_append, List.map_cons, List.nodup_middle, List.nodup_cons,
      ← List.map_append] at names
    exact fun other inside same => names.1 (same ▸ List.mem_map_of_mem inside)
  obtain ⟨front, part, back, lines, some, cut, range, _, updated, replaced, splice⟩ :=
    loaded.exists_replaced clean fills.writes templates free keeps
  refine ⟨_, updated, ?_⟩
  obtain ⟨_, same, _⟩ := Collection.file_load collection.graph.resolver (replaceLines collection.file.content old.range
    (formatTemplate old.name parameters body (lineEndOf collection.file.content.toList))) collection.id
  -- The new template stands where the old one stood.
  have inside : template.behind front.length ∈ (ofLines collection.id (linesOf (replaceLines collection.file.content old.range
      (formatTemplate old.name parameters body (lineEndOf collection.file.content.toList))).toList)).templates := by
    rw [replaced, splice.templates, fills.isTemplate.templates]
    simp
  have found := Collection.template?_edited inside
  rw [Template.name_behind, fills.named] at found
  rw [LoadedFile.updateTemplate, found, Option.map_some, Collection.edited, same, Template.behind, LineRange.behind, fills.covers]
  rw [range]
  exact congrArg Option.some (replaceLines_twice lines some fills.writes.endsInLine keeps rfl)

end Laws

/-- Whether a template takes all lines of its text can be told from names and ranges. -/
theorem Collection.exists_fills {collection : Collection} {name body : String} {parameters : List String}
    (clean : (TemplateFile.parse (String.ofList (formatTemplate name parameters body
      (lineEndOf collection.file.content.toList))) collection.id).IsErrorFree)
    (alone : (TemplateFile.parse (String.ofList (formatTemplate name parameters body
      (lineEndOf collection.file.content.toList))) collection.id).templates.map (fun template => (template.name, template.range)) =
        [(name, ⟨1, (linesOf (formatTemplate name parameters body (lineEndOf collection.file.content.toList))).length⟩)]) :
    ∃ template, collection.Fills name parameters body template := by
  obtain ⟨template, single, same⟩ := List.map_eq_singleton_iff.mp alone
  obtain ⟨named, covers⟩ := Prod.mk.inj same
  exact ⟨template, clean, single, named, covers⟩

/-- A file with white space at its end. -/
def notice : Collection :=
  -- A carriage return stands in front of each line feed.
  .ofText "# a\r\n- x\r\n\r\n  "

/-- A template is added to the notice and deleted again. -/
theorem notice_restored :
    notice.IsLoaded ∧ (TemplateFile.parse notice.file.content notice.id).IsErrorFree ∧
      (∃ template, notice.Fills "t" ["n"] "- 1\n- 2" template) ∧ (∀ other ∈ notice.file.templates, other.name ≠ "t") ∧
      ∃ content, notice.file.addTemplate "t" ["n"] "- 1\n- 2" = some content ∧
        (notice.edited content).deleteTemplate "t" = some "# a\r\n- x\r\n" := by
  have loaded : notice.IsLoaded := ⟨_, _, _, rfl⟩
  have clean : (TemplateFile.parse notice.file.content notice.id).IsErrorFree := by decide +kernel
  have fills : ∃ template, notice.Fills "t" ["n"] "- 1\n- 2" template :=
    Collection.exists_fills (by decide +kernel) (by decide +kernel)
  have free : ∀ other ∈ notice.file.templates, other.name ≠ "t" := by decide +kernel
  have kept : endedOnce notice.file.content = "# a\r\n- x\r\n" := by decide +kernel
  have ⟨template, filled⟩ := fills
  have restored := deleteTemplate_addTemplate loaded clean filled free
  rw [kept] at restored
  exact ⟨loaded, clean, fills, free, restored⟩

/-- A template of the notebook is replaced twice by one with a comment inside. -/
theorem notebook_updated_twice :
    notebook.IsLoaded ∧ (TemplateFile.parse notebook.file.content notebook.id).IsErrorFree ∧
      (∃ old, notebook.file.template? "t" = some old) ∧ (∃ template, notebook.Fills "t" ["n"] "- 1\n> c\n\n- 2" template) ∧
      KeepsLines (lineEndOf notebook.file.content.toList)
        (formatTemplate "t" ["n"] "- 1\n> c\n\n- 2" (lineEndOf notebook.file.content.toList)) ∧
      ∃ content, notebook.file.updateTemplate "t" "t" ["n"] "- 1\n> c\n\n- 2" = some content ∧
        (notebook.edited content).updateTemplate "t" "t" ["n"] "- 1\n> c\n\n- 2" = some content := by
  have loaded : notebook.IsLoaded := ⟨_, _, _, rfl⟩
  have clean : (TemplateFile.parse notebook.file.content notebook.id).IsErrorFree := by decide +kernel
  have defined : ∃ old, notebook.file.template? "t" = some old := Option.isSome_iff_exists.mp (by decide +kernel)
  have fills : ∃ template, notebook.Fills "t" ["n"] "- 1\n> c\n\n- 2" template :=
    Collection.exists_fills (by decide +kernel) (by decide +kernel)
  have keeps : KeepsLines (lineEndOf notebook.file.content.toList)
      (formatTemplate "t" ["n"] "- 1\n> c\n\n- 2" (lineEndOf notebook.file.content.toList)) := by
    unfold KeepsLines
    decide +kernel
  have ⟨old, found⟩ := defined
  have ⟨template, filled⟩ := fills
  exact ⟨loaded, clean, defined, fills, keeps, updateTemplate_updateTemplate loaded clean found filled keeps⟩

/-- A comment behind the last line of a template is no part of it, and comes once more when the template is replaced again. -/
theorem comment_isRepeated :
    label.IsLoaded ∧ (TemplateFile.parse label.file.content label.id).IsErrorFree ∧
      (∃ old, label.file.template? "t" = some old) ∧ (∃ template, label.Writes "t" [] "- x\n> note" template) ∧
      ∃ once twice, label.file.updateTemplate "t" "t" [] "- x\n> note" = some once ∧
        (label.edited once).updateTemplate "t" "t" [] "- x\n> note" = some twice ∧ twice ≠ once := by
  have writes : ∃ template, label.Writes "t" [] "- x\n> note" template := by
    obtain ⟨template, single, named⟩ := List.map_eq_singleton_iff.mp (show (TemplateFile.parse (String.ofList (formatTemplate "t" []
      "- x\n> note" (lineEndOf label.file.content.toList))) label.id).templates.map (·.name) = ["t"] by decide +kernel)
    exact ⟨template, by decide +kernel, single, named, by decide +kernel⟩
  exact ⟨⟨_, _, _, rfl⟩, by decide +kernel, Option.isSome_iff_exists.mp (by decide +kernel), writes, "# t\n- x\n> note",
    "# t\n- x\n> note\n> note", by decide +kernel, by decide +kernel, by decide⟩

end Phrasebook
