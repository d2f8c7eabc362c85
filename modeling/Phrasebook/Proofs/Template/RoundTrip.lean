import Phrasebook.Proofs.Template.FileLines

/-! A file that was written for imports and templates is read back as these imports and templates. -/

namespace Phrasebook

namespace FileReading

/-- A reading after more lines, behind a number of other lines. -/
def readLines (reading : FileReading) (source : String) (start : Nat) (lines : List (List Char)) : FileReading :=
  -- Lines are counted from one.
  (lines.zipIdx start).foldl (fun reading (raw, position) => reading.line source (position + 1) raw) reading

/-- Whether given imports and templates, and nothing else but warnings, have been read. -/
structure Has (reading : FileReading) (imports : List Import) (templates : List Template) : Prop where
  /-- No template is being read. -/
  idle : reading.pending = none
  /-- No text of several lines is being read. -/
  unfenced : reading.fenced = none
  /-- There were no option lines. -/
  options : reading.options = []
  /-- Everything that was found is a warning. -/
  warnings : ∀ finding ∈ reading.findings, finding.severity = .warning
  /-- The imports are the given ones. -/
  imports : reading.imports = imports
  /-- The templates are the given ones. -/
  templates : reading.templates = templates

/-- Whether given imports and templates will have been read when the last template is finished. -/
structure WillHave (reading : FileReading) (source : String) (imports : List Import) (templates : List Template) : Prop where
  /-- No text of several lines is being read. -/
  unfenced : reading.fenced = none
  /-- Finishing the last template completes them. -/
  finish : (reading.finishTemplate source).Has imports templates

section Runs

variable {reading : FileReading} (source : String) (start : Nat)

/-- The first line is read first. -/
theorem readLines_cons (line : List Char) (lines : List (List Char)) :
    reading.readLines source start (line :: lines) =
      (reading.line source (start + 1) line).readLines source (start + 1) lines :=
  rfl

/-- Lines are read one part after the other. -/
theorem readLines_append (front back : List (List Char)) :
    reading.readLines source start (front ++ back) =
      (reading.readLines source start front).readLines source (start + front.length) back := by
  simp only [readLines, List.zipIdx_append, List.foldl_append]

variable (unfenced : reading.fenced = none) (layout : Layout)

include unfenced

/-- Lines with a dash are the lines of a plain body. -/
theorem readLines_dashed (template : Template) (first : Nat) (lines : List BodyLine) {texts : List (List Char)}
    (dashable : ∀ text ∈ texts, IsDashable text) :
    ∃ more : List BodyLine, more.map (·.text) = texts ∧
      (reading.drafting template ⟨first, start⟩ (.plain lines)).readLines source start
          (texts.map fun text => '-' :: ' ' :: text) =
        reading.drafting template ⟨first, start + texts.length⟩ (.plain (lines ++ more)) := by
  induction texts generalizing start lines with
  | nil => exact ⟨[], rfl, by rw [List.append_nil]; rfl⟩
  | cons text texts later =>
    obtain ⟨here, others⟩ := List.forall_mem_cons.mp dashable
    obtain ⟨more, same, run⟩ := later (start + 1) (lines ++ [⟨start + 1, text⟩]) others
    refine ⟨⟨start + 1, text⟩ :: more, by rw [List.map_cons, same], ?_⟩
    rw [List.map_cons, readLines_cons, line_dash unfenced source _ template _ lines here.trimmed here.unfenced,
      Nat.max_eq_right (Nat.le_succ start), run, List.append_assoc, List.length_cons, Nat.add_right_comm, Nat.add_assoc]
    rfl

/-- Lines between brackets are the lines of a structured body. -/
theorem readLines_inside (template : Template) (first : Nat) (typeName : String) (lines : List BodyLine)
    {parts : List StructureLine} (writable : ∀ part ∈ parts, part.IsWritable) :
    ∃ more : List BodyLine, more.map (·.text) = (parts.map fun part => trimChars (layout.structureLine part)) ∧
      (reading.drafting template ⟨first, start⟩ (.structured typeName lines false)).readLines source start
          (parts.map layout.structureLine) =
        reading.drafting template ⟨first, start + parts.length⟩ (.structured typeName (lines ++ more) false) := by
  induction parts generalizing start lines with
  | nil => exact ⟨[], rfl, by rw [List.append_nil]; rfl⟩
  | cons part parts later =>
    obtain ⟨here, others⟩ := List.forall_mem_cons.mp writable
    obtain ⟨_, c, rest, begins, inner⟩ := shape_structureLine layout here
    obtain ⟨more, same, run⟩ :=
      later (start + 1) (lines ++ [⟨start + 1, trimChars (layout.structureLine part)⟩]) others
    refine ⟨⟨start + 1, trimChars (layout.structureLine part)⟩ :: more, by rw [List.map_cons, same, List.map_cons], ?_⟩
    rw [List.map_cons, readLines_cons, line_inside unfenced source _ template _ typeName lines begins inner, run,
      List.append_assoc, List.length_cons, Nat.add_right_comm, Nat.add_assoc]
    rfl

/-- The lines of a body make up a draft of it. -/
theorem readLines_body (template : Template) (first : Nat) {body : Body} (writable : body.IsWritable) :
    ∃ draft, Draft.Holds layout body draft ∧
      (reading.drafting template ⟨first, start⟩ (.plain [])).readLines source start (layout.body body) =
        reading.drafting template ⟨first, start + (layout.body body).length⟩ draft := by
  have plain (bare : ∀ typeName parts, body ≠ .structured typeName parts)
      (dashed : layout.body body = (layout.dashedTexts body).map fun text => '-' :: ' ' :: text) :
      ∃ draft, Draft.Holds layout body draft ∧
        (reading.drafting template ⟨first, start⟩ (.plain [])).readLines source start (layout.body body) =
          reading.drafting template ⟨first, start + (layout.body body).length⟩ draft := by
    obtain ⟨lines, same, run⟩ :=
      readLines_dashed source start unfenced template first [] (isDashable_of_mem_dashedTexts layout writable)
    refine ⟨.plain lines, ⟨bare, same⟩, ?_⟩
    rw [dashed, run, List.length_map, List.nil_append]
  cases body with
  | normal candidates => exact plain nofun rfl
  | conditional branches => exact plain nofun rfl
  | switch subject cases => exact plain nofun rfl
  | structured typeName parts =>
    obtain ⟨proper, writable⟩ := writable
    obtain ⟨lines, same, run⟩ := readLines_inside source (start + 1) unfenced layout template first typeName [] writable
    refine ⟨.structured typeName lines true, ⟨rfl, parts, rfl, same⟩, ?_⟩
    have count : start + (layout.body (.structured typeName parts)).length = start + 1 + parts.length + 1 := by
      simp only [Layout.body, List.length_cons, List.length_append, List.length_map, List.length_nil]
      omega
    rw [count, Layout.body, readLines_cons, line_opening unfenced source _ template _ proper, readLines_append, run,
      readLines_cons, List.length_map, List.nil_append, line_closing unfenced source _ template _ typeName lines]
    rfl

/-- The lines of a template finish the one before it and make up a draft of its body. -/
theorem readLines_template (quiet : (reading.finishTemplate source).fenced = none) {template : Template}
    (writable : template.IsWritable) :
    ∃ draft, Draft.Holds layout template.body draft ∧
      reading.readLines source start (layout.template template) =
        (reading.finishTemplate source).drafting template ⟨start + 1, start + (layout.template template).length⟩ draft := by
  obtain ⟨draft, holds, run⟩ := readLines_body source (start + 1) quiet layout template (start + 1) writable.body
  refine ⟨draft, holds, ?_⟩
  have count : start + (layout.template template).length = start + 1 + (layout.body template.body).length := by
    simp only [Layout.template, List.length_cons]
    omega
  rw [count, Layout.template, readLines_cons, line_header unfenced source _ writable (shape_header writable).1]
  exact run

end Runs

section Templates

variable {reading : FileReading} {source : String} {imports : List Import} {templates : List Template}

/-- A template whose draft is complete is added when it is finished. -/
theorem Has.finishTemplate {layout : Layout} (has : reading.Has imports templates) {template : Template} {draft : Draft}
    (holds : Draft.Holds layout template.body draft) (writable : template.body.IsWritable) (range : LineRange)
    (new : ∀ other ∈ templates, other.name ≠ template.name) :
    ((reading.drafting template range draft).finishTemplate source).Has imports
      (templates ++ [{ template with source := source, range := range }]) := by
  have warns := holds.warns layout writable template.name range
  have apart : (reading.templates.any (·.name == template.name)) = false := by
    rw [has.templates]
    exact List.any_eq_false.mpr fun other inside => by simpa using new other inside
  have finished : (reading.drafting template range draft).finishTemplate source =
      { FileReading.noteAll { reading with pending := none } source (draft.read template.name range).notes with
        templates := reading.templates ++
          [⟨template.name, template.parameters, (draft.read template.name range).value, source, range⟩] } := by
    -- A structured body is noted only if it has not been closed.
    cases draft with
    | plain lines =>
      simp only [FileReading.finishTemplate, closeFence, drafting, has.unfenced, noteAll, apart, Bool.not_true,
        Bool.false_eq_true, if_false]
    | structured typeName lines closed =>
      obtain ⟨rfl, _⟩ := holds
      simp only [FileReading.finishTemplate, closeFence, drafting, has.unfenced, noteAll, apart, Bool.not_true,
        Bool.false_eq_true, if_false]
  rw [finished]
  refine ⟨rfl, has.unfenced, has.options, ?_, has.imports, ?_⟩
  · refine List.forall_mem_append.mpr ⟨has.warnings, List.forall_mem_map.mpr fun note inside => ?_⟩
    exact warns.warnings note inside
  · simp only [has.templates, warns.good]

/-- Templates are read one after the other. -/
theorem WillHave.readLines (has : reading.WillHave source imports templates) (layout : Layout) {rest : List Template}
    (writable : ∀ template ∈ rest, template.IsWritable) (distinct : ((templates ++ rest).map (·.name)).Nodup) (start : Nat) :
    (reading.readLines source start (rest.flatMap layout.template)).WillHave source imports
      (templates ++ layout.placed source start rest) := by
  induction rest generalizing reading templates start with
  | nil => rwa [Layout.placed, List.append_nil]
  | cons template rest later =>
    obtain ⟨here, others⟩ := List.forall_mem_cons.mp writable
    obtain ⟨draft, holds, run⟩ := readLines_template source start has.unfenced layout has.finish.unfenced here
    have new : ∀ other ∈ templates, other.name ≠ template.name := by
      rw [List.map_append, List.map_cons] at distinct
      exact fun other inside same =>
        (List.nodup_append.mp distinct).2.2 _ (List.mem_map_of_mem inside) _ List.mem_cons_self same
    -- The template is finished by whatever comes next, the end of the file included.
    have now : WillHave ((reading.finishTemplate source).drafting template
        ⟨start + 1, start + (layout.template template).length⟩ draft) source imports
        (templates ++ [{ template with source := source, range := ⟨start + 1, start + (layout.template template).length⟩ }]) :=
      ⟨has.finish.unfenced, has.finish.finishTemplate holds here.body _ new⟩
    have all := later now others (by simpa using distinct) (start + (layout.template template).length)
    rw [List.flatMap_cons, readLines_append, run]
    rwa [List.append_assoc] at all

/-- Imports are read one after the other. -/
theorem Has.readLines (has : reading.Has imports templates) {rest : List Import}
    (writable : ∀ entry ∈ rest, entry.IsWritable) (source : String) (start : Nat) :
    (reading.readLines source start (rest.map Layout.importLine)).Has (imports ++ placedImports start rest) templates := by
  induction rest generalizing reading imports start with
  | nil => rwa [placedImports, List.append_nil]
  | cons entry rest later =>
    obtain ⟨here, others⟩ := List.forall_mem_cons.mp writable
    have now : Has { reading with imports := reading.imports ++ [{ entry with line := start + 1 }] }
        (imports ++ [{ entry with line := start + 1 }]) templates :=
      ⟨has.idle, has.unfenced, has.options, has.warnings, by rw [has.imports], has.templates⟩
    have all := later now others (start + 1)
    rw [List.map_cons, readLines_cons, line_import has.unfenced source _ has.idle here (shape_import here).1]
    rwa [List.append_assoc] at all

end Templates

end FileReading

/-- Every line that is written for a body stays as it is. -/
theorem Layout.isWholeLine_of_mem_body (layout : Layout) {body : Body} (writable : body.IsWritable) :
    ∀ line ∈ layout.body body, IsWholeLine line := by
  have dashed : ∀ line ∈ (layout.dashedTexts body).map fun text => '-' :: ' ' :: text, IsWholeLine line := by
    refine List.forall_mem_map.mpr fun text inside => ?_
    have dashable := isDashable_of_mem_dashedTexts layout writable text inside
    exact ((dashable.trimmed.isWholeLine dashable.oneLine).cons (.inr rfl)).cons (.inl (by decide))
  cases body with
  | structured typeName parts =>
    obtain ⟨proper, writable⟩ := writable
    have opening : IsWholeLine ('[' :: typeName.toList) :=
      (isWholeLine_of_dark (dark_of_isProperName proper)).cons (.inl (by decide))
    have closing : IsWholeLine [']'] := isWholeLine_sign (.inl (by decide))
    have inside : ∀ line ∈ parts.map layout.structureLine, IsWholeLine line :=
      List.forall_mem_map.mpr fun part inside => (shape_structureLine layout (writable part inside)).1
    exact List.forall_mem_cons.mpr ⟨opening, List.forall_mem_append.mpr ⟨inside, List.forall_mem_singleton.mpr closing⟩⟩
  | normal candidates => exact dashed
  | conditional branches => exact dashed
  | switch subject cases => exact dashed

/-- A file that was written for imports and templates holds these imports and templates and no error. -/
theorem TemplateFile.parse_file (layout : Layout) {imports : List Import} (writable : ∀ entry ∈ imports, entry.IsWritable)
    {templates : List Template} (writable' : ∀ template ∈ templates, template.IsWritable)
    (distinct : (templates.map (·.name)).Nodup) (source : String) :
    ∃ findings, (∀ finding ∈ findings, finding.severity = .warning) ∧
      TemplateFile.parse (String.ofList (layout.file imports templates)) source =
        ⟨layout.placed source imports.length templates, placedImports 0 imports, [], findings⟩ := by
  have whole : ∀ line ∈ imports.map Layout.importLine ++ templates.flatMap layout.template, IsWholeLine line := by
    refine List.forall_mem_append.mpr ⟨List.forall_mem_map.mpr fun entry inside => ?_, ?_⟩
    · exact (shape_import (writable entry inside)).2
    refine List.forall_mem_flatMap.mpr fun template among => List.forall_mem_cons.mpr ⟨?_, ?_⟩
    · exact (shape_header (writable' template among)).2
    · exact layout.isWholeLine_of_mem_body (writable' template among).body
  have start : FileReading.Has {} [] [] := ⟨rfl, rfl, rfl, nofun, rfl, rfl⟩
  have imported := start.readLines writable source 0
  have begun : FileReading.WillHave _ source _ _ :=
    ⟨imported.unfenced, (FileReading.finishTemplate_idle imported.unfenced source imported.idle).symm ▸ imported⟩
  have finished := (begun.readLines layout writable' distinct imports.length).finish
  -- The lines of the file are those that were written.
  have lines : linesOf (String.ofList (layout.file imports templates)).toList =
      imports.map Layout.importLine ++ templates.flatMap layout.template := by
    rw [String.toList_ofList]
    exact linesOf_flatMap whole
  have run : FileReading.readLines {} source 0 (linesOf (String.ofList (layout.file imports templates)).toList) =
      (FileReading.readLines {} source 0 (imports.map Layout.importLine)).readLines source imports.length
        (templates.flatMap layout.template) := by
    rw [lines, FileReading.readLines_append, List.length_map, Nat.zero_add]
  refine ⟨_, finished.warnings, ?_⟩
  have parsed (content : String) (reading : FileReading)
      (same : (FileReading.readLines {} source 0 (linesOf content.toList)).finishTemplate source = reading) :
      TemplateFile.parse content source = ⟨reading.templates, reading.imports, reading.options, reading.findings⟩ :=
    same ▸ rfl
  rw [parsed _ _ (congrArg (·.finishTemplate source) run), finished.templates, finished.imports, finished.options]
  rfl

/-- The layout without needless backslashes. -/
def plainLayout : Layout where
  escapes _ := false
  letters _ _ := rfl

/-- A text that looks like a keyword, with an expression at its end. -/
def keywordLike : TemplateText :=
  -- The space in front and the colon must be escaped.
  [.literal " if: ", .expression taxed]

/-- The imports of a file with all kinds of templates. -/
def menuImports : List Import :=
  [⟨"shared texts", "shared.lg", some "shared", 1⟩]

/-- The templates of that file. -/
def menuTemplates : List Template :=
  -- The last branch has no texts, and the last value is empty.
  [⟨"greet.all", ["name", "tax"], .normal [keywordLike, []], "menu.lg", ⟨2, 4⟩⟩,
    ⟨"price", ["tax"], .conditional [⟨.first, some taxed, [[.literal "a|b"]]⟩, ⟨.otherwise, none, []⟩], "menu.lg", ⟨5, 8⟩⟩,
    ⟨"pick", [], .switch taxed [⟨some taxed, [keywordLike]⟩, ⟨none, [[.literal "a|b"]]⟩], "menu.lg", ⟨9, 14⟩⟩,
    ⟨"card", [], .structured "Card" [.property "title" [[.literal "a|b"], []], .merge taxed], "menu.lg", ⟨15, 19⟩⟩]

/-- The text of that file. -/
def menuText : String :=
  "[shared texts](shared.lg) as shared\n" ++
    "# greet.all(name, tax)\n- \\ if\\: $\x7b\x27\x7d\x27 + tax\x7d\n- \n" ++
    "# price(tax)\n- IF: $\x7b\x27\x7d\x27 + tax\x7d\n- a|b\n- ELSE:\n" ++
    "# pick\n- SWITCH: $\x7b\x27\x7d\x27 + tax\x7d\n- CASE: $\x7b\x27\x7d\x27 + tax\x7d\n" ++
    "- \\ if\\: $\x7b\x27\x7d\x27 + tax\x7d\n- DEFAULT:\n- a|b\n" ++
    "# card\n[Card\ntitle = a\\|b | \n$\x7b\x27\x7d\x27 + tax\x7d\n]\n"

/-- The file is read back. -/
theorem menu_reads_back :
    ∃ findings, (∀ finding ∈ findings, finding.severity = .warning) ∧
      TemplateFile.parse menuText "menu.lg" = ⟨menuTemplates, menuImports, [], findings⟩ := by
  have expression : taxed.IsWritable := by
    refine ⟨isFaithful_taxed, by decide, fun inside => ?_⟩
    exact absurd (inside.subset (show '`' ∈ fence by decide)) (by decide)
  have nothing : TemplateText.IsWritable [] := ⟨⟨nofun, .nil⟩, nofun, nofun⟩
  have letters : TemplateText.IsWritable [.literal "a|b"] := by
    refine ⟨⟨List.forall_mem_singleton.mpr (show "a|b" ≠ "" by decide), .singleton _⟩, by simp, ?_⟩
    rintro literal last c ends blank
    obtain rfl : "a|b" = literal := by simpa using last
    obtain rfl : 'b' = c := by simpa using ends
    exact absurd blank (by decide)
  have keyword : keywordLike.IsWritable := by
    have some : " if: " ≠ "" := by decide
    refine ⟨⟨List.forall_mem_cons.mpr ⟨some, List.forall_mem_singleton.mpr isFaithful_taxed⟩,
      List.isChain_cons_cons.mpr ⟨nofun, .singleton _⟩⟩, fun embedded inside => ?_, by simp [keywordLike]⟩
    obtain rfl : embedded = taxed := by simpa [keywordLike] using inside
    exact expression
  have imports : ∀ entry ∈ menuImports, entry.IsWritable := by
    have description : trimChars "shared texts".toList = "shared texts".toList := by decide
    have target : trimChars "shared.lg".toList = "shared.lg".toList := by decide
    have named : ∀ name ∈ some "shared", IsIdentifier name := by decide
    exact List.forall_mem_singleton.mpr ⟨description, by decide, target, by decide, by decide, named⟩
  have conditional : AreBranches [⟨.first, some taxed, [[.literal "a|b"]]⟩, ⟨.otherwise, none, []⟩] :=
    ⟨_, [], some _, rfl, rfl, nofun, by simp, by simp⟩
  have switch : AreCases [⟨some taxed, [keywordLike]⟩, ⟨none, [[.literal "a|b"]]⟩] :=
    ⟨[_], some _, rfl, by simp, by simp, by simp⟩
  have templates : ∀ template ∈ menuTemplates, template.IsWritable := by
    simp only [menuTemplates, List.forall_mem_cons, List.not_mem_nil, false_imp_iff, implies_true, and_true]
    refine ⟨⟨by decide, by decide, by decide, ?_⟩,
      ⟨by decide, by decide, by decide, conditional, ?_⟩,
      ⟨by decide, nofun, .nil, switch, expression, ?_⟩, ⟨by decide, nofun, .nil, by decide, ?_⟩⟩
    · exact List.forall_mem_cons.mpr ⟨keyword, List.forall_mem_singleton.mpr nothing⟩
    · simp [expression, letters]
    · simp [expression, keyword, letters]
    · have title : lowerText "title" = "title" ∧ ∀ c ∈ "title".toList, isNameChar c = true := by decide
      have property : StructureLine.IsWritable (.property "title" [[.literal "a|b"], []]) :=
        ⟨by decide, title.2, title.1, List.cons_ne_nil _ _, by simp [letters, nothing]⟩
      exact List.forall_mem_cons.mpr ⟨property, List.forall_mem_singleton.mpr expression⟩
  have text : String.ofList (plainLayout.file menuImports menuTemplates) = menuText := by decide +kernel
  have read := TemplateFile.parse_file plainLayout imports templates (by decide) "menu.lg"
  rw [text] at read
  exact read

end Phrasebook
