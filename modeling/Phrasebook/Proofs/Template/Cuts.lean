import Phrasebook.Proofs.Template.Sections

/-! A file without errors can be cut around a template, and other lines can stand between the parts. -/

namespace Phrasebook

/-- A template behind no lines is where it was. -/
@[simp] theorem Template.behind_zero (template : Template) : template.behind 0 = template := by
  simp [behind, LineRange.behind]

/-- A template moves by both numbers of lines. -/
@[simp] theorem Template.behind_behind (template : Template) (count further : Nat) :
    (template.behind count).behind further = template.behind (further + count) := by
  simp [behind, LineRange.behind, Nat.add_assoc]

/-- An import behind no lines is where it was. -/
@[simp] theorem Import.behind_zero (entry : Import) : entry.behind 0 = entry := by
  simp [behind]

/-- An import moves by both numbers of lines. -/
@[simp] theorem Import.behind_behind (entry : Import) (count further : Nat) :
    (entry.behind count).behind further = entry.behind (further + count) := by
  simp [behind, Nat.add_assoc]

/-- A template keeps its name wherever it is. -/
@[simp] theorem Template.name_behind (template : Template) (count : Nat) : (template.behind count).name = template.name :=
  rfl

/-- Templates that move keep their names. -/
@[simp] theorem names_behind (templates : List Template) (count : Nat) :
    (templates.map (·.behind count)).map (·.name) = templates.map (·.name) := by
  rw [List.map_map]
  rfl

namespace FileReading

variable {source : String}

/-- No two templates of a file have the same name. -/
theorem nodup_names (source : String) (lines : List (List Char)) : ((ofLines source lines).templates.map (·.name)).Nodup :=
  ((extends_finishTemplate _ source).trans (extends_readLines {} source 0 lines)).distinct .nil

/-- Nothing is read from no lines. -/
theorem ofLines_nothing (source : String) : ofLines source [] = {} :=
  rfl

/-- There is no error where nothing is read. -/
theorem isClean_nothing (source : String) : (ofLines source []).IsClean :=
  nofun

section Splice

variable {front part back : List (List Char)}

/-- Whether lines are read as three parts one behind another. -/
structure IsSpliced (source : String) (front part back : List (List Char)) : Prop where
  /-- There is no error. -/
  clean : (ofLines source (front ++ part ++ back)).IsClean
  /-- The templates are those of the parts. -/
  templates : (ofLines source (front ++ part ++ back)).templates = (ofLines source front).templates ++
    (ofLines source part).templates.map (·.behind front.length) ++
      (ofLines source back).templates.map (·.behind (front.length + part.length))
  /-- The imports are those of the parts. -/
  imports : (ofLines source (front ++ part ++ back)).imports = (ofLines source front).imports ++
    (ofLines source part).imports.map (·.behind front.length) ++
      (ofLines source back).imports.map (·.behind (front.length + part.length))

/-- Three parts without errors whose templates have different names are read one behind another. -/
theorem isSpliced_of_nodup (clean : (ofLines source front).IsClean) (clean' : (ofLines source part).IsClean)
    (clean'' : (ofLines source back).IsClean) (detached : AreDetached part) (detached' : AreDetached back)
    (distinct : (((ofLines source front).templates ++ (ofLines source part).templates ++ (ofLines source back).templates).map
      (·.name)).Nodup) : IsSpliced source front part back := by
  rw [List.map_append, List.nodup_append] at distinct
  obtain ⟨inner, _, outer⟩ := distinct
  rw [List.map_append, List.nodup_append] at inner
  have apart : ∀ template ∈ (ofLines source part).templates, ∀ other ∈ (ofLines source front).templates,
      other.name ≠ template.name := fun template inside other taken =>
    inner.2.2 _ (List.mem_map_of_mem taken) _ (List.mem_map_of_mem inside)
  have first := ofLines_append clean detached apart
  have apart' : ∀ template ∈ (ofLines source back).templates, ∀ other ∈ (ofLines source (front ++ part)).templates,
      other.name ≠ template.name := by
    intro template inside other taken
    refine outer _ ?_ _ (List.mem_map_of_mem inside)
    rw [first.templates] at taken
    have named := List.mem_map_of_mem (f := (·.name)) taken
    rwa [List.map_append, names_behind, ← List.map_append] at named
  have second := ofLines_append (first.isClean_iff.mpr ⟨clean, clean'⟩) detached' apart'
  rw [List.length_append] at second
  refine ⟨second.isClean_iff.mpr ⟨first.isClean_iff.mpr ⟨clean, clean'⟩, clean''⟩, ?_, ?_⟩
  · rw [second.templates, first.templates]
  · rw [second.imports, first.imports]

end Splice

/-- Lines cut around one of the templates that they hold. -/
structure Cut (source : String) (before : List Template) (template : Template) (after : List Template)
    (front part back : List (List Char)) : Prop where
  /-- The lines in front are read without an error. -/
  cleanFront : (ofLines source front).IsClean
  /-- The lines behind are read without an error. -/
  cleanBack : (ofLines source back).IsClean
  /-- The lines behind do not belong to the template. -/
  detached : AreDetached back
  /-- The lines in front hold the templates in front. -/
  before : (ofLines source front).templates = before
  /-- The lines of the template make up the template. -/
  alone : ∃ alone, IsTemplate source part alone ∧ template = alone.behind front.length
  /-- The lines behind hold the templates behind. -/
  after : after = (ofLines source back).templates.map (·.behind (front.length + part.length))

/-- A cut of lines is one of the lines behind others as well, if these are read without an error and have other templates. -/
theorem Cut.behind {before after : List Template} {template : Template} {first front part back : List (List Char)}
    (cut : Cut source before template after front part back) (clean : (ofLines source first).IsClean)
    (detached : AreDetached front)
    (apart : ∀ other ∈ before, ∀ own ∈ (ofLines source first).templates, own.name ≠ other.name) :
    Cut source ((ofLines source first).templates ++ before.map (·.behind first.length)) (template.behind first.length)
      (after.map (·.behind first.length)) (first ++ front) part back := by
  have joins := ofLines_append clean detached (cut.before ▸ apart)
  obtain ⟨found, is, place⟩ := cut.alone
  refine ⟨joins.isClean_iff.mpr ⟨clean, cut.cleanFront⟩, cut.cleanBack, cut.detached, ?_, ⟨found, is, ?_⟩, ?_⟩
  · rw [joins.templates, cut.before]
  · rw [place, Template.behind_behind, List.length_append]
  · rw [cut.after, List.map_map, List.length_append]
    simp [Function.comp_def, Nat.add_assoc]

/-- A file without errors can be cut around each of its templates. -/
theorem exists_cut {lines : List (List Char)} (clean : (ofLines source lines).IsClean) {before after : List Template}
    {template : Template} (templates : (ofLines source lines).templates = before ++ template :: after) :
    ∃ front part back, lines = front ++ part ++ back ∧ Cut source before template after front part back := by
  -- The induction takes one section off at a time.
  induction length : lines.length using Nat.strong_induction_on generalizing lines before template after with
  | _ length later =>
  subst length
  cases lines with
  | nil =>
    rw [ofLines_nothing] at templates
    simp at templates
  | cons raw lines =>
  obtain ⟨body, rest, rfl, ⟨cleanFirst, detachedFirst, shape⟩, detached⟩ := exists_section source clean
  have continues := ofLines_append_of_isClean cleanFirst detached clean
  have cleanRest : (ofLines source rest).IsClean := (continues.isClean_iff.mp clean).2
  have joined : (ofLines source (raw :: body)).templates ++ (ofLines source rest).templates.map (·.behind (raw :: body).length) =
      before ++ template :: after := by rw [← continues.templates, ← templates]; rfl
  have distinct : (((ofLines source (raw :: body)).templates ++ (ofLines source rest).templates).map (·.name)).Nodup := by
    have names := nodup_names source (raw :: body ++ rest)
    rwa [continues.templates, List.map_append, names_behind, ← List.map_append] at names
  -- A template behind the first section is found in the rest.
  have goesOn (before' : List Template) (same : before = (ofLines source (raw :: body)).templates ++ before')
      (further : (ofLines source rest).templates.map (·.behind (raw :: body).length) = before' ++ template :: after) :
      ∃ front part back, raw :: (body ++ rest) = front ++ part ++ back ∧ Cut source before template after front part back := by
    obtain ⟨front', others, moved, rfl, others'⟩ := List.map_eq_append_iff.mp further
    obtain ⟨alone, after', rfl, rfl, rfl⟩ := List.map_eq_cons_iff.mp others'
    have shorter : rest.length < (raw :: (body ++ rest)).length := by
      rw [List.length_cons, List.length_append]
      omega
    obtain ⟨front, part, back, rfl, cut⟩ := later rest.length shorter cleanRest moved rfl
    have inFront : AreDetached front := by
      rw [List.append_assoc] at detached
      exact detached.prefix
    have moves := cut.behind cleanFirst inFront fun other inside taken first => by
      rw [moved, List.map_append, List.nodup_append] at distinct
      exact distinct.2.2 _ (List.mem_map_of_mem first) _ (List.mem_map_of_mem (List.mem_append_left _ inside))
    exact ⟨raw :: body ++ front, part, back, by simp, same ▸ moves⟩
  rcases shape with none | ⟨first, is⟩
  · rw [none] at joined
    exact goesOn before (by rw [none]; rfl) joined
  · rw [is.templates] at joined
    cases before with
    | nil =>
      obtain ⟨rfl, rfl⟩ := List.cons.inj joined
      exact ⟨[], raw :: body, rest, rfl, isClean_nothing source, cleanRest, detached, rfl, ⟨first, is, by simp⟩, by simp⟩
    | cons other before =>
      obtain ⟨rfl, further⟩ := List.cons.inj joined
      exact goesOn before (by rw [is.templates]; rfl) further

/-- Lines without errors make up a template if they hold no other and it takes all of them. -/
theorem isTemplate_of_covers {lines : List (List Char)} (clean : (ofLines source lines).IsClean) {template : Template}
    (single : (ofLines source lines).templates = [template]) (covers : template.range = ⟨1, lines.length⟩) :
    IsTemplate source lines template := by
  have templates : (ofLines source lines).templates = [] ++ template :: [] := single
  obtain ⟨front, part, back, rfl, cut⟩ := exists_cut clean templates
  obtain ⟨alone, is, rfl⟩ := cut.alone
  -- No line is left for the parts around it.
  simp only [Template.behind, LineRange.behind, is.range, LineRange.mk.injEq, List.length_append] at covers
  obtain rfl : front = [] := List.eq_nil_of_length_eq_zero (by omega)
  obtain rfl : back = [] := List.eq_nil_of_length_eq_zero (by omega)
  rw [List.nil_append, List.append_nil, List.length_nil, Template.behind_zero]
  exact is

end FileReading

namespace TemplateFile

/-- Whether reading a file has found nothing but warnings. -/
def IsErrorFree (file : TemplateFile) : Prop :=
  -- Places do not matter.
  ∀ finding ∈ file.findings, finding.isError = false

/-- Whether there is an error can be told from the findings. -/
instance decidableIsErrorFree (file : TemplateFile) : Decidable file.IsErrorFree :=
  inferInstanceAs (Decidable (∀ finding ∈ file.findings, finding.isError = false))

/-- A file is read from its lines. -/
theorem parse_eq (content source : String) : TemplateFile.parse content source =
    ⟨(FileReading.ofLines source (linesOf content.toList)).templates, (FileReading.ofLines source (linesOf content.toList)).imports,
      (FileReading.ofLines source (linesOf content.toList)).options,
      (FileReading.ofLines source (linesOf content.toList)).findings⟩ :=
  rfl

/-- A file has no errors if its lines are read without one. -/
theorem isErrorFree_iff (content source : String) :
    (TemplateFile.parse content source).IsErrorFree ↔ (FileReading.ofLines source (linesOf content.toList)).IsClean := by
  have mild (fault : Fault) : (fault.severity == .error) = false ↔ fault.severity = .warning := by
    cases fault.severity <;> decide
  simp only [IsErrorFree, parse_eq, FileReading.IsClean, FileReading.faults, List.forall_mem_map, Finding.isError, Finding.severity,
    mild]

/-- The templates of a file without errors know which file they come from. -/
theorem source_of_isErrorFree {content source : String} (clean : (TemplateFile.parse content source).IsErrorFree)
    {template : Template} (inside : template ∈ (TemplateFile.parse content source).templates) : template.source = source := by
  obtain ⟨before, after, templates⟩ := List.append_of_mem inside
  obtain ⟨front, part, back, _, cut⟩ := FileReading.exists_cut ((isErrorFree_iff content source).mp clean) templates
  obtain ⟨alone, is, rfl⟩ := cut.alone
  obtain ⟨pending, _, same, _⟩ := is.draft
  rw [same]
  rfl

end TemplateFile

end Phrasebook
