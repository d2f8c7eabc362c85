import Phrasebook.Proofs.Expression.Shape
import Phrasebook.Proofs.Results
import Phrasebook.Template.FileReader

/-! The expressions of templates that were read are well named, and no template name has an exclamation mark. -/

namespace Phrasebook

/-- Whether all of some embedded expressions are well named. -/
def AllWellNamed (expressions : List Embedded) : Prop :=
  -- The texts they were read from do not matter.
  ∀ embedded ∈ expressions, embedded.expression.WellNamed

/-- Expressions of two lists are well named if those of either are. -/
theorem AllWellNamed.append {left right : List Embedded} (named : AllWellNamed left) (named' : AllWellNamed right) :
    AllWellNamed (left ++ right) := by
  intro embedded inside
  rcases List.mem_append.mp inside with here | there
  · exact named embedded here
  · exact named' embedded there

/-- Where nothing stands, everything is well named. -/
theorem allWellNamed_nil : AllWellNamed [] :=
  nofun

/-- What stands in for an unreadable expression is well named. -/
theorem wellNamed_unreadable (source : String) : (Embedded.unreadable source).expression.WellNamed :=
  Expression.wellNamed_literal .null

/-- An expression that was read out of its characters is well named. -/
theorem wellNamed_of_embed {source : List Char} {embedded : Embedded} (reads : embed source = .ok embedded) :
    embedded.expression.WellNamed := by
  simp only [embed] at reads
  split at reads
  · rename_i expression parses
    cases reads
    exact Expression.wellNamed_of_parse parses
  · cases reads

/-- The expressions of pieces that were read are well named. -/
theorem allWellNamed_of_mapM {pieces : List RawSegment} {segments : TemplateText}
    (reads : pieces.mapM RawSegment.read = .ok segments) : AllWellNamed segments.expressions := by
  intro embedded inside
  obtain ⟨segment, within, here⟩ := List.mem_filterMap.mp inside
  obtain ⟨piece, -, read⟩ := exists_of_mem_values reads within
  cases piece with
  | literal text =>
    cases read
    cases here
  | expression source =>
    obtain ⟨_, embeds, rfl⟩ := map_eq_ok.mp read
    cases here
    exact wellNamed_of_embed embeds

/-- The expressions of a text that was read are well named. -/
theorem allWellNamed_of_parse {text : String} {segments : TemplateText} (reads : TemplateText.parse text = .ok segments) :
    AllWellNamed segments.expressions := by
  simp only [TemplateText.parse] at reads
  split at reads
  · cases reads
  · exact allWellNamed_of_mapM reads

/-- A condition that was read is well named. -/
theorem wellNamed_of_parseCondition {text : String} {embedded : Embedded} (reads : parseCondition text = .ok embedded) :
    embedded.expression.WellNamed := by
  simp only [parseCondition] at reads
  split at reads
  · split at reads
    · exact wellNamed_of_embed reads
    · exact wellNamed_of_embed reads
  · exact wellNamed_of_embed reads

namespace Noted

variable {α β : Type}

/-- The value of one step after another is that of the second on the value of the first. -/
@[simp] theorem value_bind (first : Noted α) (next : α → Noted β) : (first >>= next).value = (next first.value).value :=
  -- Notes do not change values.
  rfl

/-- A value without notes is the value. -/
@[simp] theorem value_pure (value : α) : (pure value : Noted α).value = value :=
  rfl

/-- The values of several steps are the values of each. -/
theorem value_mapM (step : α → Noted β) (items : List α) :
    (items.mapM step).value = items.map fun item => (step item).value := by
  have loop : ∀ (items : List α) (before : List β),
      (List.mapM.loop step items before).value = before.reverse ++ items.map fun item => (step item).value := by
    intro items
    induction items with
    | nil => intro before; simp [List.mapM.loop]
    | cons item rest ih => intro before; simp [List.mapM.loop, ih]
  exact loop items []

/-- What holds at first and is kept by the values of all steps holds of the last value. -/
theorem value_foldlM_of (Good : β → Prop) (step : β → α → Noted β) {start : β} (good : Good start)
    (kept : ∀ state item, Good state → Good (step state item).value) (items : List α) :
    Good (items.foldlM step start).value := by
  induction items generalizing start with
  | nil => exact good
  | cons item rest ih =>
    rw [List.foldlM_cons, value_bind]
    exact ih (kept start item good)

end Noted

/-- The expressions of a text are well named, even if it cannot be read. -/
theorem allWellNamed_notedText (line : Nat) (raw : List Char) :
    AllWellNamed (TemplateText.expressions (notedText line raw).value) := by
  simp only [notedText]
  split
  · rename_i segments reads
    exact allWellNamed_of_parse reads
  · exact allWellNamed_nil

/-- A condition is well named, even if it cannot be read. -/
theorem wellNamed_notedCondition (line : Nat) (raw : List Char) :
    (notedCondition line raw).value.expression.WellNamed := by
  simp only [notedCondition]
  split
  · rename_i embedded reads
    exact wellNamed_of_parseCondition reads
  · exact wellNamed_unreadable _

/-- A condition that must not be missing is well named, even if it is missing. -/
theorem wellNamed_requiredCondition (line : Nat) (raw : List Char) (missing : Fault) :
    (requiredCondition line raw missing).value.expression.WellNamed := by
  unfold requiredCondition
  split
  · exact wellNamed_unreadable _
  · exact wellNamed_notedCondition line raw

/-- The expressions of plain texts are well named. -/
theorem allWellNamed_readCandidates (name : String) (lines : List BodyLine) :
    AllWellNamed (textsExpressions (readCandidates name lines).value) := by
  induction lines with
  | nil => exact allWellNamed_nil
  | cons line rest ih =>
    rw [readCandidates]
    split
    · exact ih
    · exact (allWellNamed_notedText line.line line.text).append ih

/-- The expressions of a condition or value and of the texts under it. -/
def guardedExpressions (guard : Option Embedded) (body : List TemplateText) : List Embedded :=
  -- The condition or value comes first.
  guard.toList ++ textsExpressions body

/-- What a new condition or value guards is well named as long as there are no texts under it. -/
theorem allWellNamed_guarded_nil {guard : Embedded} (named : guard.expression.WellNamed) :
    AllWellNamed (guardedExpressions (some guard) []) := by
  intro embedded inside
  simp only [guardedExpressions, textsExpressions, Option.toList_some, List.flatMap_nil, List.append_nil,
    List.mem_singleton] at inside
  rw [inside]
  exact named

/-- One more text under a condition or value keeps what it guards well named. -/
theorem AllWellNamed.guarded {guard : Option Embedded} {body : List TemplateText}
    (named : AllWellNamed (guardedExpressions guard body)) (line : Nat) (raw : List Char) :
    AllWellNamed (guardedExpressions guard (body ++ [(notedText line raw).value])) := by
  simp only [guardedExpressions, textsExpressions, List.flatMap_append, List.flatMap_singleton, ← List.append_assoc]
  exact named.append (allWellNamed_notedText line raw)

/-- One more line keeps the branches of a conditional well named. -/
theorem allWellNamed_branchLine (name : String) {branches : List (Branch × Nat)} (line : BodyLine)
    (named : ∀ entry ∈ branches, AllWellNamed (guardedExpressions entry.1.condition entry.1.body)) :
    ∀ entry ∈ (branchLine name branches line).value,
      AllWellNamed (guardedExpressions entry.1.condition entry.1.body) := by
  simp only [branchLine]
  split
  · -- The text is added to the latest branch.
    cases branches with
    | nil => exact nofun
    | cons latest rest =>
      intro entry inside
      rcases List.mem_cons.mp inside with rfl | earlier
      · exact (named latest List.mem_cons_self).guarded line.line line.text
      · exact named entry (List.mem_cons_of_mem latest earlier)
  · split
    · exact named
    · simp only [Noted.value_bind]
      split
      · intro entry inside
        rcases List.mem_cons.mp inside with rfl | earlier
        · exact allWellNamed_nil
        · exact named entry earlier
      · intro entry inside
        rcases List.mem_cons.mp inside with rfl | earlier
        · exact allWellNamed_guarded_nil (wellNamed_requiredCondition _ _ _)
        · exact named entry earlier

/-- The expressions of the branches of a conditional are well named. -/
theorem allWellNamed_readBranches (name : String) (lines : List BodyLine) :
    AllWellNamed (Body.conditional (readBranches name lines).value).expressions := by
  let named (branches : List (Branch × Nat)) : Prop :=
    ∀ entry ∈ branches, AllWellNamed (guardedExpressions entry.1.condition entry.1.body)
  have start : named [] := nofun
  have all := Noted.value_foldlM_of named (branchLine name) start
    (fun branches line kept => allWellNamed_branchLine name line kept) lines
  intro embedded inside
  simp only [readBranches, Noted.value_bind, Noted.value_pure, Body.expressions, List.mem_flatMap, List.mem_map,
    List.mem_reverse] at inside
  obtain ⟨branch, ⟨entry, among, rfl⟩, within⟩ := inside
  exact all entry among embedded within

/-- Whether the expressions of a switch that is being read are well named. -/
def SwitchDraft.WellNamed (draft : SwitchDraft) : Prop :=
  -- The subject may be missing so far.
  AllWellNamed draft.subject.toList ∧ ∀ entry ∈ draft.cases, AllWellNamed (guardedExpressions entry.1.value entry.1.body)

/-- One more line keeps a switch well named. -/
theorem wellNamed_switchLine (name : String) {draft : SwitchDraft} (entry : BodyLine × Nat) (named : draft.WellNamed) :
    (switchLine name draft entry).value.WellNamed := by
  obtain ⟨line, position⟩ := entry
  obtain ⟨subject, cases⟩ := named
  simp only [switchLine]
  split
  · -- The line opens the switch.
    split
    · exact ⟨subject, cases⟩
    · refine ⟨?_, cases⟩
      intro embedded inside
      rw [List.mem_singleton.mp inside]
      exact wellNamed_requiredCondition _ _ _
  · simp only [Noted.value_bind]
    refine ⟨subject, fun entry inside => ?_⟩
    rcases List.mem_cons.mp inside with rfl | earlier
    · exact allWellNamed_guarded_nil (wellNamed_requiredCondition _ _ _)
    · exact cases entry earlier
  · simp only [Noted.value_bind]
    refine ⟨subject, fun entry inside => ?_⟩
    rcases List.mem_cons.mp inside with rfl | earlier
    · exact allWellNamed_nil
    · exact cases entry earlier
  · exact ⟨subject, cases⟩
  · simp only [Noted.value_bind]
    split
    · -- The text is added to the latest case.
      rename_i latest start rest opened
      rw [opened] at cases
      refine ⟨subject, fun entry inside => ?_⟩
      rcases List.mem_cons.mp inside with rfl | earlier
      · exact (cases _ List.mem_cons_self).guarded line.line line.text
      · exact cases entry (List.mem_cons_of_mem _ earlier)
    · exact ⟨subject, cases⟩

/-- The expressions of a switch are well named. -/
theorem allWellNamed_readSwitch (name : String) (range : LineRange) (lines : List BodyLine) :
    AllWellNamed (Body.switch (readSwitch name range lines).value.1 (readSwitch name range lines).value.2).expressions := by
  have start : SwitchDraft.WellNamed {} := ⟨allWellNamed_nil, nofun⟩
  obtain ⟨subject, cases⟩ := Noted.value_foldlM_of SwitchDraft.WellNamed (switchLine name) start
    (fun draft entry named => wellNamed_switchLine name entry named) lines.zipIdx
  have value : (readSwitch name range lines).value =
      ((lines.zipIdx.foldlM (switchLine name) {}).value.subject.getD (.unreadable ""),
        (lines.zipIdx.foldlM (switchLine name) {}).value.cases.reverse.map (·.1)) := by
    simp only [readSwitch, Noted.value_bind]
    split <;> rfl
  rw [value]
  intro embedded inside
  simp only [Body.expressions, List.mem_cons, List.mem_flatMap, List.mem_map, List.mem_reverse] at inside
  rcases inside with rfl | ⟨case, ⟨entry, among, rfl⟩, within⟩
  · cases missing : (lines.zipIdx.foldlM (switchLine name) {}).value.subject with
    | none => exact wellNamed_unreadable _
    | some embedded => exact subject embedded (by simp [missing])
  · exact cases entry among embedded within

/-- The expressions of a body of lines with a dash are well named. -/
theorem allWellNamed_readPlainBody (name : String) (range : LineRange) (lines : List BodyLine) :
    AllWellNamed (readPlainBody name range lines).value.expressions := by
  unfold readPlainBody
  split
  · exact allWellNamed_nil
  · split
    · exact allWellNamed_readCandidates name _
    · split
      · exact allWellNamed_readBranches name _
      · exact allWellNamed_readSwitch name range _

/-- The expressions of a line of a structured body are well named, if it can be read. -/
theorem allWellNamed_readStructureLine (typeName : String) (line : BodyLine) :
    AllWellNamed (Body.structured typeName (readStructureLine line).value.toList).expressions := by
  simp only [readStructureLine]
  split
  · split
    · intro embedded inside
      rw [List.mem_singleton.mp inside]
      exact wellNamed_notedCondition _ _
    · exact allWellNamed_nil
  · split
    · exact allWellNamed_nil
    · intro embedded inside
      simp only [Noted.value_bind, Noted.value_pure, Noted.value_mapM, Option.toList_some, Body.expressions,
        List.flatMap_singleton, textsExpressions, List.mem_flatMap, List.mem_map] at inside
      obtain ⟨text, ⟨value, _, rfl⟩, within⟩ := inside
      exact allWellNamed_notedText _ _ embedded within

/-- The expressions of the lines of a structured body are well named. -/
theorem allWellNamed_readStructureLines (typeName : String) (lines : List BodyLine) :
    AllWellNamed (Body.structured typeName (readStructureLines lines).value).expressions := by
  induction lines with
  | nil => exact allWellNamed_nil
  | cons line rest ih =>
    simp only [readStructureLines, Noted.value_bind, Noted.value_pure, Body.expressions, List.flatMap_append]
    exact (allWellNamed_readStructureLine typeName line).append ih

/-- The expressions of a body are well named, whatever its lines are. -/
theorem allWellNamed_readDraft (draft : Draft) (name : String) (range : LineRange) :
    AllWellNamed (draft.read name range).value.expressions := by
  cases draft with
  | plain lines => exact allWellNamed_readPlainBody name range lines
  | structured typeName lines closed => exact allWellNamed_readStructureLines typeName lines

end Phrasebook
