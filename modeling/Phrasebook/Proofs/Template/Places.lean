import Mathlib.Data.List.Forall2
import Phrasebook.Template.FileReader

/-! What a body is read as does not depend on the lines on which it stands. -/

namespace Phrasebook

/-- Whether two noted values are alike and the same faults were noted on the way to them. -/
structure Noted.Agrees {α β : Type} (Alike : α → β → Prop) (first : Noted α) (second : Noted β) : Prop where
  /-- The values are alike. -/
  values : Alike first.value second.value
  /-- The faults are the same, wherever they are found. -/
  faults : first.notes.map (·.2) = second.notes.map (·.2)

namespace Noted

variable {α β γ δ : Type} {Alike : α → β → Prop} {Alike' : γ → δ → Prop}

/-- Values without notes agree if they are alike. -/
theorem agrees_pure {value : α} {value' : β} (alike : Alike value value') :
    Agrees Alike (pure value) (pure value') :=
  ⟨alike, rfl⟩

/-- One step after another agrees if each step does. -/
theorem Agrees.bind {first : Noted α} {second : Noted β} (agrees : Agrees Alike first second) {next : α → Noted γ}
    {next' : β → Noted δ} (later : ∀ value value', Alike value value' → Agrees Alike' (next value) (next' value')) :
    Agrees Alike' (first >>= next) (second >>= next') := by
  have rest := later _ _ agrees.values
  refine ⟨rest.values, ?_⟩
  have faults : (first.notes ++ (next first.value).notes).map (·.2) = (second.notes ++ (next' second.value).notes).map (·.2) := by
    rw [List.map_append, List.map_append, agrees.faults, rest.faults]
  exact faults

/-- A fault may be noted on any line. -/
theorem agrees_noteLine (line line' : Nat) (fault : Fault) : Agrees Eq (noteLine line fault) (noteLine line' fault) :=
  ⟨rfl, rfl⟩

/-- A fault may be noted on any line under the same condition. -/
theorem agrees_noteIf (condition : Bool) (line line' : Nat) (fault : Fault) :
    Agrees Eq (noteIf condition line fault) (noteIf condition line' fault) := by
  cases condition with
  | false => exact ⟨rfl, rfl⟩
  | true => exact agrees_noteLine line line' fault

/-- Two choices under the same condition agree if both sides do. -/
theorem agrees_ite {condition condition' : Bool} (same : condition = condition') {first second : Noted α}
    {first' second' : Noted β} (yes : Agrees Alike first first') (no : Agrees Alike second second') :
    Agrees Alike (if condition then first else second) (if condition' then first' else second') := by
  cases same
  cases condition with
  | false => exact no
  | true => exact yes

/-- Steps over alike items keep states alike. -/
theorem agrees_foldlM {step : α → γ → Noted α} {step' : β → δ → Noted β}
    (each : ∀ state state' item item', Alike state state' → Alike' item item' →
      Agrees Alike (step state item) (step' state' item')) {items : List γ} {items' : List δ}
    (alike : List.Forall₂ Alike' items items') {state : α} {state' : β} (start : Alike state state') :
    Agrees Alike (items.foldlM step state) (items'.foldlM step' state') := by
  induction alike generalizing state state' with
  | nil => exact agrees_pure start
  | cons here _ later =>
    rw [List.foldlM_cons, List.foldlM_cons]
    exact (each _ _ _ _ start here).bind fun _ _ alike => later alike

/-- Steps over alike items agree. -/
theorem agrees_forM {step : α → Noted PUnit} {step' : β → Noted PUnit}
    (each : ∀ item item', Alike item item' → Agrees Eq (step item) (step' item')) {items : List α} {items' : List β}
    (alike : List.Forall₂ Alike items items') : Agrees Eq (items.forM step) (items'.forM step') := by
  induction alike with
  | nil => exact agrees_pure rfl
  | cons here _ later =>
    have both : Agrees Eq (step _ >>= fun _ => List.forM _ step) (step' _ >>= fun _ => List.forM _ step') :=
      (each _ _ here).bind fun _ _ _ => later
    exact both

/-- The same steps on the same items agree. -/
theorem agrees_mapM {step step' : α → Noted γ} (each : ∀ item, Agrees Eq (step item) (step' item)) (items : List α) :
    Agrees Eq (items.mapM step) (items.mapM step') := by
  have loop (items : List α) (done : List γ) :
      Agrees Eq (List.mapM.loop step items done) (List.mapM.loop step' items done) := by
    induction items generalizing done with
    | nil => exact agrees_pure rfl
    | cons item items later =>
      refine (each item).bind fun value value' same => ?_
      rw [same]
      exact later (value' :: done)
  exact loop items []

end Noted

/-- Whether two lines have the same text. -/
def BodyLine.SameText (line line' : BodyLine) : Prop :=
  -- They may stand anywhere.
  line.text = line'.text

/-- Whether two parts of a body with their lines are the same. -/
def SamePart {α : Type} (entry entry' : α × Nat) : Prop :=
  -- They may stand anywhere.
  entry.1 = entry'.1

/-- The same parts in the same order are the same once their lines are forgotten. -/
theorem map_fst_eq_of_samePart {α : Type} {entries entries' : List (α × Nat)}
    (same : List.Forall₂ SamePart entries entries') : entries.map (·.1) = entries'.map (·.1) := by
  induction same with
  | nil => rfl
  | cons here _ later => rw [List.map_cons, List.map_cons, here, later]

section Parts

/-- A text is read alike on any line. -/
theorem agrees_notedText (line line' : Nat) (raw : List Char) :
    Noted.Agrees Eq (notedText line raw) (notedText line' raw) := by
  simp only [notedText]
  split <;> exact ⟨rfl, rfl⟩

/-- A condition is read alike on any line. -/
theorem agrees_notedCondition (line line' : Nat) (raw : List Char) :
    Noted.Agrees Eq (notedCondition line raw) (notedCondition line' raw) := by
  simp only [notedCondition]
  split <;> exact ⟨rfl, rfl⟩

/-- A condition that must not be missing is read alike on any line. -/
theorem agrees_requiredCondition (line line' : Nat) (raw : List Char) (missing : Fault) :
    Noted.Agrees Eq (requiredCondition line raw missing) (requiredCondition line' raw missing) := by
  unfold requiredCondition
  split
  · exact ⟨rfl, rfl⟩
  · exact agrees_notedCondition line line' raw

/-- Plain texts are read alike on any lines. -/
theorem agrees_readCandidates (name : String) {lines lines' : List BodyLine}
    (same : List.Forall₂ BodyLine.SameText lines lines') :
    Noted.Agrees Eq (readCandidates name lines) (readCandidates name lines') := by
  induction same with
  | nil => exact Noted.agrees_pure rfl
  | @cons line line' lines lines' here _ later =>
    rw [readCandidates, readCandidates, here]
    split
    · exact (Noted.agrees_noteLine _ _ _).bind fun _ _ _ => later
    · refine (agrees_notedText _ _ _).bind fun text text' same => later.bind fun texts texts' same' => ?_
      exact Noted.agrees_pure (by rw [same, same'])

/-- A keyword opens the same branch behind the same ones. -/
theorem agrees_branchHead (kind : BranchKind) (rest : List Char) (line line' : Nat) {branches branches' : List (Branch × Nat)}
    (same : List.Forall₂ SamePart branches branches') :
    Noted.Agrees (List.Forall₂ SamePart)
      (if kind == .otherwise then do
        noteIf (!rest.isEmpty) line .elseWithCondition
        return (⟨kind, none, []⟩, line) :: branches
      else do
        let condition ← requiredCondition line rest .missingCondition
        return (⟨kind, some condition, []⟩, line) :: branches)
      (if kind == .otherwise then do
        noteIf (!rest.isEmpty) line' .elseWithCondition
        return (⟨kind, none, []⟩, line') :: branches'
      else do
        let condition ← requiredCondition line' rest .missingCondition
        return (⟨kind, some condition, []⟩, line') :: branches') := by
  split
  · exact (Noted.agrees_noteIf _ _ _ _).bind fun _ _ _ => Noted.agrees_pure (.cons rfl same)
  · refine (agrees_requiredCondition _ _ _ _).bind fun condition condition' equal => Noted.agrees_pure (.cons ?_ same)
    rw [SamePart, equal]

/-- One more line makes the same branches of the same ones. -/
theorem agrees_branchLine (name : String) {branches branches' : List (Branch × Nat)} {line line' : BodyLine}
    (same : List.Forall₂ SamePart branches branches') (text : line.SameText line') :
    Noted.Agrees (List.Forall₂ SamePart) (branchLine name branches line) (branchLine name branches' line') := by
  simp only [branchLine, show line.text = line'.text from text]
  split
  · refine (agrees_notedText _ _ _).bind fun text text' equal => Noted.agrees_pure ?_
    cases same with
    | nil => exact .nil
    | cons here others => exact .cons (by rw [SamePart, equal, show _ = _ from here]) others
  · split
    · exact (Noted.agrees_noteLine _ _ _).bind fun _ _ _ => Noted.agrees_pure same
    · rename_i kind _
      have head := agrees_branchHead kind (by assumption) line.line line'.line same
      -- The latest branch is the same, if there is one.
      cases same with
      | nil =>
        exact (Noted.agrees_noteIf _ _ _ _).bind fun _ _ _ => (Noted.agrees_noteIf _ _ _ _).bind fun _ _ _ =>
          (Noted.agrees_noteIf _ _ _ _).bind fun _ _ _ => head
      | @cons entry entry' rest rest' here others =>
        obtain ⟨branch, start⟩ := entry
        obtain ⟨branch', start'⟩ := entry'
        obtain rfl : branch = branch' := here
        exact (Noted.agrees_noteIf _ _ _ _).bind fun _ _ _ => (Noted.agrees_noteIf _ _ _ _).bind fun _ _ _ =>
          (Noted.agrees_noteIf _ _ _ _).bind fun _ _ _ => head

/-- Branches are read alike on any lines. -/
theorem agrees_readBranches (name : String) {lines lines' : List BodyLine}
    (same : List.Forall₂ BodyLine.SameText lines lines') :
    Noted.Agrees Eq (readBranches name lines) (readBranches name lines') := by
  have each (branches branches' : List (Branch × Nat)) (line line' : BodyLine) (same : List.Forall₂ SamePart branches branches')
      (text : line.SameText line') :
      Noted.Agrees (List.Forall₂ SamePart) (branchLine name branches line) (branchLine name branches' line') :=
    agrees_branchLine name same text
  have run := Noted.agrees_foldlM each same .nil
  refine run.bind fun latest latest' same => ?_
  have same := List.rel_reverse same
  refine (Noted.agrees_forM (fun entry entry' same => ?_) same).bind fun _ _ _ =>
    Noted.agrees_pure (map_fst_eq_of_samePart same)
  have same : entry.1 = entry'.1 := same
  dsimp only
  rw [same]
  exact Noted.agrees_noteIf _ _ _ _

/-- Whether two switches that are being read are the same. -/
structure SwitchDraft.Same (draft draft' : SwitchDraft) : Prop where
  /-- They have the same subject. -/
  subject : draft.subject = draft'.subject
  /-- They have the same cases. -/
  cases : List.Forall₂ SamePart draft.cases draft'.cases

/-- The latest of the same cases tells the same. -/
theorem afterDefault_eq_of_samePart {entries entries' : List (Case × Nat)} (same : List.Forall₂ SamePart entries entries') :
    switchLine.afterDefault entries = switchLine.afterDefault entries' := by
  cases same with
  | nil => rfl
  | cons here _ => exact congrArg (fun case : Case => case.value.isNone) here

/-- One more line at the same position makes the same switch of the same one. -/
theorem agrees_switchLine (name : String) {draft draft' : SwitchDraft} {line line' : BodyLine} (position : Nat)
    (same : draft.Same draft') (text : line.SameText line') :
    Noted.Agrees SwitchDraft.Same (switchLine name draft (line, position)) (switchLine name draft' (line', position)) := by
  obtain ⟨subject, entries⟩ := draft
  obtain ⟨subject', entries'⟩ := draft'
  obtain ⟨equal, each⟩ := same
  obtain rfl : subject = subject' := equal
  have each : List.Forall₂ SamePart entries entries' := each
  simp only [switchLine, show line.text = line'.text from text, afterDefault_eq_of_samePart each]
  split
  · split
    · exact (Noted.agrees_noteLine _ _ _).bind fun _ _ _ => Noted.agrees_pure ⟨rfl, each⟩
    · refine (agrees_requiredCondition _ _ _ _).bind fun subject subject' equal => Noted.agrees_pure ⟨?_, each⟩
      rw [equal]
  · refine (Noted.agrees_noteIf _ _ _ _).bind fun _ _ _ => (Noted.agrees_noteIf _ _ _ _).bind fun _ _ _ => ?_
    refine (agrees_requiredCondition _ _ _ _).bind fun value value' equal => Noted.agrees_pure ⟨rfl, .cons ?_ each⟩
    rw [SamePart, equal]
  · refine (Noted.agrees_noteIf _ _ _ _).bind fun _ _ _ => (Noted.agrees_noteIf _ _ _ _).bind fun _ _ _ => ?_
    exact (Noted.agrees_noteIf _ _ _ _).bind fun _ _ _ => Noted.agrees_pure ⟨rfl, .cons rfl each⟩
  · exact (Noted.agrees_noteLine _ _ _).bind fun _ _ _ => Noted.agrees_pure ⟨rfl, each⟩
  · refine (agrees_notedText _ _ _).bind fun text text' equal => ?_
    cases each with
    | nil => exact (Noted.agrees_noteLine _ _ _).bind fun _ _ _ => Noted.agrees_pure ⟨rfl, .nil⟩
    | cons here others => exact Noted.agrees_pure ⟨rfl, .cons (by rw [SamePart, equal, show _ = _ from here]) others⟩

/-- Switches are read alike on any lines. -/
theorem agrees_readSwitch (name : String) (range range' : LineRange) {lines lines' : List BodyLine}
    (same : List.Forall₂ BodyLine.SameText lines lines') :
    Noted.Agrees Eq (readSwitch name range lines) (readSwitch name range' lines') := by
  have entries (start : Nat) : List.Forall₂ (fun entry entry' => BodyLine.SameText entry.1 entry'.1 ∧ entry.2 = entry'.2)
      (lines.zipIdx start) (lines'.zipIdx start) := by
    induction same generalizing start with
    | nil => exact .nil
    | cons here _ later => exact .cons ⟨here, rfl⟩ (later (start + 1))
  have start : SwitchDraft.Same {} {} := ⟨rfl, .nil⟩
  have run : Noted.Agrees SwitchDraft.Same (lines.zipIdx.foldlM (switchLine name) {}) (lines'.zipIdx.foldlM (switchLine name) {}) :=
    Noted.agrees_foldlM (fun draft draft' entry entry' same text => by
      obtain ⟨line, position⟩ := entry
      obtain ⟨line', position'⟩ := entry'
      obtain ⟨text, rfl⟩ := text
      exact agrees_switchLine name position same text) (entries 0) start
  refine run.bind fun draft draft' same => ?_
  have cases := List.rel_reverse same.cases
  have forgotten := map_fst_eq_of_samePart cases
  have valueless : (draft.cases.reverse.all fun entry => entry.1.value.isNone) =
      draft'.cases.reverse.all fun entry => entry.1.value.isNone := by
    have both := congrArg (fun cases : List Case => cases.all fun case => case.value.isNone) forgotten
    simpa only [List.all_map, Function.comp_def] using both
  have emptyCases : Noted.Agrees Eq (draft.cases.reverse.forM fun entry => noteIf entry.1.body.isEmpty entry.2 (.emptyCase name))
      (draft'.cases.reverse.forM fun entry => noteIf entry.1.body.isEmpty entry.2 (.emptyCase name)) := by
    refine Noted.agrees_forM (fun entry entry' same => ?_) cases
    have same : entry.1 = entry'.1 := same
    rw [same]
    exact Noted.agrees_noteIf _ _ _ _
  have value : (draft.subject.getD (.unreadable ""), draft.cases.reverse.map (·.1)) =
      (draft'.subject.getD (.unreadable ""), draft'.cases.reverse.map (·.1)) := by
    rw [same.subject, forgotten]
  -- The switch without a value is noted first, and then every case without a text.
  refine Noted.agrees_ite valueless ?_ ?_
  · have missing : Noted.Agrees Eq (⟨(), [(range, .noCase name)]⟩ : Noted Unit) ⟨(), [(range', .noCase name)]⟩ := ⟨rfl, rfl⟩
    exact missing.bind fun _ _ _ => emptyCases.bind fun _ _ _ => Noted.agrees_pure value
  · exact emptyCases.bind fun _ _ _ => Noted.agrees_pure value

/-- Bodies of lines with a dash are read alike on any lines. -/
theorem agrees_readPlainBody (name : String) (range range' : LineRange) {lines lines' : List BodyLine}
    (same : List.Forall₂ BodyLine.SameText lines lines') :
    Noted.Agrees Eq (readPlainBody name range lines) (readPlainBody name range' lines') := by
  have candidates := agrees_readCandidates name same
  have branches := agrees_readBranches name same
  have switch := agrees_readSwitch name range range' same
  cases same with
  | nil => exact ⟨rfl, rfl⟩
  | @cons first first' lines lines' here others =>
    simp only [readPlainBody, show first.text = first'.text from here]
    split
    · exact candidates.bind fun _ _ equal => Noted.agrees_pure (by rw [equal])
    · split
      · exact branches.bind fun _ _ equal => Noted.agrees_pure (by rw [equal])
      · exact switch.bind fun _ _ equal => Noted.agrees_pure (by rw [equal])

/-- A line of a structured body is read alike wherever it stands. -/
theorem agrees_readStructureLine {line line' : BodyLine} (text : line.SameText line') :
    Noted.Agrees Eq (readStructureLine line) (readStructureLine line') := by
  simp only [readStructureLine, show line.text = line'.text from text]
  split
  · split
    · exact (agrees_notedCondition _ _ _).bind fun _ _ equal => Noted.agrees_pure (by rw [equal])
    · exact (Noted.agrees_noteLine _ _ _).bind fun _ _ _ => Noted.agrees_pure rfl
  · split
    · exact (Noted.agrees_noteLine _ _ _).bind fun _ _ _ => Noted.agrees_pure rfl
    · refine (Noted.agrees_mapM (fun value => agrees_notedText _ _ _) _).bind fun _ _ equal => Noted.agrees_pure ?_
      rw [equal]

/-- The lines of a structured body are read alike wherever they stand. -/
theorem agrees_readStructureLines {lines lines' : List BodyLine} (same : List.Forall₂ BodyLine.SameText lines lines') :
    Noted.Agrees Eq (readStructureLines lines) (readStructureLines lines') := by
  induction same with
  | nil => exact Noted.agrees_pure rfl
  | cons here _ later =>
    refine (agrees_readStructureLine here).bind fun _ _ equal => later.bind fun _ _ equal' => Noted.agrees_pure ?_
    rw [equal, equal']

end Parts

/-- Whether two drafts have lines of the same texts. -/
inductive Draft.SameTexts : Draft → Draft → Prop where
  /-- Lines with a dash. -/
  | plain {lines lines' : List BodyLine} (same : List.Forall₂ BodyLine.SameText lines lines') :
    SameTexts (.plain lines) (.plain lines')
  /-- The lines of a structured body. -/
  | structured (typeName : String) {lines lines' : List BodyLine} (same : List.Forall₂ BodyLine.SameText lines lines')
    (closed : Bool) : SameTexts (.structured typeName lines closed) (.structured typeName lines' closed)

/-- Drafts of the same texts are read alike. -/
theorem Draft.SameTexts.read {draft draft' : Draft} (same : draft.SameTexts draft') (name : String)
    (range range' : LineRange) : Noted.Agrees Eq (draft.read name range) (draft'.read name range') := by
  cases same with
  | plain same => exact agrees_readPlainBody name range range' same
  | structured typeName same closed =>
    exact (agrees_readStructureLines same).bind fun _ _ equal => Noted.agrees_pure (by rw [equal])

end Phrasebook
