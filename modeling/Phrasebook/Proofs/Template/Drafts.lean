import Mathlib.Data.List.Forall2
import Phrasebook.Proofs.Template.Bodies

/-! A body that is read without an error is the one that its lines say. -/

namespace Phrasebook

/-- Whether a value is good unless an error was noted on the way to it. -/
def Noted.Bears {α : Type} (noted : Noted α) (Good : α → Prop) : Prop :=
  -- Warnings do not matter.
  (∀ note ∈ noted.notes, note.2.severity = .warning) → Good noted.value

namespace Noted

variable {α β σ : Type}

/-- What is good may be good in another way. -/
theorem Bears.imp {noted : Noted α} {Good Better : α → Prop} (bears : noted.Bears Good)
    (better : ∀ value, Good value → Better value) : noted.Bears Better :=
  fun mild => better _ (bears mild)

/-- A value without notes is good if it is. -/
theorem bears_pure {Good : α → Prop} {value : α} (good : Good value) : (pure value : Noted α).Bears Good :=
  fun _ => good

/-- A value is good if it is made out of a good one. -/
theorem Bears.bind {first : Noted α} {Good : α → Prop} (bears : first.Bears Good) {next : α → Noted β} {Better : β → Prop}
    (later : ∀ value, Good value → (next value).Bears Better) : (first >>= next).Bears Better := by
  intro mild
  obtain ⟨before, after⟩ := List.forall_mem_append.mp mild
  exact later first.value (bears before) after

/-- Nothing is said of the first of two steps. -/
theorem bears_next {first : Noted α} {next : α → Noted β} {Better : β → Prop}
    (later : ∀ value, (next value).Bears Better) : (first >>= next).Bears Better := by
  have nothing : first.Bears fun _ => True := fun _ => trivial
  exact nothing.bind fun value _ => later value

/-- An error is noted on a line. -/
theorem bears_noteLine (line : Nat) {fault : Fault} (serious : fault.severity = .error) :
    (noteLine line fault).Bears fun _ => False := by
  intro mild
  have mild : fault.severity = .warning := mild _ List.mem_cons_self
  rw [serious] at mild
  cases mild

/-- An error is noted unless its condition fails. -/
theorem bears_noteIf (condition : Bool) (line : Nat) {fault : Fault} (serious : fault.severity = .error) :
    (noteIf condition line fault).Bears fun _ => condition = false := by
  cases condition with
  | false => exact bears_pure rfl
  | true => exact (bears_noteLine line serious).imp fun _ absurd => absurd.elim

/-- What holds at first and is kept by each step without an error holds in the end. -/
theorem bears_foldlM {step : σ → α → Noted σ} (After : List α → σ → Prop) {items : List α}
    (each : ∀ before state, ∀ item ∈ items, After before state → (step state item).Bears (After (before ++ [item])))
    {before : List α} {state : σ} (start : After before state) :
    (items.foldlM step state).Bears (After (before ++ items)) := by
  induction items generalizing before state with
  | nil =>
    rw [List.append_nil]
    exact bears_pure start
  | cons item items later =>
    rw [List.foldlM_cons]
    refine (each before state item List.mem_cons_self start).bind fun next held => ?_
    have rest := later (fun before state other inside => each before state other (List.mem_cons_of_mem _ inside)) held
    rwa [List.append_assoc] at rest

/-- Each of several values is good for its item. -/
theorem bears_mapM {step : α → Noted β} {Good : α → β → Prop} (each : ∀ item, (step item).Bears (Good item))
    (items : List α) : (items.mapM step).Bears (List.Forall₂ Good items) := by
  induction items with
  | nil => exact bears_pure .nil
  | cons item items later =>
    rw [List.mapM_cons]
    refine (each item).bind fun value good => later.bind fun values goods => bears_pure (.cons good goods)

end Noted

/-- Whether a line holds a text rather than a keyword. -/
def BodyLine.ReadsAs (line : BodyLine) (text : TemplateText) : Prop :=
  -- Every character of the line counts.
  keyword? line.text = none ∧ TemplateText.parse (String.ofList line.text) = .ok text

/-- Whether a condition or value is what stands behind a keyword. -/
def ReadsAsGuard (rest : List Char) : Option Embedded → Prop
  -- Nothing may stand behind a keyword that takes no condition.
  | none => rest = []
  | some embedded => parseCondition (String.ofList rest) = .ok embedded

/-- The keyword of a case. -/
def Case.keyword (case : Case) : Keyword :=
  -- The default case has no value.
  if case.value.isSome then .case else .default

/-- Whether lines are the keyword, the condition and the texts of a branch. -/
def Branch.IsReadFrom (lines : List BodyLine) (branch : Branch) : Prop :=
  -- Every line behind the keyword holds one text.
  ∃ head texts keyword rest, lines = head :: texts ∧ keyword? head.text = some (keyword, rest) ∧
    branchKind? keyword = some branch.kind ∧ ReadsAsGuard rest branch.condition ∧
    List.Forall₂ BodyLine.ReadsAs texts branch.body

/-- Whether lines are the keyword, the value and the texts of a case. -/
def Case.IsReadFrom (lines : List BodyLine) (case : Case) : Prop :=
  -- Every line behind the keyword holds one text.
  ∃ head texts rest, lines = head :: texts ∧ keyword? head.text = some (case.keyword, rest) ∧
    ReadsAsGuard rest case.value ∧ List.Forall₂ BodyLine.ReadsAs texts case.body

/-- Whether a line is a part of a structured body. -/
def StructureLine.IsReadFrom (line : BodyLine) : StructureLine → Prop
  -- Names of properties are kept in lower case.
  | .merge embedded => splitOnce '=' line.text = none ∧ parseCondition (String.ofList line.text) = .ok embedded
  | .property key values => ∃ left right, splitOnce '=' line.text = some (left, right) ∧
      key = lowerText (String.ofList (trimChars left)) ∧ trimChars left ≠ [] ∧ (trimChars left).all isNameChar = true ∧
      List.Forall₂ (fun raw value => TemplateText.parse (String.ofList (trimChars raw)) = .ok value)
        (splitAll '|' (trimChars right)) values

/-- Whether a body is what the lines of a draft say, each of them and in their order. -/
def Body.IsReadFrom : Draft → Body → Prop
  -- A structured body must have been closed.
  | .plain lines, .normal candidates => List.Forall₂ BodyLine.ReadsAs lines candidates
  | .plain lines, .conditional branches => ∃ parts, lines = parts.flatten ∧ List.Forall₂ Branch.IsReadFrom parts branches
  | .plain lines, .switch subject cases => ∃ head rest parts, lines = head :: parts.flatten ∧
      keyword? head.text = some (.switch, rest) ∧ parseCondition (String.ofList rest) = .ok subject ∧
      List.Forall₂ Case.IsReadFrom parts cases
  | .structured typeName lines closed, .structured typeName' parts => closed = true ∧ typeName' = typeName ∧
      List.Forall₂ StructureLine.IsReadFrom lines parts
  | _, _ => False

/-- Whether the parts of a body stand in an order that evaluation expects. -/
def Body.IsWellFormed : Body → Prop
  -- Alternative texts may stand in any order.
  | .normal _ => True
  | .conditional branches => AreBranches branches
  | .switch _ cases => AreCases cases
  | .structured typeName _ => isProperName typeName.toList = true

section Parts

/-- A text is read from its line unless an error is noted. -/
theorem bears_notedText (line : Nat) (raw : List Char) :
    (notedText line raw).Bears fun text => TemplateText.parse (String.ofList raw) = .ok text := by
  intro mild
  simp only [notedText] at mild ⊢
  split at mild
  · rename_i segments reads
    rw [reads]
    rfl
  · cases mild _ List.mem_cons_self

/-- A condition is read unless an error is noted. -/
theorem bears_notedCondition (line : Nat) (raw : List Char) :
    (notedCondition line raw).Bears fun embedded => parseCondition (String.ofList raw) = .ok embedded := by
  intro mild
  simp only [notedCondition] at mild ⊢
  split at mild
  · rename_i embedded reads
    rw [reads]
    rfl
  · cases mild _ List.mem_cons_self

/-- A condition is read unless it is missing or another error is noted. -/
theorem bears_requiredCondition (line : Nat) (raw : List Char) {missing : Fault} (serious : missing.severity = .error) :
    (requiredCondition line raw missing).Bears fun embedded => parseCondition (String.ofList raw) = .ok embedded := by
  unfold requiredCondition
  split
  · intro mild
    have mild : missing.severity = .warning := mild _ List.mem_cons_self
    rw [serious] at mild
    cases mild
  · exact bears_notedCondition line raw

/-- Plain texts are read line by line. -/
theorem bears_readCandidates (name : String) (lines : List BodyLine) :
    (readCandidates name lines).Bears (List.Forall₂ BodyLine.ReadsAs lines) := by
  induction lines with
  | nil => exact Noted.bears_pure .nil
  | cons line lines later =>
    rw [readCandidates]
    split
    · exact (Noted.bears_noteLine line.line rfl).bind fun _ absurd => absurd.elim
    · rename_i plain
      have plain : keyword? line.text = none := by simpa using plain
      refine (bears_notedText line.line line.text).bind fun text read => later.bind fun texts reads => ?_
      exact Noted.bears_pure (.cons ⟨plain, read⟩ reads)

end Parts

section Branches

/-- Whether branches with their lines, the latest first, are what some lines say and may be followed by others. -/
structure BranchesRead (lines : List BodyLine) (latest : List (Branch × Nat)) : Prop where
  /-- Every line belongs to a branch. -/
  parts : ∃ parts, lines = parts.reverse.flatten ∧ List.Forall₂ (fun part entry => Branch.IsReadFrom part entry.1) parts latest
  /-- The first branch is there. -/
  opened : ∃ entry ∈ latest, entry.1.kind = .first
  /-- No later branch is opened as the first, and none follows the branch for all other cases. -/
  order : latest.Pairwise fun later earlier => later.1.kind ≠ .first ∧ earlier.1.kind ≠ .otherwise
  /-- Only the branch for all other cases has no condition. -/
  conditioned : ∀ entry ∈ latest, entry.1.condition.isNone = true ↔ entry.1.kind = .otherwise

/-- Branches in this order make up a conditional. -/
theorem areBranches_of_pairwise {branches : List Branch} (opened : ∃ branch ∈ branches, branch.kind = .first)
    (order : branches.Pairwise fun earlier later => later.kind ≠ .first ∧ earlier.kind ≠ .otherwise)
    (conditioned : ∀ branch ∈ branches, branch.condition.isNone = true ↔ branch.kind = .otherwise) :
    AreBranches branches := by
  obtain ⟨opening, among, kind⟩ := opened
  cases branches with
  | nil => cases among
  | cons first others =>
    obtain ⟨after, order⟩ := List.pairwise_cons.mp order
    have first' : first.kind = .first := by
      rcases List.mem_cons.mp among with rfl | later
      · exact kind
      · exact absurd kind (after opening later).1
    -- The last branch tells whether there is one for all other cases.
    rcases List.eq_nil_or_concat others with rfl | ⟨further, last, rfl⟩
    · exact ⟨first, [], none, rfl, first', nofun, nofun, conditioned⟩
    rw [List.concat_eq_append] at after order conditioned ⊢
    have further' : ∀ branch ∈ further, branch.kind = .further := by
      intro branch inside
      have notFirst := (after branch (List.mem_append_left _ inside)).1
      have notLast := ((List.pairwise_append.mp order).2.2 branch inside last (List.mem_singleton.mpr rfl)).2
      cases kind : branch.kind with
      | first => exact absurd kind notFirst
      | further => rfl
      | otherwise => exact absurd kind notLast
    cases kind : last.kind with
    | first => exact absurd kind (after last (by simp)).1
    | further =>
      refine ⟨first, further ++ [last], none, by simp, first', ?_, nofun, conditioned⟩
      exact List.forall_mem_append.mpr ⟨further', List.forall_mem_singleton.mpr kind⟩
    | otherwise => exact ⟨first, further, some last, rfl, first', further', by simpa using kind, conditioned⟩

/-- A text joins the lines of the latest branch. -/
theorem Branch.IsReadFrom.text {lines : List BodyLine} {branch : Branch} (read : branch.IsReadFrom lines) {line : BodyLine}
    {text : TemplateText} (holds : line.ReadsAs text) :
    Branch.IsReadFrom (lines ++ [line]) { branch with body := branch.body ++ [text] } := by
  obtain ⟨head, texts, keyword, rest, rfl, word, kind, condition, body⟩ := read
  exact ⟨head, texts ++ [line], keyword, rest, rfl, word, kind, condition, List.rel_append body (.cons holds .nil)⟩

/-- A branch is opened by its keyword, unless an error is noted. -/
theorem bears_branchHead (name : String) (latest : List (Branch × Nat)) {line : BodyLine} {keyword : Keyword}
    {rest : List Char} (word : keyword? line.text = some (keyword, rest)) :
    (branchLine name latest line).Bears fun later => ∃ branch, later = (branch, line.line) :: latest ∧
      branch.IsReadFrom [line] ∧ (branch.condition.isNone = true ↔ branch.kind = .otherwise) ∧
      (branch.kind = .first ↔ latest = []) ∧ ∀ entry ∈ latest.head?, entry.1.kind ≠ .otherwise := by
  simp only [branchLine, word]
  split
  · exact (Noted.bears_noteLine line.line rfl).bind fun _ absurd => absurd.elim
  · rename_i kind opens
    -- Each of the faults of a keyword in a wrong place is an error.
    refine (Noted.bears_noteIf _ line.line rfl).bind fun _ notLate => ?_
    refine (Noted.bears_noteIf _ line.line rfl).bind fun _ notAgain => ?_
    refine (Noted.bears_noteIf _ line.line rfl).bind fun _ notMissing => ?_
    have first : kind = .first ↔ latest = [] := by
      cases latest <;> simp_all
    have goesOn : ∀ entry ∈ latest.head?, entry.1.kind ≠ .otherwise := by
      cases latest with
      | nil => rintro _ ⟨⟩
      | cons entry latest => simpa using notLate
    split
    · rename_i last
      refine (Noted.bears_noteIf _ line.line rfl).bind fun _ bare => Noted.bears_pure ?_
      have bare : rest = [] := by simpa [List.isEmpty_iff] using bare
      exact ⟨⟨kind, none, []⟩, rfl, ⟨line, [], keyword, rest, rfl, word, opens, bare, .nil⟩, by simpa using last, first, goesOn⟩
    · rename_i other
      refine (bears_requiredCondition line.line rest rfl).bind fun condition read => Noted.bears_pure ?_
      exact ⟨⟨kind, some condition, []⟩, rfl, ⟨line, [], keyword, rest, rfl, word, opens, read, .nil⟩, by simpa using other,
        first, goesOn⟩

/-- One more line keeps branches as they are read, unless an error is noted. -/
theorem BranchesRead.line {lines : List BodyLine} {latest : List (Branch × Nat)} (read : BranchesRead lines latest)
    (name : String) (line : BodyLine) : (branchLine name latest line).Bears (BranchesRead (lines ++ [line])) := by
  obtain ⟨⟨parts, whole, each⟩, opened, order, conditioned⟩ := read
  cases word : keyword? line.text with
  | none =>
    simp only [branchLine, word]
    refine (bears_notedText line.line line.text).bind fun text parses => Noted.bears_pure ?_
    cases each with
    | nil =>
      obtain ⟨entry, inside, _⟩ := opened
      cases inside
    | @cons part entry parts latest here others =>
      -- Kind and condition of the latest branch stay as they are.
      obtain ⟨branch, start⟩ := entry
      refine ⟨⟨(part ++ [line]) :: parts, by simp [whole], .cons (here.text ⟨word, parses⟩) others⟩, ?_, ?_, ?_⟩
      · simpa [addToBranch] using opened
      · simpa [addToBranch, List.pairwise_cons] using order
      · simpa [addToBranch] using conditioned
  | some found =>
    obtain ⟨keyword, rest⟩ := found
    refine (bears_branchHead name latest word).imp fun later opens => ?_
    obtain ⟨branch, rfl, here, condition, first, goesOn⟩ := opens
    refine ⟨⟨[line] :: parts, by simp [whole], .cons here each⟩, ?_, ?_, List.forall_mem_cons.mpr ⟨condition, conditioned⟩⟩
    · obtain ⟨entry, inside, kind⟩ := opened
      exact ⟨entry, List.mem_cons_of_mem _ inside, kind⟩
    · refine List.pairwise_cons.mpr ⟨fun entry inside => ⟨fun same => ?_, ?_⟩, order⟩
      · simp [first.mp same] at inside
      · cases latest with
        | nil => cases inside
        | cons top older =>
          rcases List.mem_cons.mp inside with rfl | inside
          · exact goesOn _ rfl
          · exact ((List.pairwise_cons.mp order).1 entry inside).2

/-- The branches of a conditional are read, unless an error is noted. -/
theorem bears_readBranches (name : String) {first : BodyLine} {keyword : Keyword} {rest : List Char}
    (word : keyword? first.text = some (keyword, rest)) (lines : List BodyLine) :
    (readBranches name (first :: lines)).Bears fun branches => AreBranches branches ∧
      ∃ parts, first :: lines = parts.flatten ∧ List.Forall₂ Branch.IsReadFrom parts branches := by
  have all : ((first :: lines).foldlM (branchLine name) []).Bears (BranchesRead (first :: lines)) := by
    rw [List.foldlM_cons]
    refine (bears_branchHead name [] word).bind fun latest opens => ?_
    obtain ⟨branch, rfl, here, condition, kind, _⟩ := opens
    have start : BranchesRead [first] [(branch, first.line)] :=
      ⟨⟨[[first]], rfl, .cons here .nil⟩, ⟨_, List.mem_singleton.mpr rfl, kind.mpr rfl⟩, List.pairwise_singleton _ _,
        List.forall_mem_singleton.mpr condition⟩
    exact Noted.bears_foldlM BranchesRead (fun before latest line _ read => read.line name line) start
  refine all.bind fun latest read => Noted.bears_next fun _ => Noted.bears_pure ?_
  obtain ⟨⟨parts, whole, each⟩, opened, order, conditioned⟩ := read
  have each := List.forall₂_map_right_iff.mpr (List.rel_reverse each)
  refine ⟨areBranches_of_pairwise ?_ ?_ ?_, parts.reverse, whole, each⟩
  · obtain ⟨entry, inside, kind⟩ := opened
    exact ⟨entry.1, List.mem_map_of_mem (List.mem_reverse.mpr inside), kind⟩
  · exact List.pairwise_map.mpr (List.pairwise_reverse.mpr order)
  · simpa using conditioned

end Branches

section Cases

/-- Whether cases with their lines, the latest first, are what some lines behind a subject say. -/
structure CasesRead (subject : Embedded) (lines : List BodyLine) (draft : SwitchDraft) : Prop where
  /-- The subject has been read. -/
  subject : draft.subject = some subject
  /-- Every line belongs to a case. -/
  parts : ∃ parts, lines = parts.reverse.flatten ∧ List.Forall₂ (fun part entry => Case.IsReadFrom part entry.1) parts draft.cases
  /-- None follows the default case. -/
  order : draft.cases.Pairwise fun _ earlier => earlier.1.value.isSome = true

/-- Cases in this order make up a switch. -/
theorem areCases_of_pairwise {cases : List Case} (valued : ∃ case ∈ cases, case.value.isSome = true)
    (order : cases.Pairwise fun earlier _ => earlier.value.isSome = true) : AreCases cases := by
  rcases List.eq_nil_or_concat cases with rfl | ⟨front, last, rfl⟩
  · obtain ⟨_, inside, _⟩ := valued
    cases inside
  rw [List.concat_eq_append] at valued order ⊢
  have front' : ∀ case ∈ front, case.value.isSome = true := fun case inside =>
    (List.pairwise_append.mp order).2.2 case inside last (List.mem_singleton.mpr rfl)
  -- The last case tells whether there is a default one.
  cases value : last.value with
  | none =>
    refine ⟨front, some last, rfl, ?_, front', by simpa using value⟩
    rintro rfl
    simp [value] at valued
  | some embedded =>
    refine ⟨front ++ [last], none, by simp, by simp, ?_, nofun⟩
    exact List.forall_mem_append.mpr ⟨front', List.forall_mem_singleton.mpr (by simp [value])⟩

/-- A text joins the lines of the latest case. -/
theorem Case.IsReadFrom.text {lines : List BodyLine} {case : Case} (read : case.IsReadFrom lines) {line : BodyLine}
    {text : TemplateText} (holds : line.ReadsAs text) :
    Case.IsReadFrom (lines ++ [line]) { case with body := case.body ++ [text] } := by
  obtain ⟨head, texts, rest, rfl, word, value, body⟩ := read
  exact ⟨head, texts ++ [line], rest, rfl, word, value, List.rel_append body (.cons holds .nil)⟩

/-- A case may follow others unless the latest one is the default case. -/
theorem CasesRead.case {subject : Embedded} {lines : List BodyLine} {draft : SwitchDraft} (read : CasesRead subject lines draft)
    (goesOn : switchLine.afterDefault draft.cases = false) {line : BodyLine} {case : Case} (here : case.IsReadFrom [line]) :
    CasesRead subject (lines ++ [line]) { draft with cases := (case, line.line) :: draft.cases } := by
  obtain ⟨subject', ⟨parts, whole, each⟩, order⟩ := read
  refine ⟨subject', ⟨[line] :: parts, by simp [whole], .cons here each⟩, List.pairwise_cons.mpr ⟨fun entry inside => ?_, order⟩⟩
  cases cases : draft.cases with
  | nil => simp [cases] at inside
  | cons top older =>
    rw [cases] at inside order goesOn
    rcases List.mem_cons.mp inside with rfl | inside
    · simpa [switchLine.afterDefault, Option.isSome_iff_ne_none] using goesOn
    · exact (List.pairwise_cons.mp order).1 entry inside

/-- One more line keeps cases as they are read, unless an error is noted. -/
theorem CasesRead.line {subject : Embedded} {lines : List BodyLine} {draft : SwitchDraft} (read : CasesRead subject lines draft)
    (name : String) (line : BodyLine) {position : Nat} (later : position ≠ 0) :
    (switchLine name draft (line, position)).Bears (CasesRead subject (lines ++ [line])) := by
  simp only [switchLine]
  split
  · rw [if_pos (bne_iff_ne.mpr later)]
    exact (Noted.bears_noteLine line.line rfl).bind fun _ absurd => absurd.elim
  · rename_i rest word
    refine Noted.bears_next fun _ => (Noted.bears_noteIf _ line.line rfl).bind fun _ goesOn => ?_
    refine (bears_requiredCondition line.line rest rfl).bind fun value parses => Noted.bears_pure (read.case goesOn ?_)
    exact ⟨line, [], rest, rfl, word, parses, .nil⟩
  · rename_i rest word
    refine Noted.bears_next fun _ => (Noted.bears_noteIf _ line.line rfl).bind fun _ goesOn => ?_
    refine (Noted.bears_noteIf _ line.line rfl).bind fun _ bare => Noted.bears_pure (read.case goesOn ?_)
    have bare : rest = [] := by simpa [List.isEmpty_iff] using bare
    exact ⟨line, [], rest, rfl, word, bare, .nil⟩
  · exact (Noted.bears_noteLine line.line rfl).bind fun _ absurd => absurd.elim
  · rename_i word
    refine (bears_notedText line.line line.text).bind fun text parses => ?_
    obtain ⟨subject', ⟨parts, whole, each⟩, order⟩ := read
    cases cases : draft.cases with
    | nil => exact (Noted.bears_noteLine line.line rfl).bind fun _ absurd => absurd.elim
    | cons entry older =>
      obtain ⟨case, start⟩ := entry
      rw [cases] at each order
      cases each with
      | @cons part _ parts _ here others =>
        refine Noted.bears_pure ⟨subject', ⟨(part ++ [line]) :: parts, by simp [whole], ?_⟩, ?_⟩
        · exact .cons (here.text ⟨word, parses⟩) others
        · exact List.pairwise_cons.mpr (List.pairwise_cons.mp order)

/-- A switch is opened by its keyword, unless an error is noted. -/
theorem bears_switchHead (name : String) {line : BodyLine} {keyword : Keyword} {rest : List Char}
    (word : keyword? line.text = some (keyword, rest)) (other : branchKind? keyword = none) :
    (switchLine name {} (line, 0)).Bears fun draft => ∃ subject, keyword = .switch ∧
      parseCondition (String.ofList rest) = .ok subject ∧ draft = ⟨some subject, []⟩ := by
  simp only [switchLine, word]
  cases keyword with
  | switch =>
    refine (bears_requiredCondition line.line rest rfl).bind fun subject parses => Noted.bears_pure ?_
    exact ⟨subject, rfl, parses, rfl⟩
  | case => exact (Noted.bears_noteIf true line.line rfl).bind fun _ absurd => by cases absurd
  | default => exact (Noted.bears_noteIf true line.line rfl).bind fun _ absurd => by cases absurd
  | opening => cases other
  | further => cases other
  | otherwise => cases other

/-- The subject and the cases of a switch are read, unless an error is noted. -/
theorem bears_readSwitch (name : String) (range : LineRange) {first : BodyLine} {keyword : Keyword} {rest : List Char}
    (word : keyword? first.text = some (keyword, rest)) (other : branchKind? keyword = none) (lines : List BodyLine) :
    (readSwitch name range (first :: lines)).Bears fun switch => AreCases switch.2 ∧
      keyword? first.text = some (.switch, rest) ∧ parseCondition (String.ofList rest) = .ok switch.1 ∧
      ∃ parts, lines = parts.flatten ∧ List.Forall₂ Case.IsReadFrom parts switch.2 := by
  have all : ((first :: lines).zipIdx.foldlM (switchLine name) {}).Bears fun draft => ∃ subject,
      keyword = .switch ∧ parseCondition (String.ofList rest) = .ok subject ∧ CasesRead subject lines draft := by
    rw [List.zipIdx_cons, List.foldlM_cons]
    refine (bears_switchHead name word other).bind fun draft opens => ?_
    obtain ⟨subject, switch, parses, rfl⟩ := opens
    have start : CasesRead subject [] ⟨some subject, []⟩ := ⟨rfl, ⟨[], rfl, .nil⟩, .nil⟩
    -- Every other line stands at a later position.
    have run : ((lines.zipIdx (0 + 1)).foldlM (switchLine name) ⟨some subject, []⟩).Bears fun draft =>
        CasesRead subject (([] ++ lines.zipIdx (0 + 1)).map Prod.fst) draft :=
      Noted.bears_foldlM (fun entries draft => CasesRead subject (entries.map Prod.fst) draft)
        (fun before draft entry inside read => by
          rw [List.map_append]
          exact read.line name entry.1 (Nat.ne_of_gt (List.le_snd_of_mem_zipIdx inside))) start
    refine run.imp fun draft read => ⟨subject, switch, parses, ?_⟩
    rwa [List.nil_append, List.zipIdx_map_fst] at read
  refine all.bind fun draft read => ?_
  obtain ⟨subject, rfl, parses, read, ⟨parts, whole, each⟩, order⟩ := read
  dsimp only
  split
  · -- A switch without a case that has a value is an error.
    have serious : (⟨(), [(range, .noCase name)]⟩ : Noted Unit).Bears fun _ => False := fun mild => by
      cases mild _ List.mem_cons_self
    exact serious.bind fun _ absurd => absurd.elim
  · rename_i some
    refine Noted.bears_next fun _ => Noted.bears_pure ?_
    have each := List.forall₂_map_right_iff.mpr (List.rel_reverse each)
    refine ⟨areCases_of_pairwise ?_ (List.pairwise_map.mpr (List.pairwise_reverse.mpr order)), word, by simpa [read] using parses,
      parts.reverse, whole, each⟩
    simpa [Option.isSome_iff_ne_none] using some

end Cases

section Bodies

/-- A body of lines with a dash is read, unless an error is noted. -/
theorem bears_readPlainBody (name : String) (range : LineRange) (lines : List BodyLine) :
    (readPlainBody name range lines).Bears fun body => body.IsWellFormed ∧ body.IsReadFrom (.plain lines) := by
  unfold readPlainBody
  split
  · exact fun _ => ⟨trivial, .nil⟩
  · rename_i first lines
    split
    · exact (bears_readCandidates name _).bind fun texts each => Noted.bears_pure ⟨trivial, each⟩
    · rename_i found
      obtain ⟨⟨keyword, rest⟩, word, rfl⟩ := Option.map_eq_some_iff.mp found
      split
      · exact (bears_readBranches name word lines).bind fun branches read => Noted.bears_pure read
      · rename_i other
        have other : branchKind? keyword = none := by simpa using other
        refine (bears_readSwitch name range word other lines).bind fun switch read => Noted.bears_pure ?_
        obtain ⟨are, head, subject, parts, rfl, each⟩ := read
        exact ⟨are, first, rest, parts, rfl, head, subject, each⟩

/-- A line of a structured body is read, unless an error is noted. -/
theorem bears_readStructureLine (line : BodyLine) :
    (readStructureLine line).Bears fun part => ∃ read, part = some read ∧ read.IsReadFrom line := by
  simp only [readStructureLine]
  split
  · rename_i whole
    split
    · refine (bears_notedCondition line.line line.text).bind fun embedded parses => Noted.bears_pure ?_
      exact ⟨.merge embedded, rfl, whole, parses⟩
    · exact (Noted.bears_noteLine line.line rfl).bind fun _ absurd => absurd.elim
  · rename_i left right cut
    split
    · exact (Noted.bears_noteLine line.line rfl).bind fun _ absurd => absurd.elim
    · rename_i proper
      rw [Bool.or_eq_true, not_or, Bool.not_eq_true', Bool.not_eq_false] at proper
      have values := Noted.bears_mapM (fun value => bears_notedText line.line (trimChars value)) (splitAll '|' (trimChars right))
      refine values.bind fun values parse => Noted.bears_pure ⟨.property _ values, rfl, left, right, cut, rfl, ?_, proper.2, parse⟩
      simpa [List.isEmpty_iff] using proper.1

/-- The lines of a structured body are read, unless an error is noted. -/
theorem bears_readStructureLines (lines : List BodyLine) :
    (readStructureLines lines).Bears (List.Forall₂ StructureLine.IsReadFrom lines) := by
  induction lines with
  | nil => exact Noted.bears_pure .nil
  | cons line lines later =>
    refine (bears_readStructureLine line).bind fun part found => later.bind fun parts each => Noted.bears_pure ?_
    obtain ⟨read, rfl, here⟩ := found
    exact .cons here each

/-- The body of a draft that was closed is read, unless an error is noted. -/
theorem Draft.bears_read (draft : Draft) (name : String) (range : LineRange)
    (closed : ∀ typeName lines closed, draft = .structured typeName lines closed →
      closed = true ∧ isProperName typeName.toList = true) :
    (draft.read name range).Bears fun body => body.IsWellFormed ∧ body.IsReadFrom draft := by
  cases draft with
  | plain lines => exact bears_readPlainBody name range lines
  | structured typeName lines closed' =>
    obtain ⟨rfl, proper⟩ := closed typeName lines closed' rfl
    exact (bears_readStructureLines lines).bind fun parts each => Noted.bears_pure ⟨proper, rfl, rfl, each⟩

end Bodies

section Expressions

/-- A condition that was read is the one that its text spells. -/
theorem isFaithful_of_parseCondition {text : String} {embedded : Embedded} (reads : parseCondition text = .ok embedded) :
    embedded.IsFaithful := by
  simp only [parseCondition] at reads
  split at reads
  · split at reads
    · exact isFaithful_of_embed reads
    · exact isFaithful_of_embed reads
  · exact isFaithful_of_embed reads

/-- Whether all of some embedded expressions are the ones that their texts spell. -/
def AllFaithful (expressions : List Embedded) : Prop :=
  -- No expression is a stand-in for one that could not be read.
  ∀ embedded ∈ expressions, embedded.IsFaithful

/-- The expressions of a text that was read are the ones that their texts spell. -/
theorem allFaithful_of_parse {source : String} {text : TemplateText} (reads : TemplateText.parse source = .ok text) :
    AllFaithful text.expressions := by
  intro embedded inside
  obtain ⟨segment, among, here⟩ := List.mem_filterMap.mp inside
  have normal := (TemplateText.isNormal_of_parse reads).each segment among
  cases segment with
  | literal text => cases here
  | expression embedded =>
    cases here
    exact normal

/-- The expressions of texts that were read are the ones that their texts spell. -/
theorem allFaithful_of_forall₂ {α : Type} (raw : α → String) {Reads : α → TemplateText → Prop}
    (reads : ∀ item text, Reads item text → TemplateText.parse (raw item) = .ok text) {items : List α}
    {texts : List TemplateText} (each : List.Forall₂ Reads items texts) : AllFaithful (textsExpressions texts) := by
  induction each with
  | nil => exact nofun
  | cons here _ later => exact List.forall_mem_append.mpr ⟨allFaithful_of_parse (reads _ _ here), later⟩

/-- The expression behind a keyword is the one that its text spells. -/
theorem ReadsAsGuard.allFaithful {rest : List Char} {guard : Option Embedded} (reads : ReadsAsGuard rest guard) :
    AllFaithful guard.toList := by
  cases guard with
  | none => exact nofun
  | some embedded => exact List.forall_mem_singleton.mpr (isFaithful_of_parseCondition reads)

/-- The expressions of parts that were read are the ones that their texts spell if those of each part are. -/
theorem allFaithful_flatMap {α β : Type} {Reads : α → β → Prop} {expressions : β → List Embedded}
    (each : ∀ item part, Reads item part → AllFaithful (expressions part)) {items : List α} {parts : List β}
    (read : List.Forall₂ Reads items parts) : AllFaithful (parts.flatMap expressions) := by
  induction read with
  | nil => exact nofun
  | cons here _ later => exact List.forall_mem_append.mpr ⟨each _ _ here, later⟩

/-- The expressions of a body that was read are the ones that their texts spell. -/
theorem Body.IsReadFrom.allFaithful {draft : Draft} {body : Body} (read : body.IsReadFrom draft) :
    AllFaithful body.expressions := by
  have texts {lines : List BodyLine} {texts : List TemplateText} (each : List.Forall₂ BodyLine.ReadsAs lines texts) :
      AllFaithful (textsExpressions texts) :=
    allFaithful_of_forall₂ (fun line => String.ofList line.text) (fun _ _ reads => reads.2) each
  cases draft with
  | plain lines =>
    cases body with
    | normal candidates => exact texts read
    | conditional branches =>
      obtain ⟨parts, _, each⟩ := read
      refine allFaithful_flatMap (fun part branch here => ?_) each
      obtain ⟨_, _, _, _, _, _, _, condition, body⟩ := here
      exact List.forall_mem_append.mpr ⟨condition.allFaithful, texts body⟩
    | switch subject cases =>
      obtain ⟨_, _, parts, _, _, parses, each⟩ := read
      refine List.forall_mem_cons.mpr ⟨isFaithful_of_parseCondition parses, allFaithful_flatMap (fun part case here => ?_) each⟩
      obtain ⟨_, _, _, _, _, value, body⟩ := here
      exact List.forall_mem_append.mpr ⟨value.allFaithful, texts body⟩
    | structured typeName parts => cases read
  | structured typeName lines closed =>
    cases body with
    | structured typeName' parts =>
      obtain ⟨_, _, each⟩ := read
      refine allFaithful_flatMap (fun line part here => ?_) each
      cases part with
      | merge embedded => exact List.forall_mem_singleton.mpr (isFaithful_of_parseCondition here.2)
      | property key values =>
        obtain ⟨_, _, _, _, _, _, values⟩ := here
        exact allFaithful_of_forall₂ (fun raw => String.ofList (trimChars raw)) (fun _ _ reads => reads) values
    | normal candidates => cases read
    | conditional branches => cases read
    | switch subject cases => cases read

end Expressions

end Phrasebook
