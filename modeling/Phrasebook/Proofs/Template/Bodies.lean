import Phrasebook.Proofs.Expression.Spelling
import Phrasebook.Proofs.Template.Texts
import Phrasebook.Proofs.Text.Separators

/-! Bodies are read back from the texts that are written for them. -/

namespace Phrasebook

/-- Whether a value is good and nothing but warnings was noted on the way to it. -/
structure Noted.Warns {α : Type} (noted : Noted α) (Good : α → Prop) : Prop where
  /-- The value is good. -/
  good : Good noted.value
  /-- Every note is a warning. -/
  warnings : ∀ note ∈ noted.notes, note.2.severity = .warning

namespace Noted

variable {α β σ : Type}

instance : LawfulMonad Noted :=
  -- Notes are put together as lists are.
  LawfulMonad.mk' Noted (fun _ => by simp [Functor.map]) (fun _ _ => by simp [bind, pure])
    (fun _ _ _ => by simp [bind, List.append_assoc])

/-- What is good may be good in another way. -/
theorem Warns.imp {noted : Noted α} {Good Better : α → Prop} (warns : noted.Warns Good)
    (better : ∀ value, Good value → Better value) : noted.Warns Better :=
  ⟨better _ warns.good, warns.warnings⟩

/-- A good value without notes is good. -/
theorem warns_pure {Good : α → Prop} {value : α} (good : Good value) : (pure value : Noted α).Warns Good :=
  ⟨good, nofun⟩

/-- A value is good if it is made out of a good one with warnings only. -/
theorem Warns.bind {first : Noted α} {Good : α → Prop} (warns : first.Warns Good) {next : α → Noted β} {Better : β → Prop}
    (later : ∀ value, Good value → (next value).Warns Better) : (first >>= next).Warns Better := by
  have second := later first.value warns.good
  exact ⟨second.good, List.forall_mem_append.mpr ⟨warns.warnings, second.warnings⟩⟩

/-- A warning may be noted, and nothing else if the condition does not hold. -/
theorem warns_noteIf {condition : Bool} (line : Nat) {fault : Fault} (mild : condition = true → fault.severity = .warning) :
    (noteIf condition line fault).Warns fun _ => True := by
  refine ⟨trivial, ?_⟩
  cases condition with
  | false => exact nofun
  | true => simpa [noteIf, noteLine] using mild rfl

/-- Each of several steps may note warnings. -/
theorem warns_forM {step : α → Noted PUnit} {items : List α} (each : ∀ item ∈ items, (step item).Warns fun _ => True) :
    (items.forM step).Warns fun _ => True := by
  induction items with
  | nil => exact warns_pure trivial
  | cons item items later =>
    obtain ⟨here, others⟩ := List.forall_mem_cons.mp each
    have both : (step item >>= fun _ => items.forM step).Warns fun _ => True := here.bind fun _ _ => later others
    exact both

/-- Each of several parts is made with warnings only. -/
theorem warns_mapM {step : α → Noted β} {text : α → List Char} {chars : β → List Char} {parts : List β}
    (each : ∀ part ∈ parts, ∀ item, text item = chars part → (step item).Warns (· = part)) {items : List α}
    (texts : items.map text = parts.map chars) : (items.mapM step).Warns (· = parts) := by
  induction parts generalizing items with
  | nil =>
    obtain rfl := List.map_eq_nil_iff.mp texts
    exact warns_pure rfl
  | cons part parts later =>
    obtain ⟨item, items, rfl, here, others⟩ := List.map_eq_cons_iff.mp texts
    obtain ⟨first, each⟩ := List.forall_mem_cons.mp each
    rw [List.mapM_cons]
    refine (first item here).bind fun value same => (later each others).bind fun values same' => warns_pure ?_
    rw [same, same']

/-- What holds after each part, in front of which the others stand, holds of all parts. -/
theorem warns_foldlM_flatMap {γ : Type} {step : σ → α → Noted σ} {text : α → List Char} {chars : γ → List (List Char)}
    {parts : List γ} (After : List γ → σ → Prop) (Known : α → Prop)
    (each : ∀ before part after state (items : List α), parts = before ++ part :: after → After before state →
      (∀ item ∈ items, Known item) → items.map text = chars part → (items.foldlM step state).Warns (After (before ++ [part])))
    {state : σ} (start : After [] state) {items : List α} (known : ∀ item ∈ items, Known item)
    (texts : items.map text = parts.flatMap chars) : (items.foldlM step state).Warns (After parts) := by
  -- What has been read is moved from the parts to come to those before.
  have run (before after : List γ) (state : σ) (items : List α) (whole : parts = before ++ after) (held : After before state)
      (known : ∀ item ∈ items, Known item) (texts : items.map text = after.flatMap chars) :
      (items.foldlM step state).Warns (After parts) := by
    induction after generalizing before state items with
    | nil =>
      obtain rfl := List.map_eq_nil_iff.mp texts
      rw [List.append_nil] at whole
      exact warns_pure (whole ▸ held)
    | cons part after later =>
      rw [List.flatMap_cons] at texts
      obtain ⟨here, others, rfl, front, back⟩ := List.map_eq_append_iff.mp texts
      obtain ⟨known, known'⟩ := List.forall_mem_append.mp known
      rw [List.foldlM_append]
      refine (each before part after state here whole held known front).bind fun state held => ?_
      exact later (before ++ [part]) state others (by simp [whole]) held known' back
  exact run [] parts state items rfl start known texts

end Noted

section Lines

variable (layout : Layout)

/-- A text is read from what is written for it. -/
theorem warns_notedText (place : TextPlace) {text : TemplateText} (writable : text.IsWritable) (line : Nat) :
    (notedText line (layout.text place text)).Warns (· = text) := by
  simp only [notedText, layout.parse_text place writable]
  exact Noted.warns_pure rfl

/-- A condition between its signs is read. -/
theorem warns_notedCondition {embedded : Embedded} (writable : embedded.IsWritable) (line : Nat) :
    (notedCondition line (embeddedChars embedded.source.toList)).Warns (· = embedded) := by
  have faithful := writable.faithful
  have blank : ∀ c ∈ ([] : List Char), isBlank c = true := nofun
  have read := Expression.parseCondition_enclosed faithful.accepted blank blank
  rw [List.nil_append, List.append_nil, trimText, show trimChars _ = _ from faithful.trimmed, String.ofList_toList] at read
  simp only [notedCondition, read]
  exact Noted.warns_pure rfl

/-- A condition between its signs is not missing. -/
theorem warns_requiredCondition {embedded : Embedded} (writable : embedded.IsWritable) (line : Nat) (missing : Fault) :
    (requiredCondition line (embeddedChars embedded.source.toList) missing).Warns (· = embedded) := by
  have some : ¬ (embeddedChars embedded.source.toList).isEmpty = true := by simp [embeddedChars]
  rw [requiredCondition, if_neg some]
  exact warns_notedCondition writable line

/-- The words that open branches and cases. -/
def keywords : List (String × Keyword) :=
  -- Each is written in one way.
  [("IF", .opening), ("ELSE IF", .further), ("ELSE", .otherwise), ("SWITCH", .switch), ("CASE", .case),
    ("DEFAULT", .default)]

/-- A keyword is known by its word in front of the first colon. -/
theorem keyword?_word {entry : String × Keyword} (known : entry ∈ keywords) (rest : List Char) :
    keyword? (entry.1.toList ++ ':' :: rest) = some (entry.2, trimChars rest) := by
  simp only [keywords, List.mem_cons, List.not_mem_nil, or_false] at known
  rcases known with rfl | rfl | rfl | rfl | rfl | rfl
  all_goals rfl

/-- A keyword is known with the condition behind it. -/
theorem keyword?_keywordText {word : String} {keyword : Keyword} (known : (word, keyword) ∈ keywords)
    (condition : Option Embedded) :
    keyword? (keywordText word condition) =
      some (keyword, (condition.map fun embedded => embeddedChars embedded.source.toList).getD []) := by
  cases condition with
  | none => exact keyword?_word known []
  | some embedded =>
    have space : ∀ c ∈ [' '], isBlank c = true := by decide
    have trimmed : trimChars (' ' :: embeddedChars embedded.source.toList) = embeddedChars embedded.source.toList :=
      (trimChars_front space _).trans (isTrimmed_embeddedChars _)
    rw [keywordText, keyword?_word known, trimmed]
    rfl

/-- A text is no keyword. -/
theorem keyword?_text (text : TemplateText) : keyword? (layout.text .dashed text) = none :=
  keyword?_of_colonHidden (layout.text_colonHidden text)

/-- Alternative texts are read. -/
theorem warns_readCandidates (name : String) {candidates : List TemplateText}
    (writable : ∀ text ∈ candidates, text.IsWritable) {lines : List BodyLine} (texts : lines.map (·.text) = candidates.map (layout.text .dashed)) :
    (readCandidates name lines).Warns (· = candidates) := by
  induction candidates generalizing lines with
  | nil =>
    obtain rfl := List.map_eq_nil_iff.mp texts
    exact Noted.warns_pure rfl
  | cons text candidates later =>
    obtain ⟨line, lines, rfl, here, others⟩ := List.map_eq_cons_iff.mp texts
    obtain ⟨writable, writable'⟩ := List.forall_mem_cons.mp writable
    have plain : ¬ (keyword? line.text).isSome = true := by simp [here, keyword?_text]
    rw [readCandidates, if_neg plain, here]
    refine (warns_notedText layout .dashed writable line.line).bind fun value same => ?_
    refine (later writable' others).bind fun values same' => Noted.warns_pure ?_
    rw [same, same']

section Branches

variable (name : String)

/-- A text belongs to the latest branch. -/
theorem warns_branchText {text : TemplateText} (writable : text.IsWritable) {line : BodyLine}
    (chars : line.text = layout.text .dashed text) (branch : Branch) (start : Nat) (rest : List (Branch × Nat)) :
    (branchLine name ((branch, start) :: rest) line).Warns
      (· = ({ branch with body := branch.body ++ [text] }, start) :: rest) := by
  simp only [branchLine, chars, keyword?_text]
  refine (warns_notedText layout .dashed writable line.line).bind fun value same => Noted.warns_pure ?_
  rw [same, addToBranch]

/-- Texts belong to the latest branch. -/
theorem warns_branchTexts {texts : List TemplateText} (writable : ∀ text ∈ texts, text.IsWritable) {lines : List BodyLine}
    (chars : lines.map (·.text) = texts.map (layout.text .dashed)) (branch : Branch) (start : Nat)
    (rest : List (Branch × Nat)) :
    (lines.foldlM (branchLine name) ((branch, start) :: rest)).Warns
      (· = ({ branch with body := branch.body ++ texts }, start) :: rest) := by
  induction texts generalizing lines branch with
  | nil =>
    obtain rfl := List.map_eq_nil_iff.mp chars
    exact Noted.warns_pure (by simp)
  | cons text texts later =>
    obtain ⟨line, lines, rfl, here, others⟩ := List.map_eq_cons_iff.mp chars
    obtain ⟨writable, writable'⟩ := List.forall_mem_cons.mp writable
    rw [List.foldlM_cons]
    refine (warns_branchText layout name writable here branch start rest).bind fun latest same => ?_
    have further := later writable' others { branch with body := branch.body ++ [text] }
    rw [same]
    simpa using further

/-- The word of a branch is a keyword that opens it. -/
theorem exists_keyword (kind : BranchKind) :
    ∃ keyword, (kind.word, keyword) ∈ keywords ∧ branchKind? keyword = some kind := by
  cases kind with
  | first => exact ⟨.opening, by decide, rfl⟩
  | further => exact ⟨.further, by decide, rfl⟩
  | otherwise => exact ⟨.otherwise, by decide, rfl⟩

/-- A keyword with its condition opens a branch where it may stand. -/
theorem warns_branchHead {branch : Branch} {line : BodyLine}
    (chars : line.text = keywordText branch.kind.word branch.condition)
    (conditioned : branch.condition.isNone = true ↔ branch.kind = .otherwise)
    (writable : ∀ embedded ∈ branch.condition, embedded.IsWritable) {latest : List (Branch × Nat)}
    (opens : branch.kind = .first ↔ latest = []) (goesOn : ∀ entry ∈ latest, entry.1.kind ≠ .otherwise) :
    (branchLine name latest line).Warns (· = (⟨branch.kind, branch.condition, []⟩, line.line) :: latest) := by
  obtain ⟨keyword, known, kind⟩ := exists_keyword branch.kind
  simp only [branchLine, chars, keyword?_keywordText known, kind]
  -- None of the faults of a keyword that stands in a wrong place is noted.
  refine (Noted.warns_noteIf _ fun late => ?_).bind fun _ _ => ?_
  · cases latest with
    | nil => cases late
    | cons entry rest => exact absurd (beq_iff_eq.mp late) (goesOn entry List.mem_cons_self)
  refine (Noted.warns_noteIf _ fun late => ?_).bind fun _ _ => ?_
  · simp only [Bool.and_eq_true, beq_iff_eq, Bool.not_eq_true', List.isEmpty_eq_false_iff] at late
    exact absurd (opens.mp late.1) late.2
  refine (Noted.warns_noteIf _ fun missing => ?_).bind fun _ _ => ?_
  · simp only [Bool.and_eq_true, bne_iff_ne, List.isEmpty_iff] at missing
    exact absurd (opens.mpr missing.2) missing.1
  cases condition : branch.condition with
  | none =>
    have last : branch.kind = .otherwise := conditioned.mp (by simp [condition])
    simp only [last, beq_self_eq_true, if_true]
    refine (Noted.warns_noteIf _ fun more => ?_).bind fun _ _ => Noted.warns_pure rfl
    simp at more
  | some embedded =>
    have other : branch.kind ≠ .otherwise := fun last => by simp [condition] at conditioned; exact conditioned last
    simp only [beq_iff_eq, other, if_false]
    refine (warns_requiredCondition (writable embedded (by simp [condition])) line.line _).bind fun value same => ?_
    exact Noted.warns_pure (by rw [same])

/-- If something may stand at the end of a list, whatever is in front of a member of the whole belongs to the list. -/
theorem exists_append_of_append_toList {α : Type} {front before after : List α} {last : Option α} {part : α}
    (whole : front ++ last.toList = before ++ part :: after) : ∃ more, front = before ++ more := by
  cases last with
  | none => exact ⟨part :: after, by simpa using whole⟩
  | some last =>
    rcases List.eq_nil_or_concat after with rfl | ⟨rest, end', rfl⟩
    · have same : front = before := (List.append_inj' whole rfl).1
      exact ⟨[], by simpa using same⟩
    · rw [List.concat_eq_append, ← List.cons_append, ← List.append_assoc] at whole
      exact ⟨part :: rest, (List.append_inj' whole rfl).1⟩

/-- A branch of a conditional is opened as the first exactly if it is, and not behind the one for all other cases. -/
theorem AreBranches.order {branches before after : List Branch} {branch : Branch} (are : AreBranches branches)
    (whole : branches = before ++ branch :: after) :
    (branch.kind = .first ↔ before = []) ∧ ∀ other ∈ before, other.kind ≠ .otherwise := by
  obtain ⟨first, further, last, rfl, opens, goesOn, ends, _⟩ := are
  cases before with
  | nil =>
    obtain ⟨rfl, _⟩ := List.cons.inj whole
    exact ⟨by simp [opens], nofun⟩
  | cons other before =>
    obtain ⟨rfl, later⟩ := List.cons.inj whole
    obtain ⟨more, front⟩ := exists_append_of_append_toList later
    refine ⟨⟨fun same => ?_, nofun⟩, fun other inside => ?_⟩
    · -- No later branch is opened as the first.
      have among : branch ∈ further ++ last.toList := by simp [later]
      rcases List.mem_append.mp among with inside | inside
      · simp [goesOn branch inside] at same
      · simp [ends branch (Option.mem_toList.mp inside)] at same
    · rcases List.mem_cons.mp inside with rfl | inside
      · simp [opens]
      · simp [goesOn other (front ▸ List.mem_append_left more inside)]

/-- The branches of a conditional are read. -/
theorem warns_readBranches {branches : List Branch} (writable : (Body.conditional branches).IsWritable)
    {lines : List BodyLine} (texts : lines.map (·.text) = branches.flatMap layout.branch) : (readBranches name lines).Warns (· = branches) := by
  obtain ⟨are, writable⟩ := writable
  have all : (lines.foldlM (branchLine name) []).Warns fun latest => latest.map (·.1) = branches.reverse := by
    refine Noted.warns_foldlM_flatMap (fun before (latest : List (Branch × Nat)) => latest.map (·.1) = before.reverse)
      (fun _ => True) (fun before branch after latest items whole held _ texts => ?_) rfl (fun _ _ => trivial) texts
    obtain ⟨opens, goesOn⟩ := are.order whole
    have among : branch ∈ branches := by simp [whole]
    obtain ⟨_, _, _, _, _, _, _, conditioned⟩ := are
    obtain ⟨condition, body⟩ := writable branch among
    obtain ⟨line, items, rfl, here, others⟩ := List.map_eq_cons_iff.mp texts
    have opens' : branch.kind = .first ↔ latest = [] := by
      rw [opens, ← List.map_eq_nil_iff (f := fun entry : Branch × Nat => entry.1), held, List.reverse_eq_nil_iff]
    have goesOn' : ∀ entry ∈ latest, entry.1.kind ≠ .otherwise := by
      intro entry inside
      have earlier : entry.1 ∈ latest.map (·.1) := List.mem_map_of_mem inside
      rw [held] at earlier
      exact goesOn _ (List.mem_reverse.mp earlier)
    rw [List.foldlM_cons]
    refine (warns_branchHead name here (conditioned branch among) condition opens' goesOn').bind fun latest' same => ?_
    rw [same]
    have body' := warns_branchTexts layout name body others ⟨branch.kind, branch.condition, []⟩ line.line latest
    exact body'.imp fun last same => by simp [same, held]
  refine all.bind fun latest same => ?_
  refine (Noted.warns_forM fun entry _ => Noted.warns_noteIf _ fun _ => rfl).bind fun _ _ => Noted.warns_pure ?_
  rw [List.map_reverse, same, List.reverse_reverse]

end Branches

section Cases

variable (name : String)

/-- A text belongs to the latest case. -/
theorem warns_caseText {text : TemplateText} (writable : text.IsWritable) {entry : BodyLine × Nat}
    (chars : entry.1.text = layout.text .dashed text) (subject : Option Embedded) (case : Case) (start : Nat)
    (rest : List (Case × Nat)) :
    (switchLine name ⟨subject, (case, start) :: rest⟩ entry).Warns
      (· = ⟨subject, ({ case with body := case.body ++ [text] }, start) :: rest⟩) := by
  simp only [switchLine, chars, keyword?_text]
  refine (warns_notedText layout .dashed writable entry.1.line).bind fun value same => Noted.warns_pure ?_
  rw [same]

/-- Texts belong to the latest case. -/
theorem warns_caseTexts {texts : List TemplateText} (writable : ∀ text ∈ texts, text.IsWritable)
    {entries : List (BodyLine × Nat)} (chars : entries.map (·.1.text) = texts.map (layout.text .dashed))
    (subject : Option Embedded) (case : Case) (start : Nat) (rest : List (Case × Nat)) :
    (entries.foldlM (switchLine name) ⟨subject, (case, start) :: rest⟩).Warns
      (· = ⟨subject, ({ case with body := case.body ++ texts }, start) :: rest⟩) := by
  induction texts generalizing entries case with
  | nil =>
    obtain rfl := List.map_eq_nil_iff.mp chars
    exact Noted.warns_pure (by simp)
  | cons text texts later =>
    obtain ⟨entry, entries, rfl, here, others⟩ := List.map_eq_cons_iff.mp chars
    obtain ⟨writable, writable'⟩ := List.forall_mem_cons.mp writable
    rw [List.foldlM_cons]
    refine (warns_caseText layout name writable here subject case start rest).bind fun draft same => ?_
    have further := later writable' others { case with body := case.body ++ [text] }
    rw [same]
    simpa using further

/-- A keyword with its value opens a case where it may stand. -/
theorem warns_caseHead {case : Case} {entry : BodyLine × Nat}
    (chars : entry.1.text = keywordText (if case.value.isSome then "CASE" else "DEFAULT") case.value)
    (writable : ∀ embedded ∈ case.value, embedded.IsWritable) (later : entry.2 ≠ 0) {draft : SwitchDraft}
    (goesOn : ∀ entry ∈ draft.cases, entry.1.value.isSome = true) :
    (switchLine name draft entry).Warns (· = ⟨draft.subject, (⟨case.value, []⟩, entry.1.line) :: draft.cases⟩) := by
  have later : ¬ (entry.2 == 0) = true := by simpa using later
  have goesOn : ¬ switchLine.afterDefault draft.cases = true := by
    cases cases : draft.cases with
    | nil => exact nofun
    | cons entry rest =>
      have valued := goesOn entry (by simp [cases])
      simp [switchLine.afterDefault, Option.isSome_iff_ne_none.mp valued]
  -- A case may stand after the first line and not behind the default one.
  cases value : case.value with
  | none =>
    rw [value] at chars
    simp only [switchLine, chars, Option.isSome_none, Bool.false_eq_true, if_false,
      keyword?_keywordText (show ("DEFAULT", Keyword.default) ∈ keywords by decide)]
    refine (Noted.warns_noteIf _ fun first => absurd first later).bind fun _ _ => ?_
    refine (Noted.warns_noteIf _ fun after => absurd after goesOn).bind fun _ _ => ?_
    exact (Noted.warns_noteIf _ fun more => by simp at more).bind fun _ _ => Noted.warns_pure rfl
  | some embedded =>
    rw [value] at chars
    simp only [switchLine, chars, Option.isSome_some, if_true,
      keyword?_keywordText (show ("CASE", Keyword.case) ∈ keywords by decide)]
    refine (Noted.warns_noteIf _ fun first => absurd first later).bind fun _ _ => ?_
    refine (Noted.warns_noteIf _ fun after => absurd after goesOn).bind fun _ _ => ?_
    refine (warns_requiredCondition (writable embedded value) entry.1.line _).bind fun embedded same => ?_
    exact Noted.warns_pure (by rw [same])

/-- A keyword with its expression opens a switch on the first line. -/
theorem warns_switchHead {subject : Embedded} (writable : subject.IsWritable) {line : BodyLine}
    (chars : line.text = keywordText "SWITCH" (some subject)) :
    (switchLine name {} (line, 0)).Warns (· = ⟨some subject, []⟩) := by
  simp only [switchLine, chars, keyword?_keywordText (show ("SWITCH", Keyword.switch) ∈ keywords by decide)]
  exact (warns_requiredCondition writable line.line _).bind fun embedded same => Noted.warns_pure (by rw [same])

/-- No case of a switch stands behind the default one. -/
theorem AreCases.order {cases before after : List Case} {case : Case} (are : AreCases cases)
    (whole : cases = before ++ case :: after) : ∀ other ∈ before, other.value.isSome = true := by
  obtain ⟨valued, last, rfl, _, values, _⟩ := are
  obtain ⟨more, front⟩ := exists_append_of_append_toList whole
  exact fun other inside => values other (front ▸ List.mem_append_left more inside)

/-- A switch has a case with a value. -/
theorem AreCases.exists_value {cases : List Case} (are : AreCases cases) : ∃ case ∈ cases, case.value.isSome = true := by
  obtain ⟨valued, last, rfl, some, values, _⟩ := are
  obtain ⟨case, inside⟩ := List.exists_mem_of_ne_nil valued some
  exact ⟨case, List.mem_append_left _ inside, values case inside⟩

/-- The subject and the cases of a switch are read. -/
theorem warns_readSwitch (range : LineRange) {subject : Embedded} {cases : List Case}
    (writable : (Body.switch subject cases).IsWritable) {lines : List BodyLine}
    (texts : lines.map (·.text) = layout.dashedTexts (.switch subject cases)) :
    (readSwitch name range lines).Warns (· = (subject, cases)) := by
  obtain ⟨are, writable, writable'⟩ := writable
  obtain ⟨line, lines, rfl, head, texts⟩ := List.map_eq_cons_iff.mp texts
  have all : ((line :: lines).zipIdx.foldlM (switchLine name) {}).Warns fun draft =>
      draft.subject = some subject ∧ draft.cases.map (·.1) = cases.reverse := by
    rw [List.zipIdx_cons, List.foldlM_cons]
    refine (warns_switchHead name writable head).bind fun draft same => ?_
    -- Every other line stands at a later position.
    have later : ∀ entry ∈ lines.zipIdx (0 + 1), entry.2 ≠ 0 := fun entry inside =>
      Nat.ne_of_gt (List.le_snd_of_mem_zipIdx inside)
    have others : (lines.zipIdx (0 + 1)).map (·.1.text) = cases.flatMap layout.case := by
      rw [← texts, ← List.zipIdx_map_fst (0 + 1) lines, List.map_map]
      simp
    refine Noted.warns_foldlM_flatMap
      (fun before (draft : SwitchDraft) => draft.subject = some subject ∧ draft.cases.map (·.1) = before.reverse)
      (fun entry => entry.2 ≠ 0) (fun before case after draft entries whole held later texts => ?_) (by simp [same]) later
      others
    obtain ⟨value, body⟩ := writable' case (by simp [whole])
    obtain ⟨entry, entries, rfl, here, others⟩ := List.map_eq_cons_iff.mp texts
    have goesOn : ∀ entry ∈ draft.cases, entry.1.value.isSome = true := by
      intro entry inside
      have earlier : entry.1 ∈ draft.cases.map (·.1) := List.mem_map_of_mem inside
      rw [held.2] at earlier
      exact are.order whole _ (List.mem_reverse.mp earlier)
    rw [List.foldlM_cons]
    refine (warns_caseHead name here value (later entry List.mem_cons_self) goesOn).bind fun draft' same => ?_
    rw [same]
    have body' := warns_caseTexts layout name body others draft.subject ⟨case.value, []⟩ entry.1.line draft.cases
    exact body'.imp fun last same => by simp [same, held]
  refine all.bind fun draft held => ?_
  have same : draft.cases.reverse.map (·.1) = cases := by rw [List.map_reverse, held.2, List.reverse_reverse]
  dsimp only
  split
  · -- Some case has a value.
    rename_i none
    obtain ⟨case, among, value⟩ := are.exists_value
    obtain ⟨entry, inside, rfl⟩ := List.mem_map.mp (same.symm ▸ among)
    have missing : entry.1.value.isNone = true := List.all_eq_true.mp none entry inside
    simp [Option.isNone_iff_eq_none.mp missing] at value
  refine (Noted.warns_forM fun entry _ => Noted.warns_noteIf _ fun _ => rfl).bind fun _ _ => Noted.warns_pure ?_
  rw [held.1, same]
  rfl

end Cases

section Structures

/-- A part of a name is no white space. -/
theorem dark_of_isNameChar {c : Char} (named : isNameChar c = true) : isBlank c = false := by
  cases blank : isBlank c with
  | false => rfl
  | true =>
    -- Dots and dashes are the only characters of names that cannot stand in identifiers.
    have other := continuesIdentifier_of_isBlank c blank
    rw [continuesIdentifier] at other
    rw [isNameChar, other, Bool.false_or, Bool.or_eq_true, beq_iff_eq, beq_iff_eq] at named
    rcases named with rfl | rfl
    · exact absurd blank (by decide)
    · exact absurd blank (by decide)

/-- The equals sign of a property is found behind its name. -/
theorem splitOnce_property {key : List Char} (named : ∀ c ∈ key, isNameChar c = true) (some : key ≠ []) (tail : List Char) :
    splitOnce '=' (trimChars (key ++ [' ', '=', ' '] ++ tail)) = Option.some (key ++ [' '], trimBack (' ' :: tail)) := by
  obtain ⟨c, rest, start⟩ := List.exists_cons_of_ne_nil some
  have opens : Opens key := ⟨c, rest, start, dark_of_isNameChar (named c (by simp [start]))⟩
  have front : trimChars (key ++ [' ', '=', ' '] ++ tail) = key ++ [' '] ++ '=' :: trimBack (' ' :: tail) := by
    rw [trimChars, List.append_assoc, (opens.append _).trimFront]
    have whole := trimBack_append_cons (show isBlank '=' = false by decide) (key ++ [' ']) (' ' :: tail)
    simpa using whole
  rw [front]
  refine splitOnce_separator (by decide) (passed_of_all fun c inside => ?_) _
  have other : ∀ sign ∈ ['\\', '$', '='], isNameChar sign = false := by decide
  have apart : ∀ sign ∈ ['\\', '$', '='], c ≠ sign := by
    rintro sign special rfl
    rcases List.mem_append.mp inside with inside | inside
    · exact absurd (named c inside) (by simp [other c special])
    · obtain rfl := List.mem_singleton.mp inside
      exact absurd special (by decide)
  exact ⟨⟨apart _ (by decide), apart _ (by decide)⟩, apart _ (by decide)⟩

/-- The values of a property are found between its bars. -/
theorem splitAll_values {values : List TemplateText} (some : values ≠ []) (writable : ∀ value ∈ values, value.IsWritable) :
    (splitAll '|' (trimChars (' ' :: List.intercalate [' ', '|', ' '] (values.map (layout.text .value))))).map trimChars =
      values.map (layout.text .value) := by
  have trimmed : ∀ piece ∈ values.map (layout.text .value), IsTrimmed piece := by
    intro piece inside
    obtain ⟨value, among, rfl⟩ := List.mem_map.mp inside
    exact layout.text_isTrimmed .value (writable value among)
  have passed : ∀ piece ∈ values.map (layout.text .value), Passed '|' piece := by
    intro piece inside
    obtain ⟨value, among, rfl⟩ := List.mem_map.mp inside
    refine (layout.text_rendered .value value).passed (TextPlace.areInert .value) ?_ (writable value among).normal
    rintro c ⟨plain, _⟩ rfl
    exact absurd plain (by decide)
  have space : ∀ c ∈ [' '], isBlank c = true := by decide
  have dark : isBlank '|' = false := by decide
  have pieces : values.map (layout.text .value) ≠ [] := mt List.map_eq_nil_iff.mp some
  have listed : Listed '|' (values.map (layout.text .value))
      (' ' :: List.intercalate [' ', '|', ' '] (values.map (layout.text .value))) := (Listed.intercalate pieces).blank space
  exact (listed.trimChars trimmed dark).splitAll trimmed dark (by decide) passed

/-- A line of a structured body is read, whatever white space is trimmed off it. -/
theorem warns_readStructureLine {part : StructureLine} (writable : part.IsWritable) {line : BodyLine}
    (chars : line.text = trimChars (layout.structureLine part)) : (readStructureLine line).Warns (· = some part) := by
  unfold readStructureLine
  cases part with
  | merge embedded =>
    have balanced := Expression.balanced_of_parse (Embedded.IsWritable.faithful writable).accepted
    have whole : line.text = embeddedChars embedded.source.toList := chars.trans (isTrimmed_embeddedChars _)
    have marked : (afterMark ['$', '\x7b'] line.text).isSome = true := by
      simp [whole, afterMark, embeddedChars, List.isPrefixOf]
    rw [if_pos marked, whole, splitOnce_of_passed (passed_embeddedChars (balanced 0))]
    exact (warns_notedCondition writable line.line).bind fun value same => Noted.warns_pure (by rw [same])
  | property key values =>
    obtain ⟨some, named, lower, values', writable⟩ := writable
    have space : ∀ c ∈ [' '], isBlank c = true := by decide
    have key' : trimChars (key.toList ++ [' ']) = key.toList :=
      (trimChars_back _ space).trans (isTrimmed_of_dark fun c inside => dark_of_isNameChar (named c inside))
    have proper : ¬ (key.toList.isEmpty || !key.toList.all isNameChar) = true := by
      simpa [List.isEmpty_iff] using ⟨by simpa using some, named⟩
    rw [chars, Layout.structureLine, splitOnce_property named some]
    simp only [key', if_neg proper, trimChars_trimBack, String.ofList_toList, lower]
    refine (Noted.warns_mapM (fun value among item same => ?_) (splitAll_values layout values' writable)).bind
      fun values same => Noted.warns_pure (by rw [same])
    rw [same]
    exact warns_notedText layout .value (writable value among) line.line

/-- The lines of a structured body are read. -/
theorem warns_readStructureLines {parts : List StructureLine} (writable : ∀ part ∈ parts, part.IsWritable)
    {lines : List BodyLine} (chars : lines.map (·.text) = parts.map fun part => trimChars (layout.structureLine part)) :
    (readStructureLines lines).Warns (· = parts) := by
  induction parts generalizing lines with
  | nil =>
    obtain rfl := List.map_eq_nil_iff.mp chars
    exact Noted.warns_pure rfl
  | cons part parts later =>
    obtain ⟨line, lines, rfl, here, others⟩ := List.map_eq_cons_iff.mp chars
    obtain ⟨writable, writable'⟩ := List.forall_mem_cons.mp writable
    refine (warns_readStructureLine layout writable here).bind fun first same => ?_
    refine (later writable' others).bind fun rest same' => Noted.warns_pure ?_
    rw [same, same']
    rfl

end Structures

/-- Whether a draft holds what is written for a body. -/
def Draft.Holds (body : Body) : Draft → Prop
  -- The lines of a structured body lose the white space around them.
  | .plain lines => (∀ typeName parts, body ≠ .structured typeName parts) ∧ lines.map (·.text) = layout.dashedTexts body
  | .structured typeName lines closed => closed = true ∧ ∃ parts, body = .structured typeName parts ∧
      lines.map (·.text) = parts.map fun part => trimChars (layout.structureLine part)

/-- A body is read from what is written for it. -/
theorem Draft.Holds.warns {body : Body} (writable : body.IsWritable) {draft : Draft} (holds : draft.Holds layout body)
    (name : String) (range : LineRange) : (draft.read name range).Warns (· = body) := by
  cases draft with
  | structured typeName lines closed =>
    obtain ⟨_, parts, rfl, chars⟩ := holds
    obtain ⟨_, writable⟩ := writable
    exact (warns_readStructureLines layout writable chars).bind fun lines same => Noted.warns_pure (by rw [same])
  | plain lines =>
    obtain ⟨plain, chars⟩ := holds
    rw [Draft.read]
    cases body with
    | structured typeName parts => exact absurd rfl (plain typeName parts)
    | normal candidates =>
      cases candidates with
      | nil =>
        obtain rfl := List.map_eq_nil_iff.mp chars
        exact ⟨rfl, by simp [readPlainBody, Fault.severity]⟩
      | cons text candidates =>
        obtain ⟨line, lines, rfl, here, _⟩ := List.map_eq_cons_iff.mp chars
        simp only [readPlainBody, here, keyword?_text, Option.map_none]
        exact (warns_readCandidates layout name writable chars).bind fun texts same => Noted.warns_pure (by rw [same])
    | conditional branches =>
      obtain ⟨first, further, last, rfl, opens, _⟩ := writable.1
      obtain ⟨line, lines, rfl, here, _⟩ := List.map_eq_cons_iff.mp chars
      rw [opens] at here
      simp only [readPlainBody, here, BranchKind.word,
        keyword?_keywordText (show ("IF", Keyword.opening) ∈ keywords by decide)]
      exact (warns_readBranches layout name writable chars).bind fun branches same => Noted.warns_pure (by rw [same])
    | switch subject cases =>
      obtain ⟨line, lines, rfl, here, _⟩ := List.map_eq_cons_iff.mp chars
      simp only [readPlainBody, here, keyword?_keywordText (show ("SWITCH", Keyword.switch) ∈ keywords by decide)]
      exact (warns_readSwitch layout name range writable chars).bind fun parts same => Noted.warns_pure (by rw [same])

end Lines

end Phrasebook
