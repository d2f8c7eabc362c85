import Phrasebook.Proofs.Template.Behind

/-! A file without errors falls into sections, each of which is read by itself as it is in the file. -/

namespace Phrasebook

/-- Whether a line is blank or a comment. -/
def IsIdleLine (raw : List Char) : Prop :=
  -- White space around the line does not count.
  trimChars raw = [] ∨ ∃ comment, trimChars raw = '>' :: comment

/-- Whether a line is the name line of a template or an import. -/
def IsOpeningLine (raw : List Char) : Prop :=
  -- An import has its description and its target side by side.
  (∃ header, trimChars raw = '#' :: header) ∨
    ∃ rest, trimChars raw = '[' :: rest ∧ (cutAt [']', '('] rest).isSome = true

/-- Whether lines do not belong to a template in front of them. -/
def AreDetached : List (List Char) → Prop
  -- Blank lines and comments belong to no template.
  | [] => True
  | raw :: rest => IsOpeningLine raw ∨ IsIdleLine raw ∧ AreDetached rest

/-- Lines in front do not belong to a template either. -/
theorem AreDetached.prefix {front back : List (List Char)} (detached : AreDetached (front ++ back)) : AreDetached front := by
  induction front with
  | nil => trivial
  | cons raw front later => exact detached.imp id (And.imp id later)

/-- Detached lines may follow detached lines. -/
theorem AreDetached.append {front back : List (List Char)} (detached : AreDetached front) (detached' : AreDetached back) :
    AreDetached (front ++ back) := by
  induction front with
  | nil => exact detached'
  | cons raw front later => exact detached.imp id (And.imp id later)

namespace FileReading

/-- The reading of whole lines, the last template finished. -/
def ofLines (source : String) (lines : List (List Char)) : FileReading :=
  -- Nothing has been read at first.
  (readLines {} source 0 lines).finishTemplate source

/-- Whether no text of several lines and no structured body is open. -/
structure IsSettled (reading : FileReading) : Prop where
  /-- No text of several lines is open. -/
  unfenced : reading.fenced = none
  /-- No structured body is open. -/
  closed : ∀ pending, reading.pending = some pending → ∀ typeName lines, pending.draft ≠ .structured typeName lines false

section Settled

variable {reading : FileReading} (source : String) (line : Nat)

/-- No fenced text is open once one has been closed. -/
theorem fenced_closeFence : (reading.closeFence source).fenced = none := by
  unfold closeFence
  split
  · assumption
  · unfold pushBodyLine
    split
    · split <;> rfl
    · rfl

/-- Nothing is being read once a template has been finished. -/
theorem finishTemplate_done :
    (reading.finishTemplate source).pending = none ∧ (reading.finishTemplate source).fenced = none := by
  have unfenced : (reading.closeFence source).fenced = none := fenced_closeFence source
  cases opened : (reading.closeFence source).pending with
  | none =>
    have same : reading.finishTemplate source = reading.closeFence source := by simp only [finishTemplate, opened]
    rw [same]
    exact ⟨opened, unfenced⟩
  | some pending =>
    rw [finishTemplate_of_pending reading source opened]
    have idle : (noteUnclosed { reading.closeFence source with pending := none } source pending).pending = none ∧
        (noteUnclosed { reading.closeFence source with pending := none } source pending).fenced = none := by
      unfold noteUnclosed
      split <;> exact ⟨rfl, unfenced⟩
    split
    · dsimp only
      unfold addTemplate
      split <;> exact idle
    · exact idle

/-- A fenced text that is closed is noted. -/
theorem unfenced_of_closeFence (clean : (reading.closeFence source).IsClean) : reading.fenced = none := by
  cases opened : reading.fenced with
  | none => rfl
  | some fenced =>
    simp only [closeFence, opened] at clean
    exact absurd ((extends_pushBodyLine _ _ _).isClean clean) (not_isClean_note _ _ _ rfl)

/-- There is no fenced text to close where none is open. -/
theorem closeFence_of_unfenced (unfenced : reading.fenced = none) : reading.closeFence source = reading := by
  simp only [closeFence, unfenced]

/-- A template that is finished without an error had been completed. -/
theorem isSettled_of_finish (clean : (reading.finishTemplate source).IsClean) : reading.IsSettled := by
  have unfenced := unfenced_of_closeFence source ((extends_finishTemplate_of_closeFence reading source).isClean clean)
  refine ⟨unfenced, fun pending opened typeName lines draft => ?_⟩
  have opened' : (reading.closeFence source).pending = some pending := by rwa [closeFence_of_unfenced source unfenced]
  rw [finishTemplate_of_pending reading source opened'] at clean
  have noted : (noteUnclosed { reading.closeFence source with pending := none } source pending).IsClean := by
    split at clean
    · exact ((extends_addTemplate _ _ _ _).trans (extends_noteAll _ _ _)).isClean clean
    · exact clean
  simp only [noteUnclosed, draft] at noted
  exact absurd noted (not_isClean_note _ _ _ rfl)

/-- Option lines do not matter when a template is added. -/
theorem addTemplate_options {later : FileReading} {options : List String} (same : later = { reading with options := options })
    (pending : Pending) (body : Body) :
    later.addTemplate source pending body = { reading.addTemplate source pending body with options := options } := by
  subst same
  unfold addTemplate
  split <;> rfl

/-- Option lines do not matter when a structured body is noted. -/
theorem noteUnclosed_options {later : FileReading} {options : List String} (same : later = { reading with options := options })
    (pending : Pending) : later.noteUnclosed source pending = { reading.noteUnclosed source pending with options := options } := by
  subst same
  unfold noteUnclosed
  split <;> rfl

/-- A body that needs no end is not noted. -/
theorem noteUnclosed_of_closed {pending : Pending} (closed : ∀ typeName lines, pending.draft ≠ .structured typeName lines false) :
    reading.noteUnclosed source pending = reading := by
  unfold noteUnclosed
  split
  · rename_i typeName lines draft
    exact absurd draft (closed typeName lines)
  · rfl

variable (settled : reading.IsSettled)

include settled

/-- Option lines do not matter when a template is finished. -/
theorem IsSettled.finishTemplate_options (options : List String) :
    { reading with options := options }.finishTemplate source = { reading.finishTemplate source with options := options } := by
  obtain ⟨templates, imports, options', findings, pending, fenced⟩ := reading
  obtain rfl : fenced = none := settled.unfenced
  cases pending with
  | none => rfl
  | some pending =>
    have finish (options : List String) := finishTemplate_of_pending ⟨templates, imports, options, findings, some pending, none⟩
      source (show (closeFence _ source).pending = some pending from rfl)
    rw [finish, finish]
    have noted : noteUnclosed ⟨templates, imports, options, findings, none, none⟩ source pending =
        { noteUnclosed ⟨templates, imports, options', findings, none, none⟩ source pending with options := options } :=
      @noteUnclosed_options ⟨templates, imports, options', findings, none, none⟩ source _ options rfl pending
    by_cases valid : pending.valid = true
    · rw [if_pos valid, if_pos valid]
      exact addTemplate_options source (congrArg (fun reading => FileReading.noteAll reading source _) noted) pending _
    · rw [if_neg valid, if_neg valid]
      exact noted

/-- No line is inside a structured body where none is open. -/
theorem IsSettled.structureLine (text : List Char) : reading.structureLine? line text = none := by
  unfold structureLine?
  cases opened : reading.pending with
  | none => rfl
  | some pending =>
    obtain ⟨name, parameters, range, valid, draft⟩ := pending
    cases draft with
    | plain lines => rfl
    | structured typeName lines closed =>
      cases closed with
      | true => rfl
      | false => exact absurd rfl (settled.closed _ opened typeName lines)

/-- Outside fenced texts and structured bodies the first character tells the kind of line. -/
theorem IsSettled.line_eq (raw : List Char) :
    reading.line source line raw = reading.plainLine source line (trimChars raw) :=
  line_eq_plainLine settled.unfenced source line (settled.structureLine line _)

/-- A name line or an import finishes the template in front of it. -/
theorem IsSettled.line_opening {raw : List Char} (opening : IsOpeningLine raw) :
    reading.line source line raw = (reading.finishTemplate source).line source line raw := by
  obtain ⟨idle, unfenced⟩ : (reading.finishTemplate source).pending = none ∧ (reading.finishTemplate source).fenced = none :=
    finishTemplate_done source
  have settled' : (reading.finishTemplate source).IsSettled :=
    ⟨unfenced, fun pending opened => by rw [idle] at opened; cases opened⟩
  have again := finishTemplate_idle unfenced source idle
  rw [settled.line_eq, settled'.line_eq]
  rcases opening with ⟨header, chars⟩ | ⟨rest, chars, linked⟩
  · rw [chars, plainLine, plainLine, again]
  · rw [chars, plainLine, plainLine, if_pos linked, if_pos linked, again]

omit settled

/-- The option that a blank line or a comment sets. -/
def optionsOf (raw : List Char) : List String :=
  -- Most comments set none.
  match trimChars raw with
  | '>' :: comment => ((afterMark ['!', '#'] (trimFront comment)).map fun option => String.ofList (trimChars option)).toList
  | _ => []

include settled

/-- A blank line or a comment adds an option line or nothing. -/
theorem IsSettled.line_idle {raw : List Char} (idle : IsIdleLine raw) :
    reading.line source line raw = { reading with options := reading.options ++ optionsOf raw } := by
  rw [settled.line_eq, optionsOf]
  rcases idle with blank | ⟨comment, chars⟩
  · simp [blank, plainLine]
  · simp only [chars, plainLine]
    cases afterMark ['!', '#'] (trimFront comment) <;> simp

/-- A blank line or a comment leaves nothing open. -/
theorem IsSettled.options (options : List String) : { reading with options := options }.IsSettled :=
  ⟨settled.unfenced, settled.closed⟩

end Settled

section Concatenation

variable {base : FileReading} {source : String}

/-- Detached lines behind others are read as they are by themselves. -/
theorem Continues.readDetached {reading alone : FileReading} (settled : reading.IsSettled) (idle : alone.pending = none)
    (unfenced : alone.fenced = none) {count : Nat}
    (continues : (reading.finishTemplate source).Continues base count alone) {lines : List (List Char)}
    (detached : AreDetached lines) (start : Nat)
    (unclashing : Unclashing base ((alone.readLines source start lines).finishTemplate source)
      ((reading.readLines source (count + start) lines).finishTemplate source)) :
    ((reading.readLines source (count + start) lines).finishTemplate source).Continues base count
      ((alone.readLines source start lines).finishTemplate source) := by
  induction lines generalizing reading alone start with
  | nil =>
    have same : (alone.readLines source start []).finishTemplate source = alone := finishTemplate_idle unfenced source idle
    rw [same]
    exact continues
  | cons raw lines later =>
    rw [readLines_cons, readLines_cons] at unclashing ⊢
    have settled' : alone.IsSettled := ⟨unfenced, fun pending opened => by rw [idle] at opened; cases opened⟩
    rcases detached with opening | ⟨idleLine, detached⟩
    · -- From here on the whole is read as the part is.
      rw [settled.line_opening source _ opening] at unclashing ⊢
      have lines := unclashing.of_extends (extends_finishTemplate _ _) (extends_finishTemplate _ _)
      have first := continues.line source (start + 1) raw (lines.of_extends (extends_readLines _ _ _ _) (extends_readLines _ _ _ _))
      exact (first.readLines source (start + 1) _ lines).finishTemplate source unclashing
    · rw [settled.line_idle source _ idleLine, settled'.line_idle source _ idleLine] at unclashing ⊢
      suffices ({ reading with options := reading.options ++ optionsOf raw }.finishTemplate source).Continues base count
          { alone with options := alone.options ++ optionsOf raw } from
        @later { reading with options := _ } { alone with options := alone.options ++ optionsOf raw } (settled.options _) idle unfenced
          this detached (start + 1) unclashing
      rw [settled.finishTemplate_options]
      refine ⟨continues.templates, continues.imports, ?_, continues.faults, continues.pending, continues.fenced⟩
      have same := congrArg FileReading.options (settled.finishTemplate_options source reading.options)
      have kept : (reading.finishTemplate source).options = reading.options := same
      show reading.options ++ optionsOf raw = base.options ++ (alone.options ++ optionsOf raw)
      rw [← kept, continues.options, List.append_assoc]

/-- Nothing has been read behind the lines in front. -/
theorem continues_nothing (idle : base.pending = none) (unfenced : base.fenced = none) (count : Nat) :
    base.Continues base count {} := by
  refine ⟨?_, ?_, ?_, ?_, ?_, ?_⟩
  · simp
  · simp
  · simp
  · simp [faults]
  · rw [idle]
    exact .none
  · rw [unfenced]
    exact .none

variable {front back : List (List Char)} (clean : (ofLines source front).IsClean) (detached : AreDetached back)

include clean detached

/-- Detached lines are read behind lines without an error as they are by themselves. -/
theorem ofLines_append_of_unclashing
    (unclashing : Unclashing (ofLines source front) (ofLines source back) (ofLines source (front ++ back))) :
    (ofLines source (front ++ back)).Continues (ofLines source front) front.length (ofLines source back) := by
  obtain ⟨idle, unfenced⟩ : (ofLines source front).pending = none ∧ (ofLines source front).fenced = none :=
    finishTemplate_done source
  have start := continues_nothing idle unfenced front.length
  have whole : ofLines source (front ++ back) =
      ((readLines {} source 0 front).readLines source (front.length + 0) back).finishTemplate source := by
    rw [ofLines, readLines_append, Nat.zero_add, Nat.add_zero]
  rw [whole] at unclashing ⊢
  exact start.readDetached (isSettled_of_finish source clean) rfl rfl detached 0 unclashing

/-- Detached lines whose templates have other names are read behind lines without an error as they are by themselves. -/
theorem ofLines_append (apart : ∀ template ∈ (ofLines source back).templates, ∀ other ∈ (ofLines source front).templates,
      other.name ≠ template.name) :
    (ofLines source (front ++ back)).Continues (ofLines source front) front.length (ofLines source back) :=
  ofLines_append_of_unclashing clean detached (.inl apart)

/-- Detached lines of a file without an error are read as they are by themselves. -/
theorem ofLines_append_of_isClean (clean' : (ofLines source (front ++ back)).IsClean) :
    (ofLines source (front ++ back)).Continues (ofLines source front) front.length (ofLines source back) :=
  ofLines_append_of_unclashing clean detached (.inr clean')

end Concatenation

section Drafting

/-- Whether a template is being read that has been started without an error on some of the lines so far. -/
structure IsDrafting (reading : FileReading) (pending : Pending) (count : Nat) : Prop where
  /-- It is the template that is being read. -/
  opened : reading.pending = some pending
  /-- Its name line could be read. -/
  valid : pending.valid = true
  /-- No parameter is repeated. -/
  distinct : pending.parameters.Nodup
  /-- A structured body has a proper type name. -/
  proper : ∀ typeName lines closed, pending.draft = .structured typeName lines closed → isProperName typeName.toList = true
  /-- A text of several lines belongs to a plain body. -/
  plain : reading.fenced ≠ none → ∃ lines, pending.draft = .plain lines
  /-- It reaches no further than what has been read. -/
  last : pending.range.last ≤ count

/-- Whether a line is one that a template cannot do without: it belongs to the template, and ends it if nothing stays open. -/
def Advances (reading : FileReading) (pending : Pending) (line : Nat) (raw : List Char) (later : FileReading) : Prop :=
  -- A structured body is closed by a bracket at the end of the line.
  ∃ now, later.IsDrafting now line ∧ now.name = pending.name ∧ now.parameters = pending.parameters ∧
    now.range.first = pending.range.first ∧ later.templates = reading.templates ∧ later.imports = reading.imports ∧
    (later.IsSettled → now.range.last = line ∧
      ∀ typeName lines, now.draft = .structured typeName lines true → (trimChars raw).getLast? = some ']')

variable {reading : FileReading} {pending : Pending} {count : Nat} (drafting : reading.IsDrafting pending count)
  (source : String) (raw : List Char)

include drafting

/-- A body line belongs to the template. -/
theorem IsDrafting.pushBodyLine {lines : List BodyLine} (plain : pending.draft = .plain lines) (text : List Char) :
    Advances reading pending (count + 1) raw (reading.pushBodyLine (count + 1) text) := by
  have pushed : reading.pushBodyLine (count + 1) text = { reading with pending := some { pending with
      draft := .plain (lines ++ [⟨count + 1, text⟩])
      range := ⟨pending.range.first, max pending.range.last (count + 1)⟩ } } := by
    simp only [FileReading.pushBodyLine, drafting.opened, plain]
  have last : max pending.range.last (count + 1) = count + 1 := Nat.max_eq_right (Nat.le_succ_of_le drafting.last)
  rw [pushed, last]
  refine ⟨_, ⟨rfl, drafting.valid, drafting.distinct, ?_, fun _ => ⟨_, rfl⟩, Nat.le_refl _⟩, rfl, rfl, rfl, rfl, rfl,
    fun _ => ⟨rfl, ?_⟩⟩
  · rintro _ _ _ ⟨⟩
  · rintro _ _ ⟨⟩

/-- A line with a dash belongs to the template. -/
theorem IsDrafting.bodyLine (text : List Char) (clean : (reading.bodyLine source (count + 1) text).IsClean) :
    Advances reading pending (count + 1) raw (reading.bodyLine source (count + 1) text) := by
  simp only [FileReading.bodyLine, drafting.opened] at clean ⊢
  split at clean
  · exact absurd clean (not_isClean_note _ _ _ rfl)
  · rename_i lines plain
    split
    · exact drafting.pushBodyLine raw plain text
    · split
      · exact drafting.pushBodyLine raw plain _
      · -- The text goes on to further lines.
        refine ⟨pending, ⟨rfl, drafting.valid, drafting.distinct, drafting.proper, fun _ => ⟨lines, plain⟩,
          Nat.le_succ_of_le drafting.last⟩, rfl, rfl, rfl, drafting.opened ▸ rfl, rfl, fun settled => ?_⟩
        cases settled.unfenced

/-- A line inside a fenced text belongs to the template. -/
theorem IsDrafting.fencedLine {fenced : BodyLine} (open' : reading.fenced = some fenced) :
    Advances reading pending (count + 1) raw (reading.fencedLine fenced (count + 1) raw) := by
  obtain ⟨lines, plain⟩ := drafting.plain (by simp [open'])
  simp only [FileReading.fencedLine]
  split
  · refine ⟨pending, ⟨drafting.opened, drafting.valid, drafting.distinct, drafting.proper, fun _ => ⟨lines, plain⟩,
      Nat.le_succ_of_le drafting.last⟩, rfl, rfl, rfl, rfl, rfl, fun settled => ?_⟩
    cases settled.unfenced
  · simp only [FileReading.pushBodyLine, drafting.opened, plain, Option.map_some]
    refine ⟨_, ⟨rfl, drafting.valid, drafting.distinct, ?_, fun _ => ⟨_, rfl⟩, Nat.le_refl _⟩, rfl, rfl, rfl, rfl, rfl,
      fun _ => ⟨rfl, ?_⟩⟩
    · rintro _ _ _ ⟨⟩
    · rintro _ _ ⟨⟩

/-- The start of a structured body belongs to the template. -/
theorem IsDrafting.startStructure (unfenced : reading.fenced = none) {rest : List Char} (chars : trimChars raw = '[' :: rest)
    (clean : (reading.startStructure source (count + 1) ('[' :: rest)).IsClean) :
    Advances reading pending (count + 1) raw (reading.startStructure source (count + 1) ('[' :: rest)) := by
  simp only [FileReading.startStructure, drafting.opened] at clean ⊢
  split at clean
  · generalize typed : trimChars _ = typeName at clean ⊢
    split at clean
    · rename_i proper
      rw [if_pos proper]
      refine ⟨_, ⟨rfl, drafting.valid, drafting.distinct, ?_, fun some => absurd unfenced some, Nat.le_refl _⟩, rfl, rfl, rfl, rfl,
        rfl, fun _ => ⟨rfl, ?_⟩⟩
      · rintro _ _ _ same
        cases same
        rwa [String.toList_ofList]
      · rintro _ _ same
        injection same with _ _ closed
        rw [chars]
        cases rest with
        | nil => cases closed
        | cons c rest => simpa using closed
    · exact absurd clean (not_isClean_note _ _ _ rfl)
  · exact absurd clean (not_isClean_note _ _ _ rfl)

/-- A line inside an open structured body belongs to the template. -/
theorem IsDrafting.structureLine (unfenced : reading.fenced = none) {typeName : String} {lines : List BodyLine}
    (open' : pending.draft = .structured typeName lines false)
    (clean : (reading.line source (count + 1) raw).IsClean) :
    Advances reading pending (count + 1) raw (reading.line source (count + 1) raw) := by
  have unsettled : ¬ reading.IsSettled := fun settled => settled.closed pending drafting.opened typeName lines open'
  have stays : Advances reading pending (count + 1) raw reading :=
    ⟨pending, ⟨drafting.opened, drafting.valid, drafting.distinct, drafting.proper, drafting.plain,
      Nat.le_succ_of_le drafting.last⟩, rfl, rfl, rfl, rfl, rfl, fun settled => absurd settled unsettled⟩
  cases chars : trimChars raw with
  | nil => rwa [line_eq_structureLine unfenced source _ (chars ▸ structureLine?_blank drafting.opened open' _)]
  | cons c rest =>
    by_cases hash : c = '#'
    · -- A name line would note that the body has not been closed.
      subst hash
      rw [line_eq_plainLine unfenced source _ (chars ▸ structureLine?_header _ rest), chars, plainLine] at clean
      exact absurd (isSettled_of_finish source ((extends_startTemplate _ _ _ _).isClean clean)) unsettled
    by_cases comment : c = '>'
    · subst comment
      rwa [line_eq_structureLine unfenced source _ (chars ▸ structureLine?_comment drafting.opened open' _ rest)]
    have kept := structureLine?_text drafting.opened open' (count + 1) ⟨hash, comment⟩ rest
    rw [line_eq_structureLine unfenced source _ (chars ▸ kept)]
    refine ⟨_, ⟨rfl, drafting.valid, drafting.distinct, ?_, fun some => absurd unfenced some, Nat.le_refl _⟩, rfl, rfl, rfl, rfl,
      rfl, fun _ => ⟨rfl, ?_⟩⟩
    · intro typeName' lines' closed same
      have proper := drafting.proper typeName lines false open'
      dsimp only at same
      split at same <;> cases same <;> exact proper
    · intro typeName' lines' same
      dsimp only at same
      split at same
      · rename_i bracket
        have closing : c :: rest = [']'] := by simpa [chars] using bracket
        rw [chars, closing]
        rfl
      · cases same

/-- Every line that does not stand behind the template belongs to it. -/
theorem IsDrafting.line (inside : ¬ (reading.IsSettled ∧ IsOpeningLine raw))
    (clean : (reading.line source (count + 1) raw).IsClean) :
    (reading.IsSettled ∧ IsIdleLine raw) ∨
      Advances reading pending (count + 1) raw (reading.line source (count + 1) raw) := by
  cases open' : reading.fenced with
  | some fenced =>
    refine .inr ?_
    have step : reading.line source (count + 1) raw = reading.fencedLine fenced (count + 1) raw := by
      simp only [FileReading.line, open']
    rw [step]
    exact drafting.fencedLine raw open'
  | none =>
    by_cases open'' : ∃ typeName lines, pending.draft = .structured typeName lines false
    · obtain ⟨typeName, lines, draft⟩ := open''
      exact .inr (drafting.structureLine source raw open' draft clean)
    have settled : reading.IsSettled := by
      refine ⟨open', fun other opened typeName lines draft => open'' ⟨typeName, lines, ?_⟩⟩
      rw [drafting.opened] at opened
      cases opened
      exact draft
    have outside : ¬ IsOpeningLine raw := fun opening => inside ⟨settled, opening⟩
    have step := settled.line_eq source (count + 1) raw
    rw [step] at clean ⊢
    cases chars : trimChars raw with
    | nil => exact .inl ⟨settled, .inl chars⟩
    | cons c rest =>
      rw [chars] at clean
      unfold plainLine at clean ⊢
      split at clean
      case h_1 empty => cases empty
      case h_2 _ comment same => exact .inl ⟨settled, .inr ⟨comment, chars.trans same⟩⟩
      case h_3 header same => exact absurd (.inl ⟨header, chars.trans same⟩) outside
      case h_4 body same =>
        cases same
        exact .inr (drafting.bodyLine source raw _ clean)
      case h_5 more same =>
        cases same
        split at clean
        · rename_i linked
          exact absurd (.inr ⟨rest, chars, linked⟩) outside
        · rename_i unlinked
          rw [if_neg unlinked]
          exact .inr (drafting.startStructure source raw open' chars clean)
      case h_6 =>
        -- Any other line lacks its dash.
        split at clean
        · exact absurd clean (not_isClean_note _ _ _ rfl)
        · exact absurd clean (not_isClean_note _ _ _ rfl)

/-- Whether a template has been completed on some lines, of which the last one ends it. -/
structure Completes (reading : FileReading) (pending : Pending) (count : Nat) (lines : List (List Char)) (later : FileReading)
    (now : Pending) : Prop where
  /-- Nothing stays open. -/
  settled : later.IsSettled
  /-- The template waits to be finished. -/
  drafting : later.IsDrafting now (count + lines.length)
  /-- It keeps its name. -/
  name : now.name = pending.name
  /-- It keeps its parameters. -/
  parameters : now.parameters = pending.parameters
  /-- It keeps its first line. -/
  first : now.range.first = pending.range.first
  /-- No other template is finished on the way. -/
  templates : later.templates = reading.templates
  /-- Nothing is imported on the way. -/
  imports : later.imports = reading.imports
  /-- The last line, if any, is the last one of the template, and closes a structured body. -/
  last : (lines = [] ∧ now = pending) ∨ now.range.last = count + lines.length ∧ ∃ raw, lines.getLast? = some raw ∧
    ∀ typeName parts, now.draft = .structured typeName parts true → (trimChars raw).getLast? = some ']'

omit drafting in
/-- A template is completed on some of the lines that follow, and what follows them is detached. -/
theorem IsDrafting.exists_end (drafting : reading.IsDrafting pending count) (lines : List (List Char))
    (clean : ((reading.readLines source count lines).finishTemplate source).IsClean) :
    ∃ body rest now, lines = body ++ rest ∧ AreDetached rest ∧
      Completes reading pending count body (reading.readLines source count body) now := by
  have nothing {count : Nat} {reading : FileReading} {pending : Pending} (drafting : reading.IsDrafting pending count)
      (settled : reading.IsSettled) : Completes reading pending count [] reading pending :=
    ⟨settled, drafting, rfl, rfl, rfl, rfl, rfl, .inl ⟨rfl, rfl⟩⟩
  have grown {reading : FileReading} {pending : Pending} {count : Nat} {raw : List Char} {body : List (List Char)}
      (drafting : reading.IsDrafting pending (count + 1 + body.length)) :
      reading.IsDrafting pending (count + (raw :: body).length) := by
    rwa [List.length_cons, Nat.add_comm body.length, ← Nat.add_assoc]
  induction lines generalizing reading pending count with
  | nil => exact ⟨[], [], pending, rfl, trivial, nothing drafting (isSettled_of_finish source clean)⟩
  | cons raw lines later =>
    by_cases outside : reading.IsSettled ∧ IsOpeningLine raw
    · exact ⟨[], raw :: lines, pending, rfl, .inl outside.2, nothing drafting outside.1⟩
    rw [readLines_cons] at clean
    have clean' := ((extends_readLines _ source _ lines).isClean ((extends_finishTemplate _ source).isClean clean))
    rcases drafting.line source raw outside clean' with ⟨settled, idle⟩ | ⟨now, drafting', name, parameters, first, templates, imports, last⟩
    · -- A blank line or a comment belongs to the template if more of the template follows.
      have step := settled.line_idle source (count + 1) idle
      have drafting' : (reading.line source (count + 1) raw).IsDrafting pending (count + 1) := by
        rw [step]
        exact ⟨drafting.opened, drafting.valid, drafting.distinct, drafting.proper, drafting.plain, Nat.le_succ_of_le drafting.last⟩
      obtain ⟨body, rest, now, rfl, detached, completes⟩ := later drafting' clean
      rcases completes.last with ⟨rfl, rfl⟩ | ⟨last, ends⟩
      · exact ⟨[], raw :: rest, now, rfl, .inr ⟨idle, detached⟩, nothing drafting settled⟩
      · refine ⟨raw :: body, rest, now, rfl, detached, completes.settled, grown completes.drafting, completes.name,
          completes.parameters, completes.first, ?_, ?_, .inr ⟨?_, ?_⟩⟩
        · exact completes.templates.trans (by rw [step])
        · exact completes.imports.trans (by rw [step])
        · rw [last, List.length_cons, Nat.add_right_comm, Nat.add_assoc]
        · obtain ⟨line, final, closes⟩ := ends
          exact ⟨line, by rw [List.getLast?_cons, final]; rfl, closes⟩
    · obtain ⟨body, rest, final, rfl, detached, completes⟩ := later drafting' clean
      refine ⟨raw :: body, rest, final, rfl, detached, completes.settled, grown completes.drafting, completes.name.trans name,
        completes.parameters.trans parameters, completes.first.trans first, completes.templates.trans templates,
        completes.imports.trans imports, .inr ?_⟩
      rcases completes.last with ⟨rfl, rfl⟩ | ⟨last', ends⟩
      · exact ⟨(last completes.settled).1, raw, rfl, (last completes.settled).2⟩
      · refine ⟨by rw [last', List.length_cons, Nat.add_right_comm, Nat.add_assoc], ?_⟩
        obtain ⟨line, final, closes⟩ := ends
        exact ⟨line, by rw [List.getLast?_cons, final]; rfl, closes⟩

end Drafting

section Sections

variable (source : String)

/-- Where no template is being read, a line without an error is blank, a comment, a name line or an import. -/
theorem idle_or_opening {reading : FileReading} (idle : reading.pending = none) (unfenced : reading.fenced = none)
    {line : Nat} {raw : List Char} (clean : (reading.line source line raw).IsClean) : IsIdleLine raw ∨ IsOpeningLine raw := by
  have settled : reading.IsSettled := ⟨unfenced, fun pending opened => by rw [idle] at opened; cases opened⟩
  rw [settled.line_eq] at clean
  unfold plainLine at clean
  split at clean
  case h_1 blank => exact .inl (.inl blank)
  case h_2 _ comment chars => exact .inl (.inr ⟨comment, chars⟩)
  case h_3 header chars => exact .inr (.inl ⟨header, chars⟩)
  case h_4 =>
    simp only [bodyLine, idle] at clean
    exact absurd clean (not_isClean_note _ _ _ rfl)
  case h_5 rest chars =>
    split at clean
    · rename_i linked
      exact .inr (.inr ⟨rest, chars, linked⟩)
    · simp only [startStructure, idle] at clean
      exact absurd clean (not_isClean_note _ _ _ rfl)
  case h_6 =>
    split at clean
    · exact absurd clean (not_isClean_note _ _ _ rfl)
    · exact absurd clean (not_isClean_note _ _ _ rfl)

/-- Where no template is being read, lines without an error are detached. -/
theorem areDetached_of_isClean {reading : FileReading} (idle : reading.pending = none) (unfenced : reading.fenced = none)
    {start : Nat} {lines : List (List Char)} (clean : ((reading.readLines source start lines).finishTemplate source).IsClean) :
    AreDetached lines := by
  induction lines generalizing reading start with
  | nil => trivial
  | cons raw lines later =>
    rw [readLines_cons] at clean
    have clean' := ((extends_readLines _ source _ lines).isClean ((extends_finishTemplate _ source).isClean clean))
    rcases idle_or_opening source idle unfenced clean' with blank | opening
    · have settled : reading.IsSettled := ⟨unfenced, fun pending opened => by rw [idle] at opened; cases opened⟩
      rw [settled.line_idle source _ blank] at clean
      have detached := @later { reading with options := reading.options ++ optionsOf raw } idle unfenced _ clean
      exact .inr ⟨blank, detached⟩
    · exact .inl opening

/-- A template in front of detached lines is finished without an error if the lines are read without one. -/
theorem isClean_of_readDetached {reading : FileReading} (settled : reading.IsSettled) {start : Nat}
    {lines : List (List Char)} (detached : AreDetached lines)
    (clean : ((reading.readLines source start lines).finishTemplate source).IsClean) :
    (reading.finishTemplate source).IsClean := by
  induction lines generalizing reading start with
  | nil => exact clean
  | cons raw lines later =>
    rw [readLines_cons] at clean
    rcases detached with opening | ⟨idle, detached⟩
    · rw [settled.line_opening source _ opening] at clean
      exact ((extends_finishTemplate _ _).trans ((extends_readLines _ _ _ _).trans (extends_line _ _ _ _))).isClean clean
    · rw [settled.line_idle source _ idle] at clean
      have finished := later (settled.options _) detached clean
      rwa [settled.finishTemplate_options] at finished

/-- Whether lines make up a template and nothing else. -/
structure IsTemplate (lines : List (List Char)) (template : Template) : Prop where
  /-- They are read without an error. -/
  clean : (ofLines source lines).IsClean
  /-- They belong to no template in front of them. -/
  detached : AreDetached lines
  /-- The template is the only one. -/
  templates : (ofLines source lines).templates = [template]
  /-- Nothing is imported. -/
  imports : (ofLines source lines).imports = []
  /-- The template takes all of the lines. -/
  range : template.range = ⟨1, lines.length⟩
  /-- It is what its draft is read as, which the last line ends. -/
  draft : ∃ pending, (readLines {} source 0 lines).IsDrafting pending lines.length ∧
    template = ⟨pending.name, pending.parameters, (pending.draft.read pending.name pending.range).value, source, pending.range⟩ ∧
    (∀ note ∈ (pending.draft.read pending.name pending.range).notes, note.2.severity = .warning) ∧
    (∀ typeName parts closed, pending.draft = .structured typeName parts closed → closed = true ∧
      ∃ raw, lines.getLast? = some raw ∧ (trimChars raw).getLast? = some ']')

omit source in
/-- Parameters among which there is no repetition are all apart. -/
theorem nodup_of_repeatedParameters {before parameters : List String} (none : repeatedParameters before parameters = []) :
    parameters.Nodup ∧ ∀ parameter ∈ parameters, parameter ∉ before := by
  induction parameters generalizing before with
  | nil => exact ⟨.nil, nofun⟩
  | cons parameter parameters later =>
    rw [repeatedParameters] at none
    split at none
    · cases none
    · rename_i new
      obtain ⟨distinct, apart⟩ := later none
      have new : parameter ∉ before := by simpa using new
      refine ⟨List.nodup_cons.mpr ⟨fun inside => apart parameter inside List.mem_cons_self, distinct⟩, ?_⟩
      exact List.forall_mem_cons.mpr ⟨new, fun other inside taken => apart other inside (List.mem_cons_of_mem _ taken)⟩

/-- A name line without an error starts a template and does nothing else. -/
theorem exists_of_header {raw header : List Char} (chars : trimChars raw = '#' :: header)
    (clean : (({} : FileReading).line source 1 raw).IsClean) :
    ∃ name parameters, parameters.Nodup ∧
      ({} : FileReading).line source 1 raw = { pending := some ⟨name, parameters, .single 1, true, .plain []⟩ } := by
  have settled : ({} : FileReading).IsSettled := ⟨rfl, nofun⟩
  have step : ({} : FileReading).line source 1 raw = ({} : FileReading).startTemplate source 1 header := by
    rw [settled.line_eq, chars]
    rfl
  rw [step] at clean ⊢
  unfold startTemplate at clean ⊢
  split at clean
  · exact absurd clean (not_isClean_note {} source (.single 1) rfl)
  · rename_i name parameters _
    -- Every repeated parameter is an error.
    have none : repeatedParameters [] parameters = [] := by
      refine List.eq_nil_iff_forall_not_mem.mpr fun parameter repeated => ?_
      have mild : Fault.severity (.duplicateParameter parameter name) = .warning :=
        clean _ (List.mem_map.mpr ⟨⟨.single 1, .duplicateParameter parameter name, source⟩, by simp [noteAll, repeated], rfl⟩)
      cases mild
    refine ⟨name, parameters, (nodup_of_repeatedParameters none).1, ?_⟩
    simp [none, noteAll]

/-- A template that has been completed is the only thing that its lines make up. -/
theorem Completes.isTemplate {raw header : List Char} (chars : trimChars raw = '#' :: header) {name : String}
    {parameters : List String} {body : List (List Char)} {now : Pending}
    (completes : Completes { pending := some ⟨name, parameters, .single 1, true, .plain []⟩ }
      ⟨name, parameters, .single 1, true, .plain []⟩ 1 body (readLines {} source 0 (raw :: body)) now)
    (clean : (ofLines source (raw :: body)).IsClean) : ∃ template, IsTemplate source (raw :: body) template := by
  have length : 1 + body.length = (raw :: body).length := Nat.add_comm _ _
  have closed (typeName : String) (parts : List BodyLine) (closed : Bool)
      (draft : now.draft = .structured typeName parts closed) : closed = true ∧
        ∃ last, (raw :: body).getLast? = some last ∧ (trimChars last).getLast? = some ']' := by
    cases closed with
    | false => exact absurd draft (completes.settled.closed now completes.drafting.opened typeName parts)
    | true =>
      rcases completes.last with ⟨_, rfl⟩ | ⟨_, last, ends, closes⟩
      · cases draft
      · exact ⟨rfl, last, by rw [List.getLast?_cons, ends]; rfl, closes typeName parts draft⟩
  have range : now.range = ⟨1, (raw :: body).length⟩ := by
    have first : now.range.first = 1 := completes.first
    have last : now.range.last = (raw :: body).length := by
      rcases completes.last with ⟨rfl, rfl⟩ | ⟨last, _⟩
      · rfl
      · rw [last, length]
    rw [← first, ← last]
  have unfenced := closeFence_of_unfenced source completes.settled.unfenced
  have noted (reading : FileReading) : reading.noteUnclosed source now = reading :=
    noteUnclosed_of_closed source fun typeName parts => completes.settled.closed now completes.drafting.opened typeName parts
  have new : (readLines {} source 0 (raw :: body)).templates = [] := completes.templates
  have finish : ofLines source (raw :: body) =
      { FileReading.noteAll { readLines {} source 0 (raw :: body) with pending := none } source
          (now.draft.read now.name now.range).notes with
        templates := [⟨now.name, now.parameters, (now.draft.read now.name now.range).value, source, now.range⟩] } := by
    rw [ofLines, finishTemplate_of_pending _ source (by rw [unfenced]; exact completes.drafting.opened),
      if_pos completes.drafting.valid, unfenced, noted]
    simp [addTemplate, noteAll, new]
  refine ⟨_, clean, .inl (.inl ⟨header, chars⟩), by rw [finish], ?_, range, now, length ▸ completes.drafting, rfl, ?_, closed⟩
  · rw [finish]
    exact completes.imports
  · intro note inside
    refine clean note.2 ?_
    rw [finish]
    simp only [faults, noteAll, List.map_append, List.map_map, List.mem_append, List.mem_map]
    exact .inr ⟨note, inside, rfl⟩

/-- An import line adds no template and leaves nothing open. -/
theorem importLine_idle {reading : FileReading} (idle : reading.pending = none) (unfenced : reading.fenced = none) (line : Nat)
    (text : List Char) : (reading.importLine source line text).pending = none ∧
      (reading.importLine source line text).fenced = none ∧
      (reading.importLine source line text).templates = reading.templates := by
  unfold importLine
  split
  · exact ⟨idle, unfenced, rfl⟩
  · dsimp only
    split
    · exact ⟨idle, unfenced, rfl⟩
    · exact ⟨idle, unfenced, rfl⟩

/-- Whether lines are read by themselves as a template or as something that holds none. -/
def IsSection (lines : List (List Char)) : Prop :=
  -- Blank lines, comments and imports hold no template.
  (ofLines source lines).IsClean ∧ AreDetached lines ∧
    ((ofLines source lines).templates = [] ∨ ∃ template, IsTemplate source lines template)

/-- A line that leaves nothing open is a section by itself. -/
theorem isSection_of_idle {raw : List Char} (detached : AreDetached [raw])
    (clean : (({} : FileReading).line source 1 raw).IsClean) (idle : (({} : FileReading).line source 1 raw).pending = none)
    (unfenced : (({} : FileReading).line source 1 raw).fenced = none)
    (templates : (({} : FileReading).line source 1 raw).templates = []) : IsSection source [raw] := by
  have same : ofLines source [raw] = ({} : FileReading).line source 1 raw := finishTemplate_idle unfenced source idle
  exact ⟨same ▸ clean, detached, .inl (same ▸ templates)⟩

/-- Lines without an error start with a section, and what follows it is detached. -/
theorem exists_section {raw : List Char} {lines : List (List Char)} (clean : (ofLines source (raw :: lines)).IsClean) :
    ∃ body rest, lines = body ++ rest ∧ IsSection source (raw :: body) ∧ AreDetached rest := by
  have settled : ({} : FileReading).IsSettled := ⟨rfl, nofun⟩
  have first : (({} : FileReading).line source 1 raw).IsClean :=
    (extends_readLines _ source 1 lines).isClean ((extends_finishTemplate _ source).isClean clean)
  have alone (detached : AreDetached [raw]) (idle : (({} : FileReading).line source 1 raw).pending = none)
      (unfenced : (({} : FileReading).line source 1 raw).fenced = none)
      (templates : (({} : FileReading).line source 1 raw).templates = []) :
      ∃ body rest, lines = body ++ rest ∧ IsSection source (raw :: body) ∧ AreDetached rest :=
    ⟨[], lines, rfl, isSection_of_idle source detached first idle unfenced templates,
      areDetached_of_isClean source idle unfenced clean⟩
  rcases idle_or_opening source rfl rfl first with blank | opening
  · have step := settled.line_idle source 1 blank
    exact alone (.inr ⟨blank, trivial⟩) (by rw [step]) (by rw [step]) (by rw [step])
  rcases opening with ⟨header, chars⟩ | ⟨rest, chars, linked⟩
  · obtain ⟨name, parameters, distinct, step⟩ := exists_of_header source chars first
    have drafting : IsDrafting { pending := some ⟨name, parameters, .single 1, true, .plain []⟩ }
        ⟨name, parameters, .single 1, true, .plain []⟩ 1 :=
      ⟨rfl, rfl, distinct, nofun, fun _ => ⟨[], rfl⟩, Nat.le_refl 1⟩
    have clean' := clean
    rw [ofLines, readLines_cons, step] at clean'
    obtain ⟨body, rest, now, rfl, detached, completes⟩ := drafting.exists_end source lines clean'
    have whole : readLines {} source 0 (raw :: body) =
        readLines { pending := some ⟨name, parameters, .single 1, true, .plain []⟩ } source 1 body := by
      rw [readLines_cons, step]
    have finished : (ofLines source (raw :: body)).IsClean := by
      rw [readLines_append] at clean'
      rw [ofLines, whole]
      exact isClean_of_readDetached source completes.settled detached clean'
    obtain ⟨template, is⟩ := Completes.isTemplate source chars (whole ▸ completes) finished
    exact ⟨body, rest, rfl, ⟨finished, is.detached, .inr ⟨template, is⟩⟩, detached⟩
  · have step : ({} : FileReading).line source 1 raw = ({} : FileReading).importLine source 1 ('[' :: rest) := by
      rw [settled.line_eq, chars, plainLine, if_pos linked]
      rfl
    obtain ⟨idle, unfenced, templates⟩ := @importLine_idle source {} rfl rfl 1 ('[' :: rest)
    exact alone (.inl (.inr ⟨rest, chars, linked⟩)) (by rw [step]; exact idle) (by rw [step]; exact unfenced)
      (by rw [step]; exact templates)

end Sections

end FileReading

end Phrasebook
