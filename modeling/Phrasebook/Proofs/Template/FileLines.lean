import Phrasebook.Proofs.Template.WholeLines

/-! Each line that is written is read as the kind of line that it is. -/

namespace Phrasebook

namespace FileReading

/-- A text that a rule reads as a whole gives its value. -/
theorem readWhole_of_done {α : Type} {rule : Rule α} {text : List Char} {value : α} (done : rule text = .done value []) :
    readWhole rule text = some value := by
  simp [readWhole, done, isBlankLine]

section Header

/-- A template name is read up to what cannot stand in one. -/
theorem nameRule_done {name : String} (proper : isProperName name.toList = true) {more : List Char}
    (ends : ∀ c rest, more = c :: rest → isNameChar c = false) : nameRule (name.toList ++ more) = .done name more := by
  obtain ⟨first, rest, chars, starts, all⟩ := exists_of_isProperName proper
  rw [chars] at all
  have taken := span_append (List.forall_mem_cons.mp all).2 ends
  rw [chars, List.cons_append, nameRule, if_pos starts, taken.1, taken.2, ← chars, String.ofList_toList]

/-- Commas between parameters may have white space behind them. -/
theorem separates_parameters : Rule.Separates (do Rule.exactly [',']; Rule.blanks) [' '] where
  done text opens := by
    rw [List.singleton_append, Rule.bind_of_done (Rule.exactly_cons ',' _), Rule.blanks]
    exact congrArg (Outcome.done ()) (opens.trimFront_append (show ∀ c ∈ [' '], isBlank c = true by decide))
  refused closing more closes := by
    have other : ',' ≠ closing := by rintro rfl; simp at closes
    exact ⟨_, Rule.bind_of_refused (Rule.exactly_of_ne other more)⟩

/-- A parameter is read. -/
theorem spells_parameter {parameter : String} (named : IsIdentifier parameter) :
    Rule.Spells (do let parameter ← identifier; Rule.blanks; return parameter) parameter.toList parameter := by
  refine ⟨named.opens, fun c more closes => ?_⟩
  have signs : ∀ c ∈ [',', ')', ']', '\x7d'], continuesIdentifier c = false ∧ isBlank c = false := by decide
  obtain ⟨ends, dark⟩ := signs c closes
  have read : identifier (parameter.toList ++ c :: more) = .done parameter (c :: more) := by
    refine identifier_done named fun d rest same => ?_
    obtain ⟨rfl, _⟩ := List.cons.inj same
    exact ends
  have skipped : Rule.blanks (c :: more) = .done () (c :: more) := by rw [Rule.blanks, (Opens.cons dark more).trimFront]
  rw [Rule.bind_of_done read, Rule.bind_of_done skipped]
  rfl

/-- The parameters of a template are read between their parentheses. -/
theorem parameters_done {parameter : String} {parameters : List String}
    (named : ∀ name ∈ parameter :: parameters, IsIdentifier name) :
    (do
      Rule.exactly ['(']
      Rule.blanks
      let parameters ← Rule.elements (do Rule.exactly [',']; Rule.blanks)
        (do let parameter ← identifier; Rule.blanks; return parameter)
      Rule.exactly [')']
      return parameters : Rule (List String))
      ('(' :: (List.intercalate [',', ' '] ((parameter :: parameters).map String.toList) ++ [')'])) =
      .done (parameter :: parameters) [] := by
  obtain ⟨first, others⟩ := List.forall_mem_cons.mp named
  have each : List.Forall₂ (Rule.Spells (do let parameter ← identifier; Rule.blanks; return parameter))
      (parameters.map String.toList) parameters :=
    List.forall₂_map_left_iff.mpr (List.forall₂_same.mpr fun name inside => spells_parameter (others name inside))
  have closes : ')' ∈ [')', ']', '\x7d'] := by decide
  have all := Rule.elements_done separates_parameters (spells_parameter first) each closes []
  rw [List.map_cons, intercalate_cons, List.append_assoc]
  have skipped (more : List Char) : Rule.blanks (parameter.toList ++ more) = .done () (parameter.toList ++ more) := by
    rw [Rule.blanks, (first.opens.append more).trimFront]
  rw [Rule.bind_of_done (Rule.exactly_cons '(' _), Rule.bind_of_done (skipped _)]
  exact (Rule.bind_of_done all).trans (Rule.bind_of_done (Rule.exactly_cons ')' []))

/-- The name and the parameters of a template are read from its name line. -/
theorem readWhole_header {template : Template} (writable : template.IsWritable) :
    readWhole headerRule (Layout.header template).tail = some (template.name, template.parameters) := by
  obtain ⟨first, rest, chars, starts, _⟩ := exists_of_isProperName writable.name
  have opens : Opens template.name.toList := ⟨first, rest, chars, (dark_of_startsIdentifier starts).1⟩
  have skipped (more : List Char) :
      Rule.blanks (' ' :: (template.name.toList ++ more)) = .done () (template.name.toList ++ more) :=
    congrArg (Outcome.done ()) ((opens.append more).trimFront_append (show ∀ c ∈ [' '], isBlank c = true by decide))
  have identifiers := writable.identifiers
  refine readWhole_of_done ?_
  rw [Layout.header, List.tail_cons, headerRule, Rule.bind_of_done (skipped _)]
  cases parameters : template.parameters with
  | nil =>
    have none : ∀ c rest, ([] : List Char) = c :: rest → isNameChar c = false := nofun
    rw [List.isEmpty_nil, if_pos rfl, Rule.bind_of_done (nameRule_done writable.name none)]
    rfl
  | cons parameter more =>
    rw [parameters] at identifiers
    rw [List.isEmpty_cons, if_neg Bool.false_ne_true, Rule.bind_of_done (nameRule_done writable.name fun c rest same => ?_)]
    · have all := parameters_done identifiers
      have skipped' (more : List Char) : Rule.blanks ('(' :: more) = .done () ('(' :: more) := by
        rw [Rule.blanks, (Opens.cons (by decide) more).trimFront]
      rw [Rule.bind_of_done (skipped' _)]
      refine (Rule.bind_of_done (show Rule.optional _ _ = .done (some (parameter :: more)) [] from ?_)).trans rfl
      simp only [Rule.optional, all]
    · obtain ⟨rfl, _⟩ := List.cons.inj same
      decide

end Header

section Imports

/-- A mark that stands in a text is found. -/
theorem isSome_cutAt {mark text : List Char} (inside : mark <:+: text) : (cutAt mark text).isSome = true := by
  induction text with
  | nil => simp [List.infix_nil.mp inside, cutAt]
  | cons c rest later =>
    rw [cutAt]
    split
    · rfl
    · rename_i here
      have further := (List.infix_cons_iff.mp inside).resolve_left fun starts => here (List.isPrefixOf_iff_prefix.mpr starts)
      rw [Option.isSome_map]
      exact later further

/-- What stands in front of a sign is read up to it. -/
theorem upTo_done {closing : Char} {part : List Char} (absent : closing ∉ part) (more : List Char) :
    importRule.upTo closing (part ++ closing :: more) = .done part (closing :: more) := by
  have all : ∀ c ∈ part, (c != closing) = true := fun c inside => bne_iff_ne.mpr fun same => absent (same ▸ inside)
  have ends : ∀ c rest, closing :: more = c :: rest → (c != closing) = false := by
    intro c rest same
    obtain ⟨rfl, _⟩ := List.cons.inj same
    exact bne_self_eq_false closing
  have taken := span_append all ends
  rw [importRule.upTo, taken.1, taken.2]

/-- A space is read as a gap. -/
theorem gap_done {c : Char} (other : c ≠ ' ' ∧ c ≠ '\t') (rest : List Char) :
    importRule.gap (' ' :: c :: rest) = .done () (c :: rest) := by
  simp [importRule.gap, other]

/-- The alias of an import is read behind its word. -/
theorem qualifier_done {name : String} (named : IsIdentifier name) :
    (do importRule.gap; Rule.exactly ['a', 's']; importRule.gap; identifier : Rule String)
      (Layout.qualifier (some name)) = .done name [] := by
  obtain ⟨c, rest, chars, starts⟩ := named.start
  have other : c ≠ ' ' ∧ c ≠ '\t' := by
    constructor <;> rintro rfl <;> exact absurd starts (by decide)
  have read : identifier (c :: rest) = .done name [] := by
    have none : ∀ c rest, ([] : List Char) = c :: rest → continuesIdentifier c = false := nofun
    have alone := identifier_done named none
    rwa [List.append_nil, chars] at alone
  have word : Rule.exactly ['a', 's'] ('a' :: 's' :: ' ' :: c :: rest) = .done () (' ' :: c :: rest) := by
    simp [Rule.exactly, List.isPrefixOf]
  rw [Layout.qualifier, chars, Rule.bind_of_done (gap_done (by decide) _), Rule.bind_of_done word,
    Rule.bind_of_done (gap_done other rest)]
  exact read

/-- The parts of an import are read from its line. -/
theorem readWhole_import {entry : Import} (writable : entry.IsWritable) :
    readWhole importRule (Layout.importLine entry) =
      some (entry.description.toList, entry.target.toList, entry.qualifier) := by
  refine readWhole_of_done ?_
  unfold importRule Layout.importLine
  have middle (more : List Char) : Rule.exactly [']', '('] (']' :: '(' :: more) = .done () more := by
    simp [Rule.exactly, List.isPrefixOf]
  rw [Rule.bind_of_done (Rule.exactly_cons '[' _), Rule.bind_of_done (upTo_done writable.bracket.1 _),
    Rule.bind_of_done (middle _), Rule.bind_of_done (upTo_done writable.parenthesis.1 _),
    Rule.bind_of_done (Rule.exactly_cons ')' _)]
  have named := writable.qualifier
  cases qualifier : entry.qualifier with
  | none => rfl
  | some name =>
    rw [qualifier] at named
    have read := qualifier_done (named name rfl)
    refine (Rule.bind_of_done (show Rule.optional _ _ = .done (some name) [] from ?_)).trans rfl
    simp only [Rule.optional, read]

end Imports

/-- A reading with a template that is being read. -/
def drafting (reading : FileReading) (template : Template) (range : LineRange) (draft : Draft) : FileReading :=
  -- Its name line could be read.
  { reading with pending := some ⟨template.name, template.parameters, range, true, draft⟩ }

section Steps

variable {reading : FileReading} (unfenced : reading.fenced = none) (source : String) (line : Nat)

include unfenced

/-- Outside fenced texts and structured bodies the first character tells the kind of line. -/
theorem line_eq_plainLine {raw : List Char} (outside : reading.structureLine? line (trimChars raw) = none) :
    reading.line source line raw = reading.plainLine source line (trimChars raw) := by
  simp only [FileReading.line, unfenced, outside]

/-- In a structured body lines are kept as they are. -/
theorem line_eq_structureLine {raw : List Char} {later : FileReading}
    (inside : reading.structureLine? line (trimChars raw) = some later) : reading.line source line raw = later := by
  simp only [FileReading.line, unfenced, inside]

omit unfenced in
/-- A name line ends a structured body. -/
theorem structureLine?_header (rest : List Char) : reading.structureLine? line ('#' :: rest) = none := by
  unfold structureLine?
  cases reading.pending with
  | none => rfl
  | some pending =>
    obtain ⟨_, _, _, _, draft⟩ := pending
    cases draft with
    | plain lines => rfl
    | structured typeName lines closed => cases closed <;> rfl

omit unfenced in
/-- No parameter is a repetition if all are apart. -/
theorem repeatedParameters_eq_nil {before parameters : List String} (apart : (before ++ parameters).Nodup) :
    repeatedParameters before parameters = [] := by
  induction parameters generalizing before with
  | nil => rfl
  | cons parameter parameters later =>
    have apart := List.perm_middle.nodup_iff.mp apart
    have new : parameter ∉ before := fun inside => (List.nodup_cons.mp apart).1 (List.mem_append_left _ inside)
    have none : repeatedParameters (parameter :: before) parameters = [] := later apart
    simp [repeatedParameters, none, new]

/-- A name line finishes one template and starts another one. -/
theorem line_header {template : Template} (writable : template.IsWritable) (trimmed : IsTrimmed (Layout.header template)) :
    reading.line source line (Layout.header template) =
      (reading.finishTemplate source).drafting template (.single line) (.plain []) := by
  have outside : reading.structureLine? line (trimChars (Layout.header template)) = none := by
    rw [trimmed, Layout.header]
    exact structureLine?_header line _
  have distinct : repeatedParameters [] template.parameters = [] := repeatedParameters_eq_nil writable.distinct
  have start : (reading.finishTemplate source).startTemplate source line (Layout.header template).tail =
      (reading.finishTemplate source).drafting template (.single line) (.plain []) := by
    rw [startTemplate, readWhole_header writable]
    simp [distinct, noteAll, drafting]
  rw [line_eq_plainLine unfenced source line outside, trimmed]
  exact start

/-- There is nothing to finish where nothing has been started. -/
theorem finishTemplate_idle (idle : reading.pending = none) : reading.finishTemplate source = reading := by
  simp [finishTemplate, closeFence, unfenced, idle]

/-- An import line adds the import. -/
theorem line_import (idle : reading.pending = none) {entry : Import} (writable : entry.IsWritable)
    (trimmed : IsTrimmed (Layout.importLine entry)) :
    reading.line source line (Layout.importLine entry) =
      { reading with imports := reading.imports ++ [{ entry with line := line }] } := by
  have outside : reading.structureLine? line (trimChars (Layout.importLine entry)) = none := by
    simp only [structureLine?, idle]
  have linked : (cutAt [']', '('] (Layout.importLine entry).tail).isSome = true :=
    isSome_cutAt ⟨entry.description.toList, _, List.append_assoc _ _ _⟩
  have some : ¬ entry.target.toList.isEmpty = true := by simpa [List.isEmpty_iff] using writable.some
  have added : reading.importLine source line (Layout.importLine entry) =
      { reading with imports := reading.imports ++ [{ entry with line := line }] } := by
    rw [importLine, readWhole_import writable]
    simp only [show trimChars _ = _ from writable.description, show trimChars _ = _ from writable.target, if_neg some,
      String.ofList_toList]
  rw [line_eq_plainLine unfenced source line outside, trimmed]
  refine Eq.trans ?_ added
  refine (if_pos linked).trans ?_
  rw [finishTemplate_idle unfenced source idle]
  rfl

/-- A line with a dash adds its text to the template. -/
theorem line_dash (template : Template) (range : LineRange) (lines : List BodyLine) {text : List Char}
    (trimmed : IsTrimmed text) (plain : cutAt fence text = none) :
    (reading.drafting template range (.plain lines)).line source line ('-' :: ' ' :: text) =
      reading.drafting template ⟨range.first, max range.last line⟩ (.plain (lines ++ [⟨line, text⟩])) := by
  have space : ∀ c ∈ [' '], isBlank c = true := by decide
  have front : trimChars ('-' :: ' ' :: text) = '-' :: trimBack (' ' :: text) := by
    rw [trimChars, (Opens.cons (by decide) _).trimFront]
    exact trimBack_append_cons (by decide) [] (' ' :: text)
  have inner : trimChars (trimBack (' ' :: text)) = text :=
    (trimChars_trimBack _).trans ((trimChars_front space text).trans trimmed)
  have quiet : (reading.drafting template range (.plain lines)).fenced = none := unfenced
  rw [line_eq_plainLine quiet source line rfl, front]
  simp only [plainLine, inner]
  simp only [bodyLine, drafting, plain, pushBodyLine]

/-- A bracket with a type name opens a structured body. -/
theorem line_opening (template : Template) (range : LineRange) {typeName : String}
    (proper : isProperName typeName.toList = true) :
    (reading.drafting template range (.plain [])).line source line ('[' :: typeName.toList) =
      reading.drafting template ⟨range.first, line⟩ (.structured typeName [] false) := by
  obtain ⟨_, _, _, _, all⟩ := exists_of_isProperName proper
  have dark : ∀ c ∈ typeName.toList, isBlank c = false := fun c inside => dark_of_isNameChar (all c inside)
  have bracket : ']' ∉ typeName.toList := fun inside => absurd (all _ inside) (by decide)
  have trimmed : trimChars ('[' :: typeName.toList) = '[' :: typeName.toList :=
    isTrimmed_of_dark (List.forall_mem_cons.mpr ⟨by decide, dark⟩)
  have unlinked : cutAt [']', '('] typeName.toList = none :=
    cutAt_eq_none fun infix' => bracket (infix'.subset List.mem_cons_self)
  have opened : (typeName.toList.getLast? == some ']') = false :=
    beq_false_of_ne fun last => bracket (List.mem_of_getLast? last)
  have quiet : (reading.drafting template range (.plain [])).fenced = none := unfenced
  rw [line_eq_plainLine quiet source line rfl, trimmed]
  simp only [plainLine, unlinked, Option.isSome_none, startStructure, drafting, List.drop_one, List.tail_cons, opened,
    Bool.false_eq_true, if_false, show trimChars _ = _ from isTrimmed_of_dark dark, if_pos proper, String.ofList_toList]

/-- A line inside a structured body is kept without the white space around it. -/
theorem line_inside (template : Template) (range : LineRange) (typeName : String) (lines : List BodyLine) {raw : List Char}
    {c : Char} {rest : List Char} (start : trimChars raw = c :: rest) (inner : c ∉ ['#', '>', ']']) :
    (reading.drafting template range (.structured typeName lines false)).line source line raw =
      reading.drafting template ⟨range.first, line⟩ (.structured typeName (lines ++ [⟨line, trimChars raw⟩]) false) := by
  have quiet : (reading.drafting template range (.structured typeName lines false)).fenced = none := unfenced
  have other : ¬ ((c :: rest) == [']']) = true := by
    intro same
    obtain ⟨rfl, _⟩ := List.cons.inj (beq_iff_eq.mp same)
    exact inner (by decide)
  refine line_eq_structureLine quiet source line ?_
  rw [start]
  simp only [structureLine?, drafting]
  -- The line is neither a name line nor empty nor a comment.
  split
  case h_1 _ _ _ _ _ _ hash =>
    obtain ⟨rfl, _⟩ := List.cons.inj hash
    exact absurd (by decide) inner
  case h_2 _ _ _ _ _ empty => cases empty
  case h_3 _ _ _ _ _ _ comment =>
    obtain ⟨rfl, _⟩ := List.cons.inj comment
    exact absurd (by decide) inner
  case h_4 _ _ _ _ same _ _ _ =>
    cases same
    rw [if_neg other]
  case h_5 _ _ unlike _ _ _ => exact absurd rfl (unlike typeName lines)

/-- A bracket closes a structured body. -/
theorem line_closing (template : Template) (range : LineRange) (typeName : String) (lines : List BodyLine) :
    (reading.drafting template range (.structured typeName lines false)).line source line [']'] =
      reading.drafting template ⟨range.first, line⟩ (.structured typeName lines true) := by
  have quiet : (reading.drafting template range (.structured typeName lines false)).fenced = none := unfenced
  exact line_eq_structureLine quiet source line rfl

end Steps

end FileReading

end Phrasebook
