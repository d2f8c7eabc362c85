import Phrasebook.Proofs.Template.Bodies

/-! What is written for the parts of a file are lines, which reading takes out of the file as they are. -/

namespace Phrasebook

/-- Whether a line stays as it is when it is taken out of a file. -/
def IsWholeLine (line : List Char) : Prop :=
  -- A carriage return at its end would be taken for a part of the line end.
  '\n' ∉ line ∧ line.getLast? ≠ some '\r'

/-- Lines that have their ends are taken apart again. -/
theorem linesOf_flatMap {lines : List (List Char)} (whole : ∀ line ∈ lines, IsWholeLine line) :
    linesOf (lines.flatMap fun line => line ++ ['\n']) = lines := by
  -- The first line feed ends the first line.
  have cut (line rest : List Char) (oneLine : '\n' ∉ line) :
      linesWithEnds (line ++ ['\n'] ++ rest) = (line ++ ['\n']) :: linesWithEnds rest := by
    induction line with
    | nil => rfl
    | cons c line later =>
      obtain ⟨other, oneLine⟩ := not_or.mp (mt List.mem_cons.mpr oneLine)
      have later := later oneLine
      rw [List.cons_append, List.cons_append, linesWithEnds, later]
      exact fun same => other same.symm
  have bare (line : List Char) (ends : line.getLast? ≠ some '\r') : withoutLineEnd (line ++ ['\n']) = line := by
    rcases List.eq_nil_or_concat line with rfl | ⟨front, c, rfl⟩
    · rfl
    · have other : c ≠ '\r' := by simpa using ends
      simp [withoutLineEnd, other]
  induction lines with
  | nil => rfl
  | cons line lines later =>
    obtain ⟨here, others⟩ := List.forall_mem_cons.mp whole
    have later := later others
    rw [linesOf] at later ⊢
    rw [List.flatMap_cons, cut line _ here.1, List.map_cons, bare line here.2, later]

/-- Whole texts in a row make up a whole line. -/
theorem joined_isWholeLine : Joined IsWholeLine where
  nil := ⟨List.not_mem_nil, nofun⟩
  append {front back} whole whole' := by
    refine ⟨fun inside => (List.mem_append.mp inside).elim whole.1 whole'.1, ?_⟩
    rw [List.getLast?_append]
    cases last : back.getLast? with
    | none => simpa using whole.2
    | some c => simpa [last] using whole'.2

/-- A text of one line without white space at its end is a whole line. -/
theorem IsTrimmed.isWholeLine {text : List Char} (trimmed : IsTrimmed text) (oneLine : '\n' ∉ text) : IsWholeLine text := by
  refine ⟨oneLine, fun last => ?_⟩
  rcases trimmed.ends with rfl | ⟨_, front, c, rfl, dark⟩
  · cases last
  · obtain rfl : c = '\r' := by simpa using last
    exact absurd dark (by decide)

/-- A text without white space is a whole line. -/
theorem isWholeLine_of_dark {text : List Char} (dark : ∀ c ∈ text, isBlank c = false) : IsWholeLine text :=
  (isTrimmed_of_dark dark).isWholeLine fun inside => absurd (dark _ inside) (by decide)

/-- A sign is a whole line if it is no white space, or a space. -/
theorem isWholeLine_sign {c : Char} (sign : isBlank c = false ∨ c = ' ') : IsWholeLine [c] := by
  rcases sign with dark | rfl
  · exact isWholeLine_of_dark (by simpa using dark)
  · exact ⟨by decide, by decide⟩

/-- A sign may stand in front of a whole line. -/
theorem IsWholeLine.cons {c : Char} (sign : isBlank c = false ∨ c = ' ') {line : List Char} (whole : IsWholeLine line) :
    IsWholeLine (c :: line) :=
  joined_isWholeLine.append (isWholeLine_sign sign) whole

/-- There is no white space in an identifier. -/
theorem IsIdentifier.dark {name : String} (named : IsIdentifier name) : ∀ c ∈ name.toList, isBlank c = false := by
  obtain ⟨first, rest, chars, starts, continues⟩ := named
  rw [chars]
  refine List.forall_mem_cons.mpr ⟨(dark_of_startsIdentifier starts).1, fun c inside => ?_⟩
  cases blank : isBlank c with
  | false => rfl
  | true => exact absurd (continues c inside) (by simp [continuesIdentifier_of_isBlank c blank])

/-- An identifier opens a text. -/
theorem IsIdentifier.opens {name : String} (named : IsIdentifier name) : Opens name.toList := by
  obtain ⟨c, rest, chars, starts⟩ := named.start
  exact ⟨c, rest, chars, (dark_of_startsIdentifier starts).1⟩

/-- An embedded expression that can be written takes one line. -/
theorem Embedded.IsWritable.oneLine_embeddedChars {embedded : Embedded} (writable : embedded.IsWritable) :
    '\n' ∉ embeddedChars embedded.source.toList := by
  simpa [embeddedChars] using writable.oneLine

/-- Whether a text can stand behind a dash as it is. -/
structure IsDashable (text : List Char) : Prop where
  /-- Nothing is trimmed off. -/
  trimmed : IsTrimmed text
  /-- It opens no text of several lines. -/
  unfenced : cutAt fence text = none
  /-- It takes one line. -/
  oneLine : '\n' ∉ text

section Dashed

variable (layout : Layout)

/-- A text that can be written can stand behind a dash. -/
theorem isDashable_text {text : TemplateText} (writable : text.IsWritable) : IsDashable (layout.text .dashed text) :=
  ⟨layout.text_isTrimmed .dashed writable, layout.text_unfenced writable, layout.text_oneLine .dashed writable⟩

/-- A keyword with its condition can stand behind a dash. -/
theorem isDashable_keywordText {word : String} {keyword : Keyword} (known : (word, keyword) ∈ keywords)
    {condition : Option Embedded} (writable : ∀ embedded ∈ condition, embedded.IsWritable) :
    IsDashable (keywordText word condition) := by
  have words : ∀ entry ∈ keywords, (entry.1.toList.head?.any fun c => !isBlank c) = true ∧ cutAt fence entry.1.toList = none ∧
      '\n' ∉ entry.1.toList := by
    decide
  obtain ⟨starts, free, oneLine⟩ := words _ known
  have opens : Opens word.toList := by
    cases chars : word.toList with
    | nil => simp [chars] at starts
    | cons c rest => exact Opens.cons (by simpa [chars] using starts) rest
  cases condition with
  | none =>
    refine ⟨isTrimmed_of_ends (opens.append _) (Closes.concat (by decide) _), ?_, by simpa [keywordText] using oneLine⟩
    exact cutAt_fence_append free (unfenced_cons (by decide) rfl)
  | some embedded =>
    have writable := writable embedded rfl
    have closes : Closes (embeddedChars embedded.source.toList) :=
      Closes.concat (by decide) ('$' :: '\x7b' :: embedded.source.toList)
    refine ⟨isTrimmed_of_ends (opens.append _) ((closes.append [':', ' ']).append word.toList), ?_, ?_⟩
    · have spaced := unfenced_cons (show ' ' ≠ '`' by decide) (unfenced_embeddedChars writable).1
      exact cutAt_fence_append free (unfenced_cons (by decide) spaced.1)
    · simp [keywordText, oneLine, writable.oneLine_embeddedChars]

/-- Every dashed line of a body can stand behind its dash. -/
theorem isDashable_of_mem_dashedTexts {body : Body} (writable : body.IsWritable) :
    ∀ text ∈ layout.dashedTexts body, IsDashable text := by
  cases body with
  | normal candidates => exact List.forall_mem_map.mpr fun text inside => isDashable_text layout (writable text inside)
  | conditional branches =>
    intro text inside
    obtain ⟨branch, among, inside⟩ := List.mem_flatMap.mp inside
    obtain ⟨condition, body⟩ := writable.2 branch among
    obtain ⟨keyword, known, _⟩ := exists_keyword branch.kind
    rcases List.mem_cons.mp inside with rfl | inside
    · exact isDashable_keywordText known condition
    · obtain ⟨text, here, rfl⟩ := List.mem_map.mp inside
      exact isDashable_text layout (body text here)
  | switch subject cases =>
    intro text inside
    rcases List.mem_cons.mp inside with rfl | inside
    · refine isDashable_keywordText (show ("SWITCH", Keyword.switch) ∈ keywords by decide) fun embedded same => ?_
      exact Option.some.inj same ▸ writable.2.1
    obtain ⟨case, among, inside⟩ := List.mem_flatMap.mp inside
    obtain ⟨value, body⟩ := writable.2.2 case among
    rcases List.mem_cons.mp inside with rfl | inside
    · split
      · exact isDashable_keywordText (show ("CASE", Keyword.case) ∈ keywords by decide) value
      · exact isDashable_keywordText (show ("DEFAULT", Keyword.default) ∈ keywords by decide) value
    · obtain ⟨text, here, rfl⟩ := List.mem_map.mp inside
      exact isDashable_text layout (body text here)
  | structured typeName parts => exact nofun

end Dashed

section WholeLines

variable (layout : Layout)

/-- Pieces are whole lines together if they and the separator are. -/
theorem isWholeLine_intercalate {separator : List Char} (whole : IsWholeLine separator) {pieces : List (List Char)}
    (each : ∀ piece ∈ pieces, IsWholeLine piece) : IsWholeLine (List.intercalate separator pieces) := by
  cases pieces with
  | nil => exact joined_isWholeLine.nil
  | cons piece pieces =>
    obtain ⟨here, others⟩ := List.forall_mem_cons.mp each
    rw [intercalate_cons]
    exact joined_isWholeLine.append here (joined_isWholeLine.flatMap fun next inside =>
      joined_isWholeLine.append whole (others next inside))

/-- A name starts with a character that can start one, and has characters of names only. -/
theorem exists_of_isProperName {name : List Char} (proper : isProperName name = true) :
    ∃ first rest, name = first :: rest ∧ startsIdentifier first = true ∧ ∀ c ∈ name, isNameChar c = true := by
  cases name with
  | nil => cases proper
  | cons first rest =>
    obtain ⟨starts, all⟩ := Bool.and_eq_true_iff.mp proper
    exact ⟨first, rest, rfl, starts, List.all_eq_true.mp all⟩

/-- There is no white space in a name. -/
theorem dark_of_isProperName {name : List Char} (proper : isProperName name = true) : ∀ c ∈ name, isBlank c = false := by
  obtain ⟨_, _, _, _, all⟩ := exists_of_isProperName proper
  exact fun c inside => dark_of_isNameChar (all c inside)

/-- A name opens and closes a text. -/
theorem ends_of_isProperName {name : List Char} (proper : isProperName name = true) : Opens name ∧ Closes name := by
  refine ends_of_dark ?_ (dark_of_isProperName proper)
  rintro rfl
  cases proper

/-- A name line stays as it is. -/
theorem shape_header {template : Template} (writable : template.IsWritable) :
    IsTrimmed (Layout.header template) ∧ IsWholeLine (Layout.header template) := by
  have name := isWholeLine_of_dark (dark_of_isProperName writable.name)
  have signs : IsWholeLine ['#', ' '] := ⟨by decide, by decide⟩
  unfold Layout.header
  split
  · have closes := (ends_of_isProperName writable.name).2
    rw [List.append_nil]
    exact ⟨isTrimmed_of_ends (Opens.cons (by decide) _) (closes.append ['#', ' ']), joined_isWholeLine.append signs name⟩
  · have parameters := isWholeLine_intercalate (show IsWholeLine [',', ' '] from ⟨by decide, by decide⟩)
      (List.forall_mem_map.mpr fun name inside => isWholeLine_of_dark (writable.identifiers name inside).dark)
    have opening : IsWholeLine ['('] := isWholeLine_sign (.inl (by decide))
    have closing : IsWholeLine [')'] := isWholeLine_sign (.inl (by decide))
    have list := joined_isWholeLine.append opening (joined_isWholeLine.append parameters closing)
    have closes : Closes [')'] := Closes.concat (by decide) []
    refine ⟨isTrimmed_of_ends (Opens.cons (by decide) _) ?_, joined_isWholeLine.append signs (joined_isWholeLine.append name list)⟩
    exact (((closes.append _).append ['(']).append template.name.toList).append ['#', ' ']

/-- An import line stays as it is. -/
theorem shape_import {entry : Import} (writable : entry.IsWritable) :
    IsTrimmed (Layout.importLine entry) ∧ IsWholeLine (Layout.importLine entry) := by
  have description := writable.description.isWholeLine writable.bracket.2
  have target := writable.target.isWholeLine writable.parenthesis.2
  have named := writable.qualifier
  -- The line ends with the parenthesis or with the alias.
  have ends : Closes (')' :: Layout.qualifier entry.qualifier) ∧ IsWholeLine (Layout.qualifier entry.qualifier) := by
    cases qualifier : entry.qualifier with
    | none => exact ⟨Closes.concat (by decide) [], joined_isWholeLine.nil⟩
    | some name =>
      have dark := (named name (by simp [qualifier])).dark
      have some : name.toList ≠ [] := by
        obtain ⟨_, _, chars, _⟩ := (named name (by simp [qualifier])).start
        simp [chars]
      have word : IsWholeLine [' ', 'a', 's', ' '] := ⟨by decide, by decide⟩
      exact ⟨(ends_of_dark some dark).2.append [')', ' ', 'a', 's', ' '],
        joined_isWholeLine.append word (isWholeLine_of_dark dark)⟩
  have signs : IsWholeLine [']', '('] := isWholeLine_of_dark (by decide)
  have closing : IsWholeLine (')' :: Layout.qualifier entry.qualifier) := ends.2.cons (.inl (by decide))
  have rest := joined_isWholeLine.append signs (joined_isWholeLine.append target closing)
  refine ⟨isTrimmed_of_ends (Opens.cons (by decide) _) ?_, ?_⟩
  · exact ((ends.1.append entry.target.toList).append [']', '(']).append entry.description.toList |>.append ['[']
  · exact (joined_isWholeLine.append description rest).cons (.inl (by decide))

/-- A line of a structured body stays as it is but for the white space around it. -/
theorem shape_structureLine {part : StructureLine} (writable : part.IsWritable) :
    IsWholeLine (layout.structureLine part) ∧
      ∃ c rest, trimChars (layout.structureLine part) = c :: rest ∧ c ∉ ['#', '>', ']'] := by
  cases part with
  | merge embedded =>
    have trimmed := isTrimmed_embeddedChars embedded.source.toList
    refine ⟨trimmed.isWholeLine (Embedded.IsWritable.oneLine_embeddedChars writable), '$', _, trimmed, by decide⟩
  | property key values =>
    obtain ⟨some, named, _, _, writable⟩ := writable
    have dark : ∀ c ∈ key.toList, isBlank c = false := fun c inside => dark_of_isNameChar (named c inside)
    have equals : IsWholeLine [' ', '=', ' '] := ⟨by decide, by decide⟩
    have bar : IsWholeLine [' ', '|', ' '] := ⟨by decide, by decide⟩
    have pieces := isWholeLine_intercalate bar (List.forall_mem_map.mpr fun value inside =>
      (layout.text_isTrimmed .value (writable value inside)).isWholeLine (layout.text_oneLine .value (writable value inside)))
    refine ⟨joined_isWholeLine.append (joined_isWholeLine.append (isWholeLine_of_dark dark) equals) pieces, ?_⟩
    obtain ⟨c, rest, start⟩ := List.exists_cons_of_ne_nil some
    have first : isNameChar c = true := named c (by simp [start])
    have trimmed : trimChars (layout.structureLine (.property key values)) = c :: trimBack (rest ++ [' ', '=', ' '] ++
        List.intercalate [' ', '|', ' '] (values.map (layout.text .value))) := by
      rw [Layout.structureLine, start, trimChars, List.cons_append, List.cons_append,
        (Opens.cons (dark_of_isNameChar first) _).trimFront]
      exact trimBack_append_cons (dark_of_isNameChar first) [] _
    have other : ∀ sign ∈ ['#', '>', ']'], isNameChar sign = false := by decide
    exact ⟨c, _, trimmed, fun special => absurd first (by simp [other c special])⟩

end WholeLines

end Phrasebook
