import Phrasebook.Proofs.Collection.Edits
import Phrasebook.Proofs.Collection.Splices
import Phrasebook.Proofs.Text.Returns

/-! Edits do the same to a text whose lines end with line feeds and to one with a carriage return in front of each of them. -/

namespace Phrasebook

/-- What can be done to the templates of a file. -/
inductive Edit where
  /-- A template is added at the end. -/
  | add (name : String) (parameters : List String) (body : String)
  /-- A template is replaced by another one. -/
  | update (name newName : String) (parameters : List String) (body : String)
  /-- A template is removed. -/
  | delete (name : String)
  deriving DecidableEq, Repr

/-- The text of a file after an edit, unless a template cannot be added because its name is taken. -/
def Edit.apply (edit : Edit) (file : LoadedFile) : Except TemplateError String :=
  -- Where there is no template to replace or to remove, the text stays as it is.
  match edit with
  | .add name parameters body =>
    match file.addTemplate name parameters body with
    | some content => .ok content
    | none => .error (.duplicate name)
  | .update name newName parameters body => .ok ((file.updateTemplate name newName parameters body).getD file.content)
  | .delete name => .ok ((file.deleteTemplate name).getD file.content)

/-- Whether the name line of a template that is written for a name and parameters is one line. -/
structure IsOneLine (name : String) (parameters : List String) : Prop where
  /-- No line ends in the name. -/
  name : '\r' ∉ name.toList ∧ '\n' ∉ name.toList
  /-- No line ends in a parameter. -/
  parameters : ∀ parameter ∈ parameters, '\r' ∉ parameter.toList ∧ '\n' ∉ parameter.toList

/-- Whether what an edit writes has no carriage returns, and a name line that is one line. -/
def Edit.IsPlain : Edit → Prop
  -- Nothing is written when a template is removed.
  | .add name parameters body => IsOneLine name parameters ∧ '\r' ∉ body.toList
  | .update _ newName parameters body => IsOneLine newName parameters ∧ '\r' ∉ body.toList
  | .delete _ => True

/-- A text with a carriage return in front of each line feed. -/
def convertLines (content : String) : String :=
  -- Characters are converted one by one.
  String.ofList (withReturns content.toList)

/-- The characters of a converted text. -/
@[simp] theorem toList_convertLines (content : String) : (convertLines content).toList = withReturns content.toList :=
  String.toList_ofList

section LineEnds

variable {text : List Char}

/-- A text without carriage returns uses lone line feeds. -/
theorem lineEndOf_of_lone (lone : '\r' ∉ text) : lineEndOf text = ['\n'] := by
  refine (isLineEnd_lineEndOf text).resolve_right fun other => lone ?_
  exact (lineEndOf_eq_iff.mp other).subset List.mem_cons_self

/-- A text with carriage returns in front of its line feeds uses both. -/
theorem lineEndOf_withReturns (feed : '\n' ∈ text) : lineEndOf (withReturns text) = ['\r', '\n'] := by
  obtain ⟨front, back, rfl⟩ := List.append_of_mem feed
  rw [lineEndOf_eq_iff]
  exact ⟨withReturns front, withReturns back, by simp [withReturns, returnBefore]⟩

end LineEnds

section Written

variable {name : String} {parameters : List String}

/-- Characters of joined texts are those of the separator and of the texts. -/
theorem mem_intercalate {separator : String} {texts : List String} {c : Char}
    (inside : c ∈ (String.intercalate separator texts).toList) : c ∈ separator.toList ∨ ∃ text ∈ texts, c ∈ text.toList := by
  induction texts with
  | nil => simp at inside
  | cons text texts later =>
    cases texts with
    | nil => exact .inr ⟨text, List.mem_cons_self, by simpa using inside⟩
    | cons next texts =>
      rw [String.intercalate_cons_cons, String.toList_append, String.toList_append, List.mem_append, List.mem_append] at inside
      rcases inside with (here | between) | there
      · exact .inr ⟨text, List.mem_cons_self, here⟩
      · exact .inl between
      · exact (later there).imp_right fun ⟨other, among, inside⟩ => ⟨other, List.mem_cons_of_mem _ among, inside⟩

/-- A name line is a piece of text without line ends in front of the lines of the body. -/
theorem IsOneLine.exists_header (oneLine : IsOneLine name parameters) : ∃ header, '\r' ∉ header ∧ '\n' ∉ header ∧
    ∀ body lineEnd, formatTemplate name parameters body lineEnd =
      header ++ (linesOf (trimBack body.toList)).flatMap fun line => lineEnd ++ line := by
  have bare (c : Char) (mark : c = '\r' ∨ c = '\n') : c ∉ ("# " ++ name).toList ∧ c ∉ (String.intercalate ", " parameters).toList := by
    have named : c ∉ name.toList := by rcases mark with rfl | rfl <;> simp [oneLine.name]
    refine ⟨?_, fun inside => ?_⟩
    · rcases mark with rfl | rfl <;> simpa using named
    · rcases mem_intercalate inside with between | ⟨parameter, among, inside⟩
      · rcases mark with rfl | rfl <;> simp at between
      · obtain ⟨back, feed⟩ := oneLine.parameters parameter among
        rcases mark with rfl | rfl
        · exact back inside
        · exact feed inside
  refine ⟨_, ?_, ?_, fun body lineEnd => rfl⟩
  · split
    · exact (bare '\r' (.inl rfl)).1
    · simpa using bare '\r' (.inl rfl)
  · split
    · exact (bare '\n' (.inr rfl)).1
    · simpa using bare '\n' (.inr rfl)

variable (oneLine : IsOneLine name parameters)

include oneLine

/-- A template is written with carriage returns in front of the line feeds that it is written with otherwise. -/
theorem formatTemplate_withReturns (body : String) :
    formatTemplate name parameters body ['\r', '\n'] = withReturns (formatTemplate name parameters body ['\n']) := by
  obtain ⟨header, _, bare, written⟩ := oneLine.exists_header
  have lines : withReturns ((linesOf (trimBack body.toList)).flatMap fun line => ['\n'] ++ line) =
      (linesOf (trimBack body.toList)).flatMap fun line => ['\r', '\n'] ++ line := by
    rw [withReturns, List.flatMap_assoc]
    refine List.flatMap_congr fun line inside => ?_
    have same : line.flatMap returnBefore = line := withReturns_of_oneLine (feed_not_mem_linesOf inside)
    rw [List.flatMap_append, same]
    rfl
  rw [written, written, withReturns_append, withReturns_of_oneLine bare, lines]

/-- A template without carriage returns is written without them. -/
theorem return_not_mem_formatTemplate {body : String} (lone : '\r' ∉ body.toList) :
    '\r' ∉ formatTemplate name parameters body ['\n'] := by
  obtain ⟨header, bare, _, written⟩ := oneLine.exists_header
  rw [written]
  intro inside
  rcases List.mem_append.mp inside with here | there
  · exact bare here
  · obtain ⟨line, among, inside⟩ := List.mem_flatMap.mp there
    rcases List.mem_append.mp inside with feed | inside
    · simp at feed
    · have kept : trimBack body.toList <+: body.toList := List.rdropWhile_prefix isBlank _
      exact lone (kept.subset (mem_of_mem_linesOf among inside))

end Written

section Texts

/-- The lines around a range are converted one by one. -/
theorem aroundRange_map (lines : List (List Char)) (range : LineRange) : aroundRange (lines.map withReturns) range =
    ((aroundRange lines range).1.map withReturns, (aroundRange lines range).2.map withReturns) := by
  simp only [aroundRange, List.length_map, List.map_take, List.map_drop]

/-- Blank lines at the front are dropped before or after. -/
theorem dropWhile_isBlankLine_map (lines : List (List Char)) :
    (lines.map withReturns).dropWhile isBlankLine = (lines.dropWhile isBlankLine).map withReturns := by
  rw [List.dropWhile_map]
  have same : isBlankLine ∘ withReturns = isBlankLine := funext isBlankLine_withReturns
  rw [same]

/-- So are blank lines at the end. -/
theorem dropBlankEnd_map (lines : List (List Char)) :
    dropBlankEnd (lines.map withReturns) = (dropBlankEnd lines).map withReturns := by
  rw [dropBlankEnd, dropBlankEnd, ← List.map_reverse, dropWhile_isBlankLine_map, List.map_reverse]

/-- A text that is given by its characters is converted character by character. -/
theorem convertLines_ofList (text : List Char) : convertLines (String.ofList text) = String.ofList (withReturns text) := by
  rw [convertLines, String.toList_ofList]

/-- Lines are removed before or after. -/
theorem removeLines_convertLines (content : String) (range : LineRange) :
    removeLines (convertLines content) range = convertLines (removeLines content range) := by
  simp only [removeLines, toList_convertLines, linesWithEnds_withReturns, aroundRange_map]
  generalize aroundRange (linesWithEnds content.toList) range = around
  obtain ⟨before, after⟩ := around
  have behind (gap : Bool) : (if gap then (after.map withReturns).dropWhile isBlankLine else after.map withReturns) =
      (if gap then after.dropWhile isBlankLine else after).map withReturns := by
    cases gap with
    | false => rfl
    | true => exact dropWhile_isBlankLine_map after
  have front (last : Bool) : (if last then dropBlankEnd (before.map withReturns) else before.map withReturns) =
      (if last then dropBlankEnd before else before).map withReturns := by
    cases last with
    | false => rfl
    | true => exact dropBlankEnd_map before
  -- Whether the line in front of the range is blank does not depend on its end.
  simp only [behind, List.isEmpty_map, front, convertLines_ofList, withReturns_append, withReturns_flatten, List.getLast?_map]
  cases before.getLast? with
  | none => rfl
  | some line => simp only [Option.map_some, isBlankLine_withReturns]

/-- Pieces of a text have no characters but those of the text. -/
theorem mem_of_mem_pieces {pieces : List (List Char)} {text : List Char} (among : pieces ⊆ linesWithEnds text) {c : Char}
    (inside : c ∈ pieces.flatten) : c ∈ text := by
  obtain ⟨piece, here, inside⟩ := List.mem_flatten.mp inside
  rw [← flatten_linesWithEnds text]
  exact List.mem_flatten_of_mem (among here) inside

/-- Lines around a range are lines. -/
theorem aroundRange_subset (lines : List (List Char)) (range : LineRange) :
    (aroundRange lines range).1 ⊆ lines ∧ (aroundRange lines range).2 ⊆ lines :=
  ⟨List.take_subset _ _, List.drop_subset _ _⟩

/-- A removal adds no character. -/
theorem mem_of_mem_removeLines {content : String} {range : LineRange} {c : Char}
    (inside : c ∈ (removeLines content range).toList) : c ∈ content.toList := by
  obtain ⟨front, back⟩ := aroundRange_subset (linesWithEnds content.toList) range
  have either {lines fewer : List (List Char)} (some : fewer ⊆ lines) (choice : Bool) : (if choice then fewer else lines) ⊆ lines := by
    cases choice with
    | false => exact List.Subset.refl lines
    | true => exact some
  rcases List.mem_append.mp (String.toList_ofList ▸ inside) with before | after
  · exact mem_of_mem_pieces (List.Subset.trans (either (List.rdropWhile_prefix isBlankLine _).subset _) front) before
  · exact mem_of_mem_pieces (List.Subset.trans (either (List.dropWhile_suffix isBlankLine).subset _) back) after

/-- Lines with one end are converted one by one, the last one without its end included. -/
theorem withReturns_closed {lines : List (List Char)} (oneLine : ∀ line ∈ lines, '\n' ∉ line) (bare : Bool) :
    withReturns (if bare then (lines.flatMap (· ++ ['\n'])).take ((lines.flatMap (· ++ ['\n'])).length - ['\n'].length)
      else lines.flatMap (· ++ ['\n'])) =
    if bare then (lines.flatMap (· ++ ['\r', '\n'])).take ((lines.flatMap (· ++ ['\r', '\n'])).length - ['\r', '\n'].length)
      else lines.flatMap (· ++ ['\r', '\n']) := by
  have closed {lines : List (List Char)} (oneLine : ∀ line ∈ lines, '\n' ∉ line) :
      withReturns (lines.flatMap (· ++ ['\n'])) = lines.flatMap (· ++ ['\r', '\n']) := by
    rw [withReturns, List.flatMap_assoc]
    refine List.flatMap_congr fun line inside => ?_
    have same : line.flatMap returnBefore = line := withReturns_of_oneLine (oneLine line inside)
    rw [List.flatMap_append, same]
    rfl
  cases bare with
  | false => exact closed oneLine
  | true =>
    rcases List.eq_nil_or_concat lines with rfl | ⟨front, line, rfl⟩
    · rfl
    · rw [List.concat_eq_append] at oneLine ⊢
      have start := closed fun raw inside => oneLine raw (List.mem_append_left _ inside)
      have last : withReturns line = line := withReturns_of_oneLine (oneLine line (by simp))
      have cut (lineEnd : List Char) : ((front ++ [line]).flatMap (· ++ lineEnd)).take
          (((front ++ [line]).flatMap (· ++ lineEnd)).length - lineEnd.length) = front.flatMap (· ++ lineEnd) ++ line := by
        rw [List.flatMap_append, List.flatMap_singleton, ← List.append_assoc, List.length_append, Nat.add_sub_cancel, List.take_left]
      have short := cut ['\n']
      have long := cut ['\r', '\n']
      rw [if_pos rfl, if_pos rfl]
      exact (congrArg withReturns short).trans ((withReturns_append _ _).trans ((congrArg₂ _ start last).trans long.symm))

variable {content : String} (lone : '\r' ∉ content.toList) (feed : '\n' ∈ content.toList)

include lone feed

/-- Lines are replaced before or after, by lines that are converted as well. -/
theorem replaceLines_convertLines (range : LineRange) {text : List Char} (bare : '\r' ∉ text) :
    replaceLines (convertLines content) range (withReturns text) = convertLines (replaceLines content range text) := by
  have oneLine : ∀ line ∈ linesOf text, '\n' ∉ line := fun line inside => feed_not_mem_linesOf inside
  simp only [replaceLines, toList_convertLines, linesWithEnds_withReturns, aroundRange_map, lineEndOf_withReturns feed,
    lineEndOf_of_lone lone, linesOf_withReturns bare, getLast?_withReturns, List.isEmpty_map, convertLines_ofList,
    withReturns_append, withReturns_flatten, withReturns_closed oneLine]

/-- A template is added before or after. -/
theorem appendTemplate_convertLines {name : String} {parameters : List String} (oneLine : IsOneLine name parameters) (body : String) :
    appendTemplate (convertLines content) name parameters body = convertLines (appendTemplate content name parameters body) := by
  have gap (kept : List Char) : (if (withReturns kept).isEmpty then [] else ['\r', '\n'] ++ ['\r', '\n']) =
      withReturns (if kept.isEmpty then [] else ['\n'] ++ ['\n']) := by
    cases kept with
    | nil => rfl
    | cons c kept =>
      by_cases feed : c = '\n'
      · simp [withReturns, returnBefore, feed]
      · simp [withReturns, returnBefore, feed]
  simp only [appendTemplate, toList_convertLines, lineEndOf_withReturns feed, lineEndOf_of_lone lone, trimBack_withReturns,
    formatTemplate_withReturns oneLine, gap, convertLines_ofList, withReturns_append]
  rfl

omit feed

/-- Replacing lines adds no carriage return. -/
theorem return_not_mem_replaceLines (range : LineRange) {text : List Char} (bare : '\r' ∉ text) :
    '\r' ∉ (replaceLines content range text).toList := by
  obtain ⟨front, back⟩ := aroundRange_subset (linesWithEnds content.toList) range
  have lines : '\r' ∉ (linesOf text).flatMap (· ++ ['\n']) := fun inside => by
    obtain ⟨line, among, inside⟩ := List.mem_flatMap.mp inside
    rcases List.mem_append.mp inside with here | feed
    · exact bare (mem_of_mem_linesOf among here)
    · simp at feed
  simp only [replaceLines, String.toList_ofList, lineEndOf_of_lone lone]
  intro inside
  rcases List.mem_append.mp inside with inside | after
  · rcases List.mem_append.mp inside with before | between
    · exact lone (mem_of_mem_pieces front before)
    · split at between
      · exact lines (List.mem_of_mem_take between)
      · exact lines between
  · exact lone (mem_of_mem_pieces back after)

/-- Adding a template adds no carriage return. -/
theorem return_not_mem_appendTemplate {name body : String} {parameters : List String} (oneLine : IsOneLine name parameters)
    (bare : '\r' ∉ body.toList) : '\r' ∉ (appendTemplate content name parameters body).toList := by
  have written := return_not_mem_formatTemplate oneLine bare
  have kept : trimBack content.toList <+: content.toList := List.rdropWhile_prefix isBlank _
  have front : '\r' ∉ trimBack content.toList := fun inside => lone (kept.subset inside)
  simp only [appendTemplate, String.toList_ofList, lineEndOf_of_lone lone, List.mem_append, not_or]
  refine ⟨⟨⟨front, ?_⟩, written⟩, by simp⟩
  split
  · simp
  · simp

end Texts

section Edits

variable (resolver : Resolver) {content : String} (id : String) (lone : '\r' ∉ content.toList)

include lone

/-- The templates of a text are those of the converted one, all lines included. -/
theorem templates_convertLines : (Collection.load resolver (convertLines content) id).root.file.templates =
    (Collection.load resolver content id).root.file.templates := by
  obtain ⟨read, same, source⟩ := Collection.file_load resolver content id
  obtain ⟨read', same', source'⟩ := Collection.file_load resolver (convertLines content) id
  rw [read.templates, same, source, read'.templates, same', source', TemplateFile.parse_eq, TemplateFile.parse_eq,
    toList_convertLines, linesOf_withReturns lone]

/-- An edit that writes no carriage return leaves a text without any. -/
theorem Edit.return_not_mem_apply {edit : Edit} (plain : edit.IsPlain) {text : String}
    (done : edit.apply (Collection.load resolver content id).root.file = .ok text) : '\r' ∉ text.toList := by
  obtain ⟨_, same, _⟩ := Collection.file_load resolver content id
  generalize (Collection.load resolver content id).root.file = file at done same
  subst same
  cases edit with
  | add name parameters body =>
    obtain ⟨oneLine, bare⟩ := plain
    have added := return_not_mem_appendTemplate lone oneLine bare
    simp only [apply, LoadedFile.addTemplate] at done
    cases taken : (file.template? name).isSome with
    | true =>
      rw [taken] at done
      cases done
    | false =>
      rw [taken] at done
      exact Except.ok.inj done ▸ added
  | update name newName parameters body =>
    obtain ⟨oneLine, bare⟩ := plain
    simp only [apply, LoadedFile.updateTemplate, lineEndOf_of_lone lone] at done
    cases found : file.template? name with
    | none =>
      rw [found] at done
      exact Except.ok.inj done ▸ lone
    | some template =>
      rw [found] at done
      exact Except.ok.inj done ▸ return_not_mem_replaceLines lone template.range (return_not_mem_formatTemplate oneLine bare)
  | delete name =>
    simp only [apply, LoadedFile.deleteTemplate] at done
    cases found : file.template? name with
    | none =>
      rw [found] at done
      exact Except.ok.inj done ▸ lone
    | some template =>
      rw [found] at done
      exact Except.ok.inj done ▸ mt mem_of_mem_removeLines lone

/-- **Edits commute with the conversion of line ends.** What an edit leaves of a text whose lines are converted is the converted
    text that it leaves of the text itself, a template cannot be added to one of them exactly where it cannot be added to the
    other, and in both cases the same templates are read from the same lines afterwards. -/
theorem Edit.apply_convertLines (feed : '\n' ∈ content.toList) {edit : Edit} (plain : edit.IsPlain) :
    edit.apply (Collection.load resolver (convertLines content) id).root.file =
        (edit.apply (Collection.load resolver content id).root.file).map convertLines ∧
      ∀ text, edit.apply (Collection.load resolver content id).root.file = .ok text →
        (Collection.load resolver (convertLines text) id).root.file.templates =
          (Collection.load resolver text id).root.file.templates := by
  refine ⟨?_, fun text done => templates_convertLines resolver id (edit.return_not_mem_apply resolver id lone plain done)⟩
  have templates := templates_convertLines resolver id lone
  obtain ⟨_, same, _⟩ := Collection.file_load resolver content id
  obtain ⟨_, same', _⟩ := Collection.file_load resolver (convertLines content) id
  generalize (Collection.load resolver content id).root.file = file at templates same
  generalize (Collection.load resolver (convertLines content) id).root.file = file' at templates same'
  subst same
  have found (name : String) : file'.template? name = file.template? name := by
    rw [LoadedFile.template?, LoadedFile.template?, templates]
  cases edit with
  | add name parameters body =>
    obtain ⟨oneLine, _⟩ := plain
    simp only [apply, LoadedFile.addTemplate, found, same', appendTemplate_convertLines lone feed oneLine]
    cases (file.template? name).isSome with
    | true => rfl
    | false => rfl
  | update name newName parameters body =>
    obtain ⟨oneLine, bare⟩ := plain
    have written := return_not_mem_formatTemplate oneLine bare
    simp only [apply, LoadedFile.updateTemplate, found, same', toList_convertLines, lineEndOf_withReturns feed,
      lineEndOf_of_lone lone, formatTemplate_withReturns oneLine, replaceLines_convertLines lone feed _ written]
    cases file.template? name with
    | none => rfl
    | some template => rfl
  | delete name =>
    simp only [apply, LoadedFile.deleteTemplate, found, same', removeLines_convertLines]
    cases file.template? name with
    | none => rfl
    | some template => rfl

end Edits

/-- Two templates, the last line without a line end. -/
def twoTemplates : String :=
  -- Lone line feeds end the other lines.
  "# a\n- x\n\n# b\n- y"

/-- The last template is replaced in a text with carriage returns as in the text without them. -/
theorem twoTemplates_updated :
    '\r' ∉ twoTemplates.toList ∧ '\n' ∈ twoTemplates.toList ∧ (Edit.update "b" "c" ["n", "m"] "- 1\n- 2").IsPlain ∧
      (Edit.update "b" "c" ["n", "m"] "- 1\n- 2").apply (Collection.ofText (convertLines twoTemplates)).file =
        .ok "# a\r\n- x\r\n\r\n# c(n, m)\r\n- 1\r\n- 2" ∧
      (Collection.ofText "# a\r\n- x\r\n\r\n# c(n, m)\r\n- 1\r\n- 2").file.templates =
        (Collection.ofText "# a\n- x\n\n# c(n, m)\n- 1\n- 2").file.templates := by
  have lone : '\r' ∉ twoTemplates.toList := by decide
  have feed : '\n' ∈ twoTemplates.toList := by decide
  have plain : (Edit.update "b" "c" ["n", "m"] "- 1\n- 2").IsPlain :=
    ⟨⟨by decide, by decide⟩, by decide⟩
  have done : (Edit.update "b" "c" ["n", "m"] "- 1\n- 2").apply (Collection.ofText twoTemplates).file =
      .ok "# a\n- x\n\n# c(n, m)\n- 1\n- 2" := eq_ok_of_toOption (by decide +kernel)
  have converted : convertLines "# a\n- x\n\n# c(n, m)\n- 1\n- 2" = "# a\r\n- x\r\n\r\n# c(n, m)\r\n- 1\r\n- 2" := by decide
  obtain ⟨same, templates⟩ := Edit.apply_convertLines (.table []) "" lone feed plain
  have templates := templates _ done
  rw [converted] at templates
  refine ⟨lone, feed, plain, ?_, templates⟩
  rw [← converted]
  exact same.trans (congrArg (Except.map convertLines) done)

end Phrasebook
