import Phrasebook.Template.Finding
import Phrasebook.Text.Split
import Phrasebook.Reading.Lines
import Phrasebook.Unicode.Casing

/-! Template files are read line by line; whatever is wrong becomes a finding and reading goes on. -/

namespace Phrasebook

/-- A value together with what was found wrong on the way to it. -/
structure Noted (α : Type) where
  /-- The value. -/
  value : α
  /-- The findings, in order: the lines and the fault of each. -/
  notes : List (LineRange × Fault) := []

instance : Monad Noted where
  pure value := ⟨value, []⟩
  bind first next :=
    let second := next first.value
    ⟨second.value, first.notes ++ second.notes⟩

/-- Note a fault on a line. -/
def noteLine (line : Nat) (fault : Fault) : Noted Unit :=
  -- The value is of no interest.
  ⟨(), [(.single line, fault)]⟩

/-- Note a fault on a line under a condition. -/
def noteIf (condition : Bool) (line : Nat) (fault : Fault) : Noted Unit :=
  -- Nothing is noted otherwise.
  if condition then noteLine line fault else pure ()

/-- The three signs that open and close a text of several lines. -/
def fence : List Char := "```".toList

/-- A body line without its dash. -/
structure BodyLine where
  /-- The line it starts on. -/
  line : Nat
  /-- Its text. -/
  text : List Char
  deriving DecidableEq, Repr, Inhabited

/-- The body of a template that is being read. -/
inductive Draft where
  /-- Lines with a dash. -/
  | plain (lines : List BodyLine)
  /-- A structured body, its lines, and whether it has been closed. -/
  | structured (typeName : String) (lines : List BodyLine) (closed : Bool)
  deriving Inhabited

/-- A template that is being read. -/
structure Pending where
  /-- The name, empty if the name line could not be read. -/
  name : String
  /-- The parameters. -/
  parameters : List String
  /-- The lines read so far. -/
  range : LineRange
  /-- Whether the name line could be read. -/
  valid : Bool
  /-- The body so far. -/
  draft : Draft
  deriving Inhabited

/-- What has been read of a file. -/
structure FileReading where
  /-- The finished templates. -/
  templates : List Template := []
  /-- The imports. -/
  imports : List Import := []
  /-- The option lines, without their mark. -/
  options : List String := []
  /-- What was found wrong. -/
  findings : List Finding := []
  /-- The template that is being read. -/
  pending : Option Pending := none
  /-- The fenced text that is being read. -/
  fenced : Option BodyLine := none
  deriving Inhabited

/-- A file after reading. -/
structure TemplateFile where
  /-- The templates, in source order. -/
  templates : List Template
  /-- The imports, in source order. -/
  imports : List Import
  /-- The option lines, in source order. -/
  options : List String
  /-- What was found wrong. -/
  findings : List Finding
  deriving Inhabited

/-- A word that opens a branch or a case. -/
inductive Keyword where
  /-- Opens a conditional. -/
  | opening
  /-- Opens a further branch. -/
  | further
  /-- Opens the branch for all other cases. -/
  | otherwise
  /-- Opens a switch. -/
  | switch
  /-- Opens a case. -/
  | case
  /-- Opens the default case. -/
  | default
  deriving DecidableEq, Repr

/-- The keyword that a body line starts with, and the text after its colon. -/
def keyword? (text : List Char) : Option (Keyword × List Char) :=
  -- Keywords may be written in any case and with any white space between words.
  match cutAt [':'] text with
  | none => none
  | some (head, rest) =>
    let words := (wordsOf head).map fun word => lowerText (String.ofList word)
    let found : Option Keyword := match words with
      | ["if"] => some .opening
      | ["else", "if"] => some .further
      | ["elseif"] => some .further
      | ["else"] => some .otherwise
      | ["switch"] => some .switch
      | ["case"] => some .case
      | ["default"] => some .default
      | _ => none
    found.map fun keyword => (keyword, trimChars rest)

/-- Read a text; one that cannot be read stands for itself. -/
def notedText (line : Nat) (raw : List Char) : Noted TemplateText :=
  -- The stand-in is never evaluated, because the file then has an error.
  let text := String.ofList raw
  match TemplateText.parse text with
  | .ok segments => pure segments
  | .error error => ⟨[.literal text], [(.single line, .badText error)]⟩

/-- Read a condition or value; one that cannot be read stands for null. -/
def notedCondition (line : Nat) (raw : List Char) : Noted Embedded :=
  -- The stand-in is never evaluated, because the file then has an error.
  let text := String.ofList raw
  match parseCondition text with
  | .ok embedded => pure embedded
  | .error error => ⟨.unreadable text, [(.single line, .badText error)]⟩

/-- Read a condition or value that must not be missing. -/
def requiredCondition (line : Nat) (raw : List Char) (missing : Fault) : Noted Embedded :=
  -- A missing one is told apart from one that cannot be read.
  if raw.isEmpty then ⟨.unreadable "", [(.single line, missing)]⟩ else notedCondition line raw

/-- The candidates of a body of plain texts. -/
def readCandidates (name : String) : List BodyLine → Noted (List TemplateText)
  -- A keyword may not follow a plain text.
  | [] => pure []
  | line :: rest =>
    if (keyword? line.text).isSome then do
      noteLine line.line (.lateKeyword name)
      readCandidates name rest
    else do
      let text ← notedText line.line line.text
      let texts ← readCandidates name rest
      return text :: texts

/-- The kind of branch that a keyword opens. -/
def branchKind? : Keyword → Option BranchKind
  -- The words of a switch open no branch.
  | .opening => some .first
  | .further => some .further
  | .otherwise => some .otherwise
  | _ => none

/-- The first branch and its line, with a text added to its body. -/
def addToBranch (text : TemplateText) : List (Branch × Nat) → List (Branch × Nat)
  -- Without a branch the text has no place.
  | [] => []
  | (branch, line) :: rest => ({ branch with body := branch.body ++ [text] }, line) :: rest

/-- The branches after one more line, the latest first. -/
def branchLine (name : String) (branches : List (Branch × Nat)) (line : BodyLine) :
    Noted (List (Branch × Nat)) :=
  -- A line without a keyword belongs to the latest branch.
  match keyword? line.text with
  | none => do
    let text ← notedText line.line line.text
    return addToBranch text branches
  | some (keyword, rest) =>
    match branchKind? keyword with
    | none => do
      noteLine line.line (.switchInConditional name)
      return branches
    | some kind => do
      let afterLast := match branches with
        | (branch, _) :: _ => branch.kind == .otherwise
        | [] => false
      noteIf afterLast line.line .branchAfterElse
      noteIf (kind == .first && !branches.isEmpty) line.line .lateIf
      noteIf (kind != .first && branches.isEmpty) line.line .missingIf
      if kind == .otherwise then do
        noteIf (!rest.isEmpty) line.line .elseWithCondition
        return (⟨kind, none, []⟩, line.line) :: branches
      else do
        let condition ← requiredCondition line.line rest .missingCondition
        return (⟨kind, some condition, []⟩, line.line) :: branches

/-- The branches of a conditional body. -/
def readBranches (name : String) (lines : List BodyLine) : Noted (List Branch) := do
  -- Empty branches are noted after all lines have been read.
  let latest ← lines.foldlM (branchLine name) []
  let branches := latest.reverse
  branches.forM fun (branch, line) => noteIf branch.body.isEmpty line (.emptyBranch name)
  return branches.map (·.1)

/-- A switch that is being read: its subject, and its cases with their lines, the latest first. -/
structure SwitchDraft where
  /-- The expression that selects a case. -/
  subject : Option Embedded := none
  /-- The cases read so far. -/
  cases : List (Case × Nat) := []

/-- The switch after one more line. -/
def switchLine (name : String) (draft : SwitchDraft) (entry : BodyLine × Nat) : Noted SwitchDraft :=
  -- The position of the line tells whether it opens the switch.
  let (line, position) := entry
  match keyword? line.text with
  | some (.switch, rest) =>
    if position != 0 then do
      noteLine line.line .lateSwitch
      return draft
    else do
      let subject ← requiredCondition line.line rest .missingSubject
      return { draft with subject := some subject }
  | some (.case, rest) => do
    noteIf (position == 0) line.line .missingSwitch
    noteIf (afterDefault draft.cases) line.line .caseAfterDefault
    let value ← requiredCondition line.line rest .missingCaseValue
    return { draft with cases := (⟨some value, []⟩, line.line) :: draft.cases }
  | some (.default, rest) => do
    noteIf (position == 0) line.line .missingSwitch
    noteIf (afterDefault draft.cases) line.line .caseAfterDefault
    noteIf (!rest.isEmpty) line.line .defaultWithValue
    return { draft with cases := (⟨none, []⟩, line.line) :: draft.cases }
  | some _ => do
    noteLine line.line (.conditionalInSwitch name)
    return draft
  | none => do
    let text ← notedText line.line line.text
    match draft.cases with
    | (case, start) :: rest =>
      return { draft with cases := ({ case with body := case.body ++ [text] }, start) :: rest }
    | [] => do
      noteLine line.line .textBeforeCase
      return draft
where
  /-- Whether the latest case is the default one. -/
  afterDefault : List (Case × Nat) → Bool
    -- Only the latest case matters.
    | (case, _) :: _ => case.value.isNone
    | [] => false

/-- The subject and the cases of a switch body. -/
def readSwitch (name : String) (range : LineRange) (lines : List BodyLine) :
    Noted (Embedded × List Case) := do
  -- Missing and empty cases are noted after all lines have been read.
  let draft ← lines.zipIdx.foldlM (switchLine name) {}
  let cases := draft.cases.reverse
  if cases.all fun (case, _) => case.value.isNone then ⟨(), [(range, .noCase name)]⟩ else pure ()
  cases.forM fun (case, line) => noteIf case.body.isEmpty line (.emptyCase name)
  return (draft.subject.getD (.unreadable ""), cases.map (·.1))

/-- The body that lines with a dash make up; the first line tells its kind. -/
def readPlainBody (name : String) (range : LineRange) (lines : List BodyLine) : Noted Body :=
  -- A template without lines produces nothing.
  match lines with
  | [] => ⟨.normal [], [(range, .emptyTemplate name)]⟩
  | first :: _ =>
    match (keyword? first.text).map (·.1) with
    | none => do
      let candidates ← readCandidates name lines
      return .normal candidates
    | some keyword =>
      if (branchKind? keyword).isSome then do
        let branches ← readBranches name lines
        return .conditional branches
      else do
        let (subject, cases) ← readSwitch name range lines
        return .switch subject cases

/-- Whether a character can stand in a template name, a type name or a property name. -/
def isNameChar (c : Char) : Bool :=
  -- Dots and dashes join parts of a name.
  isAlphanumeric c || c == '_' || c == '.' || c == '-'

/-- Whether characters form a template or type name. -/
def isProperName (name : List Char) : Bool :=
  -- A name starts with a letter or an underscore.
  match name with
  | c :: _ => startsIdentifier c && name.all isNameChar
  | [] => false

/-- The line of a structured body, unless it cannot be read. -/
def readStructureLine (line : BodyLine) : Noted (Option StructureLine) :=
  -- An equals sign outside expressions makes a property.
  match splitOnce '=' line.text with
  | none =>
    if (afterMark ['$', '\x7b'] line.text).isSome then do
      let embedded ← notedCondition line.line line.text
      return some (.merge embedded)
    else do
      noteLine line.line (.badStructureLine (String.ofList line.text))
      return none
  | some (left, right) =>
    let key := trimChars left
    if key.isEmpty || !key.all isNameChar then do
      noteLine line.line (.badPropertyName (String.ofList key))
      return none
    else do
      let values ← (splitAll '|' (trimChars right)).mapM fun value => notedText line.line (trimChars value)
      return some (.property (lowerText (String.ofList key)) values)

/-- The lines of a structured body. -/
def readStructureLines : List BodyLine → Noted (List StructureLine)
  -- Lines that cannot be read are left out.
  | [] => pure []
  | line :: rest => do
    let first ← readStructureLine line
    let lines ← readStructureLines rest
    return first.toList ++ lines

/-- The body that a draft makes up. -/
def Draft.read (draft : Draft) (name : String) (range : LineRange) : Noted Body :=
  -- The two kinds of draft are read apart.
  match draft with
  | .plain lines => readPlainBody name range lines
  | .structured typeName lines _ => do
    let lines ← readStructureLines lines
    return .structured typeName lines

namespace FileReading

/-- Add a finding. -/
def note (reading : FileReading) (source : String) (range : LineRange) (fault : Fault) : FileReading :=
  -- Findings are kept in the order in which they are made.
  { reading with findings := reading.findings ++ [⟨range, fault, source⟩] }

/-- Add the findings of a noted value. -/
def noteAll (reading : FileReading) (source : String) (notes : List (LineRange × Fault)) : FileReading :=
  -- Findings are kept in the order in which they are made.
  { reading with findings := reading.findings ++ notes.map fun (range, fault) => ⟨range, fault, source⟩ }

/-- Add a line to the plain body of the template that is being read. -/
def pushBodyLine (reading : FileReading) (line : Nat) (text : List Char) : FileReading :=
  -- The template reaches at least to that line.
  match reading.pending with
  | some pending =>
    match pending.draft with
    | .plain lines =>
      { reading with pending := some { pending with
          draft := .plain (lines ++ [⟨line, text⟩])
          range := ⟨pending.range.first, max pending.range.last line⟩ } }
    | .structured _ _ _ => reading
  | none => reading

/-- Close a fenced text that the file leaves open. -/
def closeFence (reading : FileReading) (source : String) : FileReading :=
  -- Its lines so far still count as a body line.
  match reading.fenced with
  | none => reading
  | some fenced =>
    ({ reading with fenced := none }.note source (.single fenced.line) .unclosedFence).pushBodyLine
      fenced.line fenced.text

/-- Finish the template that is being read. -/
def finishTemplate (reading : FileReading) (source : String) : FileReading :=
  -- A template without a readable name is dropped, and so is a second one of a name.
  let reading := reading.closeFence source
  match reading.pending with
  | none => reading
  | some pending =>
    let reading := { reading with pending := none }
    let reading := match pending.draft with
      | .structured _ _ false => reading.note source pending.range (.unclosedStructure pending.name)
      | _ => reading
    if !pending.valid then reading
    else
      let body := pending.draft.read pending.name pending.range
      let reading := reading.noteAll source body.notes
      if reading.templates.any (·.name == pending.name) then
        reading.note source pending.range (.duplicateTemplate pending.name)
      else
        { reading with templates :=
            reading.templates ++ [⟨pending.name, pending.parameters, body.value, source, pending.range⟩] }

/-- Read a template name. -/
def nameRule : Rule String := fun text =>
  -- Dots and dashes may stand inside a name.
  match text with
  | c :: rest =>
    if startsIdentifier c then
      .done (String.ofList (c :: rest.takeWhile isNameChar)) (rest.dropWhile isNameChar)
    else .refused text
  | [] => .refused text

/-- Read a name line after its sign: a name and perhaps parameters. -/
def headerRule : Rule (String × List String) := do
  -- A broken parameter list is left over.
  Rule.blanks
  let name ← nameRule
  Rule.blanks
  let parameters ← Rule.optional (do
    Rule.exactly ['(']
    Rule.blanks
    let parameters ← Rule.elements (do Rule.exactly [',']; Rule.blanks)
      (do let parameter ← identifier; Rule.blanks; return parameter)
    Rule.exactly [')']
    return parameters)
  return (name, parameters.getD [])

/-- What a rule reads of a text that holds nothing else but white space at its end. -/
def readWhole {α : Type} (rule : Rule α) (text : List Char) : Option α :=
  -- All failures are alike here.
  match rule text with
  | .done value rest => if isBlankLine rest then some value else none
  | _ => none

/-- The parameters that repeat an earlier one, in order. -/
def repeatedParameters (before : List String) : List String → List String
  -- Every repetition counts.
  | [] => []
  | parameter :: rest =>
    let repeated := repeatedParameters (parameter :: before) rest
    if before.contains parameter then parameter :: repeated else repeated

/-- Start a template at a name line. -/
def startTemplate (reading : FileReading) (source : String) (line : Nat) (header : List Char) : FileReading :=
  -- The body of an unreadable name line is read all the same, and dropped.
  match readWhole headerRule header with
  | none =>
    { reading.note source (.single line) (.badHeader (String.ofList header)) with
      pending := some ⟨"", [], .single line, false, .plain []⟩ }
  | some (name, parameters) =>
    let notes := (repeatedParameters [] parameters).map fun parameter =>
      (LineRange.single line, Fault.duplicateParameter parameter name)
    { reading.noteAll source notes with
      pending := some ⟨name, parameters, .single line, true, .plain []⟩ }

/-- Read a line that starts with a dash. -/
def bodyLine (reading : FileReading) (source : String) (line : Nat) (text : List Char) : FileReading :=
  -- A fence that the line does not close opens a text of several lines.
  match reading.pending with
  | none => reading.note source (.single line) (.strayBodyLine (String.ofList text))
  | some pending =>
    match pending.draft with
    | .structured _ _ _ => reading.note source (.single line) .bodyLineInStructure
    | .plain _ =>
      match cutAt fence text with
      | none => reading.pushBodyLine line text
      | some (before, rest) =>
        match cutAt fence rest with
        | some (inside, after) => reading.pushBodyLine line (before ++ inside ++ after)
        | none => { reading with fenced := some ⟨line, before ++ rest⟩ }

/-- Read a line inside a fenced text. -/
def fencedLine (reading : FileReading) (fenced : BodyLine) (line : Nat) (raw : List Char) : FileReading :=
  -- The text goes on up to the closing fence, and what follows the fence belongs to it.
  match cutAt fence raw with
  | none => { reading with fenced := some ⟨fenced.line, fenced.text ++ '\n' :: raw⟩ }
  | some (inside, after) =>
    let reading := { reading with fenced := none }.pushBodyLine fenced.line
      (fenced.text ++ '\n' :: inside ++ trimBack after)
    { reading with pending := reading.pending.map fun pending =>
        { pending with range := ⟨pending.range.first, line⟩ } }

/-- Start a structured body. -/
def startStructure (reading : FileReading) (source : String) (line : Nat) (text : List Char) : FileReading :=
  -- It must be the only body of its template.
  match reading.pending with
  | none => reading.note source (.single line) (.strayStructure (String.ofList text))
  | some pending =>
    match pending.draft with
    | .plain [] =>
      let inner := text.drop 1
      let closed := inner.getLast? == some ']'
      let typeName := trimChars (if closed then inner.dropLast else inner)
      let reading := { reading with pending := some { pending with
        draft := .structured (String.ofList typeName) [] closed
        range := ⟨pending.range.first, line⟩ } }
      if isProperName typeName then reading
      else reading.note source (.single line) (.badTypeName (String.ofList typeName))
    | _ => reading.note source (.single line) .secondBody

/-- Read an import: a description, a target and perhaps an alias. -/
def importRule : Rule (List Char × List Char × Option String) := do
  -- Only blanks and tabs may stand around the word before the alias.
  Rule.exactly ['[']
  let description ← upTo ']'
  Rule.exactly [']', '(']
  let target ← upTo ')'
  Rule.exactly [')']
  let qualifier ← Rule.optional (do gap; Rule.exactly ['a', 's']; gap; identifier)
  return (description, target, qualifier)
where
  /-- Read up to a sign that is not read. -/
  upTo (closing : Char) : Rule (List Char) :=
    -- There may be nothing in front of the sign.
    fun text => .done (text.takeWhile (· != closing)) (text.dropWhile (· != closing))
  /-- Read at least one blank or tab. -/
  gap : Rule Unit := fun text =>
    -- Other white space does not count.
    match text with
    | ' ' :: rest => .done () (rest.dropWhile fun c => c == ' ' || c == '\t')
    | '\t' :: rest => .done () (rest.dropWhile fun c => c == ' ' || c == '\t')
    | _ => .refused text

/-- Read an import line. -/
def importLine (reading : FileReading) (source : String) (line : Nat) (text : List Char) : FileReading :=
  -- Description and target are trimmed.
  match readWhole importRule text with
  | none => reading.note source (.single line) (.badImport (String.ofList text))
  | some (description, target, qualifier) =>
    let target := trimChars target
    if target.isEmpty then reading.note source (.single line) .emptyImportTarget
    else
      { reading with imports := reading.imports ++
          [⟨String.ofList (trimChars description), String.ofList target, qualifier, line⟩] }

/-- Read a line inside an open structured body, unless the line ends it. -/
def structureLine? (reading : FileReading) (line : Nat) (text : List Char) : Option FileReading :=
  -- Blank lines and comments are passed over.
  match reading.pending with
  | none => none
  | some pending =>
    match pending.draft, text with
    | .structured _ _ false, '#' :: _ => none
    | .structured _ _ false, [] => some reading
    | .structured _ _ false, '>' :: _ => some reading
    | .structured typeName lines false, text =>
      let draft : Draft :=
        if text == [']'] then .structured typeName lines true
        else .structured typeName (lines ++ [⟨line, text⟩]) false
      some { reading with pending := some { pending with
        draft := draft
        range := ⟨pending.range.first, line⟩ } }
    | _, _ => none

/-- Read a trimmed line outside fenced texts and structured bodies. -/
def plainLine (reading : FileReading) (source : String) (line : Nat) (text : List Char) : FileReading :=
  -- The first character tells the kind of line.
  match text with
  | [] => reading
  | '>' :: comment =>
    match afterMark ['!', '#'] (trimFront comment) with
    | some option => { reading with options := reading.options ++ [String.ofList (trimChars option)] }
    | none => reading
  | '#' :: header => (reading.finishTemplate source).startTemplate source line header
  | '-' :: body => reading.bodyLine source line (trimChars body)
  | '[' :: rest =>
    if (cutAt [']', '('] rest).isSome then
      (reading.finishTemplate source).importLine source line ('[' :: rest)
    else reading.startStructure source line ('[' :: rest)
  | text =>
    if reading.pending.isSome then reading.note source (.single line) (.missingDash (String.ofList text))
    else reading.note source (.single line) (.strayLine (String.ofList text))

/-- Read a line. -/
def line (reading : FileReading) (source : String) (line : Nat) (raw : List Char) : FileReading :=
  -- Fenced texts come first, then open structured bodies.
  match reading.fenced with
  | some fenced => reading.fencedLine fenced line raw
  | none =>
    let text := trimChars raw
    match reading.structureLine? line text with
    | some reading => reading
    | none => reading.plainLine source line text

end FileReading

/-- Read a template file; the source is the id of the file. -/
def TemplateFile.parse (content source : String) : TemplateFile :=
  -- Lines are counted from one.
  let reading := (linesOf content.toList).zipIdx.foldl
    (fun reading (raw, position) => reading.line source (position + 1) raw) ({} : FileReading)
  let reading := reading.finishTemplate source
  ⟨reading.templates, reading.imports, reading.options, reading.findings⟩

end Phrasebook
