import Phrasebook.Proofs.Text.RoundTrip
import Phrasebook.Template.FileReader

/-! Template files are written line by line, with a backslash in front of every character that would mean something else. -/

namespace Phrasebook

/-- Where a text stands in a file. -/
inductive TextPlace where
  /-- On a line with a dash. -/
  | dashed
  /-- Among the values of a property. -/
  | value

/-- Whether a character has a meaning at a place. -/
def TextPlace.marks (place : TextPlace) (c : Char) : Bool :=
  -- A colon could make a keyword of what stands in front of it.
  c == '\\' || c == '$' ||
    match place with
    | .dashed => c == '`' || c == ':'
    | .value => c == '|'

/-- How files are written where there is a choice. -/
structure Layout where
  /-- The characters that take a backslash without need. -/
  escapes : Char → Bool
  /-- Letters that a backslash would give another meaning take none. -/
  letters : ∀ c ∈ ['n', 'r', 't'], escapes c = false

/-- A text that starts with white space takes a backslash in front. -/
def guardFront : List Char → List Char
  -- The end of a text cannot be guarded in this way.
  | [] => []
  | c :: rest => if isBlank c then '\\' :: c :: rest else c :: rest

/-- The text of a keyword and perhaps the expression that it asks for. -/
def keywordText (word : String) (condition : Option Embedded) : List Char :=
  -- A colon ends the keyword.
  word.toList ++ ':' :: match condition with
    | some embedded => ' ' :: embeddedChars embedded.source.toList
    | none => []

/-- The word that opens a branch. -/
def BranchKind.word : BranchKind → String
  -- Only the last branch has no condition.
  | .first => "IF"
  | .further => "ELSE IF"
  | .otherwise => "ELSE"

namespace Layout

variable (layout : Layout)

/-- The characters of a literal character. -/
def char (place : TextPlace) (c : Char) : List Char :=
  -- Line ends and tabs are written as letters.
  if c = '\n' then ['\\', 'n']
  else if c = '\r' then ['\\', 'r']
  else if c = '\t' then ['\\', 't']
  else if place.marks c || layout.escapes c then ['\\', c]
  else [c]

/-- The characters of a piece of text. -/
def segment (place : TextPlace) : Segment → List Char
  -- Expressions keep their own text.
  | .literal text => text.toList.flatMap (layout.char place)
  | .expression embedded => embeddedChars embedded.source.toList

/-- The characters of a text. -/
def text (place : TextPlace) (text : TemplateText) : List Char :=
  -- White space in front would be trimmed.
  guardFront (text.flatMap (layout.segment place))

/-- The dashed lines of a branch, without their dashes. -/
def branch (branch : Branch) : List (List Char) :=
  -- The texts follow the line with the keyword.
  keywordText branch.kind.word branch.condition :: branch.body.map (layout.text .dashed)

/-- The dashed lines of a case, without their dashes. -/
def case (case : Case) : List (List Char) :=
  -- The texts follow the line with the keyword.
  keywordText (if case.value.isSome then "CASE" else "DEFAULT") case.value :: case.body.map (layout.text .dashed)

/-- The dashed lines of a body, without their dashes. -/
def dashedTexts : Body → List (List Char)
  -- A structured body has none.
  | .normal candidates => candidates.map (layout.text .dashed)
  | .conditional branches => branches.flatMap layout.branch
  | .switch subject cases => keywordText "SWITCH" (some subject) :: cases.flatMap layout.case
  | .structured _ _ => []

/-- A line inside a structured body. -/
def structureLine : StructureLine → List Char
  -- Values have a bar between them.
  | .property key values =>
    key.toList ++ [' ', '=', ' '] ++ List.intercalate [' ', '|', ' '] (values.map (layout.text .value))
  | .merge embedded => embeddedChars embedded.source.toList

/-- The lines of a body. -/
def body : Body → List (List Char)
  -- A structured body stands between brackets.
  | .structured typeName lines => ('[' :: typeName.toList) :: (lines.map layout.structureLine ++ [[']']])
  | body => (layout.dashedTexts body).map fun text => '-' :: ' ' :: text

/-- The name line of a template. -/
def header (template : Template) : List Char :=
  -- Without parameters there are no parentheses.
  '#' :: ' ' :: (template.name.toList ++
    if template.parameters.isEmpty then []
    else '(' :: (List.intercalate [',', ' '] (template.parameters.map String.toList) ++ [')']))

/-- The lines of a template. -/
def template (template : Template) : List (List Char) :=
  -- The body follows the name.
  header template :: layout.body template.body

/-- The alias of an import. -/
def qualifier : Option String → List Char
  -- It may be missing.
  | some name => ' ' :: 'a' :: 's' :: ' ' :: name.toList
  | none => []

/-- The line of an import. -/
def importLine (entry : Import) : List Char :=
  -- The alias stands behind the two pairs of brackets.
  '[' :: (entry.description.toList ++ ']' :: '(' :: (entry.target.toList ++ ')' :: qualifier entry.qualifier))

/-- The characters of a file. -/
def file (imports : List Import) (templates : List Template) : List Char :=
  -- Imports come first, and every line has its end.
  (imports.map importLine ++ templates.flatMap layout.template).flatMap fun line => line ++ ['\n']

/-- Templates of a file with the lines on which they stand, behind a number of other lines. -/
def placed (source : String) (start : Nat) : List Template → List Template
  -- A template reaches from its name line to the last line of its body.
  | [] => []
  | template :: rest =>
    let last := start + (layout.template template).length
    { template with source := source, range := ⟨start + 1, last⟩ } :: placed source last rest

end Layout

/-- Imports with the lines on which they stand, behind a number of other lines. -/
def placedImports (start : Nat) : List Import → List Import
  -- Each import takes one line.
  | [] => []
  | entry :: rest => { entry with line := start + 1 } :: placedImports (start + 1) rest

/-- Whether an expression can be written on a line. -/
structure Embedded.IsWritable (embedded : Embedded) : Prop where
  /-- It is the one that its text spells. -/
  faithful : embedded.IsFaithful
  /-- Its text does not go beyond the line. -/
  oneLine : '\n' ∉ embedded.source.toList
  /-- There are no fences in its text. -/
  unfenced : ¬ fence <:+: embedded.source.toList

/-- Whether a text can be written. -/
structure TemplateText.IsWritable (text : TemplateText) : Prop where
  /-- It is one that reading makes. -/
  normal : text.IsNormal
  /-- All of its expressions can be written on a line. -/
  embedded : ∀ embedded, .expression embedded ∈ text → embedded.IsWritable
  /-- White space at its very end is of the kind that is written as letters. -/
  closes : ∀ literal, text.getLast? = some (.literal literal) → ∀ c, literal.toList.getLast? = some c → isBlank c = true →
    c ∈ ['\n', '\r', '\t']

/-- Whether a line of a structured body can be written. -/
def StructureLine.IsWritable : StructureLine → Prop
  -- Names of properties are read in lower case.
  | .property key values =>
    key.toList ≠ [] ∧ (∀ c ∈ key.toList, isNameChar c = true) ∧ lowerText key = key ∧ values ≠ [] ∧
      ∀ value ∈ values, TemplateText.IsWritable value
  | .merge embedded => embedded.IsWritable

/-- Whether branches make up a conditional. -/
def AreBranches (branches : List Branch) : Prop :=
  -- One branch for all other cases may stand at the end.
  ∃ first further last, branches = first :: (further ++ Option.toList last) ∧ first.kind = .first ∧
    (∀ branch ∈ further, branch.kind = .further) ∧ (∀ branch ∈ last, branch.kind = .otherwise) ∧
    ∀ branch ∈ branches, branch.condition.isNone = true ↔ branch.kind = .otherwise

/-- Whether cases make up a switch. -/
def AreCases (cases : List Case) : Prop :=
  -- One default case may stand at the end.
  ∃ valued last, cases = valued ++ Option.toList last ∧ valued ≠ [] ∧ (∀ case ∈ valued, case.value.isSome = true) ∧
    ∀ case ∈ last, case.value = none

/-- Whether a body can be written. -/
def Body.IsWritable : Body → Prop
  -- Every expression and every text in it must be.
  | .normal candidates => ∀ text ∈ candidates, text.IsWritable
  | .conditional branches =>
    AreBranches branches ∧ ∀ branch ∈ branches, (∀ embedded ∈ branch.condition, embedded.IsWritable) ∧
      ∀ text ∈ branch.body, text.IsWritable
  | .switch subject cases =>
    AreCases cases ∧ subject.IsWritable ∧ ∀ case ∈ cases, (∀ embedded ∈ case.value, embedded.IsWritable) ∧
      ∀ text ∈ case.body, text.IsWritable
  | .structured typeName lines => isProperName typeName.toList = true ∧ ∀ line ∈ lines, line.IsWritable

/-- Whether a template can be written. -/
structure Template.IsWritable (template : Template) : Prop where
  /-- Its name is one. -/
  name : isProperName template.name.toList = true
  /-- Its parameters are identifiers. -/
  identifiers : ∀ parameter ∈ template.parameters, IsIdentifier parameter
  /-- No parameter is repeated. -/
  distinct : template.parameters.Nodup
  /-- Its body can be written. -/
  body : template.body.IsWritable

/-- Whether an import can be written. -/
structure Import.IsWritable (entry : Import) : Prop where
  /-- Nothing is trimmed off the description. -/
  description : IsTrimmed entry.description.toList
  /-- The description ends at its bracket, on the same line. -/
  bracket : ']' ∉ entry.description.toList ∧ '\n' ∉ entry.description.toList
  /-- Nothing is trimmed off the target. -/
  target : IsTrimmed entry.target.toList
  /-- The target ends at its parenthesis, on the same line. -/
  parenthesis : ')' ∉ entry.target.toList ∧ '\n' ∉ entry.target.toList
  /-- There is a target. -/
  some : entry.target ≠ ""
  /-- The alias is an identifier. -/
  qualifier : ∀ name ∈ entry.qualifier, IsIdentifier name

end Phrasebook
