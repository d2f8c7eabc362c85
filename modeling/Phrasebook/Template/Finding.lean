import Phrasebook.Text.Reader
import Phrasebook.Resource.Resolver
import Phrasebook.Template.Basic

/-! What reading and checking a file finds: errors, which bar evaluation, and warnings. -/

namespace Phrasebook

/-- How much a finding matters. -/
inductive Severity where
  /-- The file cannot be evaluated. -/
  | error
  /-- The file can be evaluated all the same. -/
  | warning
  deriving DecidableEq, Repr

/-- The name of a severity. -/
def Severity.name : Severity → String
  -- Names are lower-case words.
  | .error => "error"
  | .warning => "warning"

/-- How a call disagrees with the templates it can reach. -/
inductive CallFault where
  /-- A literal name names no template. -/
  | unknownTemplate (name : String)
  /-- A call neither passes no arguments nor one for each parameter. -/
  | argumentCount (name : String) (expected got : Nat)
  deriving DecidableEq, Repr

/-- The wording of a call fault. -/
def CallFault.message : CallFault → String
  -- The first fault can only arise in calls by a literal name.
  | .unknownTemplate name => "template('" ++ name ++ "') refers to an unknown template"
  | .argumentCount name expected got =>
    "template '" ++ name ++ "' expects " ++ toString expected ++ " arguments, got " ++ toString got

/-- What is wrong with a piece of a file. -/
inductive Fault where
  /-- A line of a template body lacks its dash. -/
  | missingDash (line : String)
  /-- A line outside any template means nothing. -/
  | strayLine (line : String)
  /-- A name line cannot be read. -/
  | badHeader (header : String)
  /-- A parameter is listed twice. -/
  | duplicateParameter (parameter template : String)
  /-- A fenced text is never closed. -/
  | unclosedFence
  /-- A structured body is never closed. -/
  | unclosedStructure (template : String)
  /-- A template name is used twice. -/
  | duplicateTemplate (template : String)
  /-- A body line stands outside any template. -/
  | strayBodyLine (text : String)
  /-- A structured template has a body line. -/
  | bodyLineInStructure
  /-- A template has no body. -/
  | emptyTemplate (template : String)
  /-- A keyword follows plain texts. -/
  | lateKeyword (template : String)
  /-- A conditional has a keyword of a switch. -/
  | switchInConditional (template : String)
  /-- A branch follows the branch for all other cases. -/
  | branchAfterElse
  /-- A later branch is opened like the first. -/
  | lateIf
  /-- The first branch is opened like a later one. -/
  | missingIf
  /-- The branch for all other cases has a condition. -/
  | elseWithCondition
  /-- A branch lacks its condition. -/
  | missingCondition
  /-- A branch has no texts. -/
  | emptyBranch (template : String)
  /-- A switch opens after its first line. -/
  | lateSwitch
  /-- A switch lacks its expression. -/
  | missingSubject
  /-- A switch starts with a case. -/
  | missingSwitch
  /-- A case follows the default case. -/
  | caseAfterDefault
  /-- The default case has a value. -/
  | defaultWithValue
  /-- A case lacks its value. -/
  | missingCaseValue
  /-- A switch has a keyword of a conditional. -/
  | conditionalInSwitch (template : String)
  /-- A text stands before the first case. -/
  | textBeforeCase
  /-- A switch has no case with a value. -/
  | noCase (template : String)
  /-- A case has no texts. -/
  | emptyCase (template : String)
  /-- A structured body stands outside any template. -/
  | strayStructure (line : String)
  /-- A structured body stands beside another body. -/
  | secondBody
  /-- A structured body has no proper type name. -/
  | badTypeName (name : String)
  /-- A line of a structured body is neither property nor expression. -/
  | badStructureLine (line : String)
  /-- A property has no proper name. -/
  | badPropertyName (name : String)
  /-- An import cannot be read. -/
  | badImport (line : String)
  /-- An import names nothing. -/
  | emptyImportTarget
  /-- A text or condition cannot be read. -/
  | badText (error : TextError)
  /-- An imported file cannot be loaded. -/
  | failedImport (target : String) (error : ResolveError)
  /-- Imports nest deeper than there are files. -/
  | endlessImport (target : String)
  /-- Exports need a namespace. -/
  | exportsWithoutNamespace
  /-- An exported template is not defined. -/
  | unknownExport (template : String)
  /-- A call disagrees with the template it calls. -/
  | badCall (template : String) (fault : CallFault)

/-- How much a fault matters. -/
def Fault.severity : Fault → Severity
  -- Only missing bodies leave a file usable.
  | .emptyTemplate _ | .emptyBranch _ | .emptyCase _ => .warning
  | _ => .error

/-- The wording of a fault. -/
def Fault.message : Fault → String
  -- Quoted pieces are given as they stand in the file.
  | .missingDash line => "template body lines must start with '-': '" ++ line ++ "'"
  | .strayLine line => "unexpected content outside a template: '" ++ line ++ "'"
  | .badHeader header =>
    "invalid template name line '#" ++ header ++ "': expected '# name' or '# name(param, ...)'"
  | .duplicateParameter parameter template =>
    "duplicate parameter '" ++ parameter ++ "' in template '" ++ template ++ "'"
  | .unclosedFence => "unterminated multiline text: missing closing ```"
  | .unclosedStructure template => "structured template '" ++ template ++ "' is missing ']'"
  | .duplicateTemplate template => "duplicate template name '" ++ template ++ "'"
  | .strayBodyLine text => "body line outside of a template: '- " ++ text ++ "'"
  | .bodyLineInStructure => "a structured template cannot also have '-' body lines"
  | .emptyTemplate template => "template '" ++ template ++ "' has no body"
  | .lateKeyword template =>
    "IF/SWITCH keyword lines cannot follow plain candidates in template '" ++ template ++ "'"
  | .switchInConditional template =>
    "SWITCH/CASE/DEFAULT cannot appear in conditional template '" ++ template ++ "'"
  | .branchAfterElse => "ELSE must be the last branch of a conditional"
  | .lateIf => "only the first branch of a conditional can be IF"
  | .missingIf => "the first branch of a conditional must be IF"
  | .elseWithCondition => "ELSE does not take a condition"
  | .missingCondition => "IF and ELSE IF require a condition"
  | .emptyBranch template => "branch in template '" ++ template ++ "' has no body"
  | .lateSwitch => "SWITCH must be the first line of a switch template"
  | .missingSubject => "SWITCH requires an expression"
  | .missingSwitch => "a switch template must start with SWITCH"
  | .caseAfterDefault => "DEFAULT must be the last case of a switch"
  | .defaultWithValue => "DEFAULT does not take a value"
  | .missingCaseValue => "CASE requires a value"
  | .conditionalInSwitch template =>
    "IF/ELSE cannot appear directly in switch template '" ++ template ++ "'"
  | .textBeforeCase => "SWITCH must be followed by CASE or DEFAULT"
  | .noCase template => "switch template '" ++ template ++ "' needs at least one CASE"
  | .emptyCase template => "case in template '" ++ template ++ "' has no body"
  | .strayStructure line => "structured body outside of a template: '" ++ line ++ "'"
  | .secondBody => "a structured body must be the only body of its template"
  | .badTypeName name => "invalid structure type name '" ++ name ++ "'"
  | .badStructureLine line =>
    "structured lines must be 'key = value' or '$\x7bexpression\x7d': '" ++ line ++ "'"
  | .badPropertyName name => "invalid property name '" ++ name ++ "'"
  | .badImport line =>
    "malformed import '" ++ line ++
      "': expected '[description](target)' optionally followed by 'as alias'"
  | .emptyImportTarget => "import target is empty"
  | .badText error => error.message
  | .failedImport target error => "failed to import '" ++ target ++ "': " ++ error.message
  | .endlessImport target => "failed to import '" ++ target ++ "': imports are nested too deeply"
  | .exportsWithoutNamespace => "@exports requires a namespace: add '> !# @namespace = name'"
  | .unknownExport template => "exported template '" ++ template ++ "' is not defined in this file"
  | .badCall template fault => "in template '" ++ template ++ "': " ++ fault.message

/-- A fault with its place. -/
structure Finding where
  /-- The lines it concerns. -/
  range : LineRange
  /-- What is wrong. -/
  fault : Fault
  /-- The id of the file. -/
  source : String

namespace Finding

/-- How much a finding matters. -/
def severity (finding : Finding) : Severity :=
  -- The fault decides.
  finding.fault.severity

/-- The wording of a finding, without its place. -/
def message (finding : Finding) : String :=
  -- The fault decides.
  finding.fault.message

/-- Whether a finding bars evaluation. -/
def isError (finding : Finding) : Bool :=
  -- Warnings do not.
  finding.severity == .error

/-- A finding on one line of text, with its place. -/
def display (finding : Finding) : String :=
  -- A file without an id is written in line.
  let source := if finding.source == "" then "<inline>" else finding.source
  source ++ ":" ++ toString finding.range.first ++ ": " ++ finding.severity.name ++ ": " ++ finding.message

end Finding

end Phrasebook
