import Phrasebook.CommandLine.Command
import Phrasebook.CommandLine.Report
import Phrasebook.Evaluation.Expand
import Phrasebook.Value.Reader

/-! Commands run on a file tree; what they print and how they end is a value. -/

namespace Phrasebook

/-- How a command ends. -/
inductive ExitStatus where
  /-- All went well. -/
  | success
  /-- The command line cannot be understood. -/
  | usage
  /-- Templates have errors. -/
  | badData
  /-- Files or data cannot be used. -/
  | failure
  deriving DecidableEq, Repr, Inhabited

/-- The number of an exit status. -/
def ExitStatus.code : ExitStatus → Nat
  -- The numbers are those of the system's conventions.
  | .success => 0
  | .usage => 2
  | .badData => 65
  | .failure => 70

/-- How a command ends and what it prints. -/
structure CommandResult where
  /-- How the command ends. -/
  status : ExitStatus
  /-- What it prints. -/
  output : String := ""
  /-- What it prints about errors. -/
  errors : String := ""
  deriving DecidableEq, Repr, Inhabited

/-- The end of a command whose files or data cannot be used. -/
def CommandResult.fail (message : String) : CommandResult :=
  -- Nothing is printed but the reason.
  { status := .failure, errors := "error: " ++ message ++ "\n" }

/-- A text between two codes that switch a style on and off, if output is colored. -/
def paint (colored : Bool) (style text : String) : String :=
  -- Only the color is reset afterwards.
  if colored then "\x1b[" ++ style ++ "m" ++ text ++ "\x1b[39m" else text

/-- The word that starts the line of an error. -/
def errorLabel (colored : Bool) : String :=
  -- The label is bold as well as red.
  if colored then "\x1b[1m" ++ paint true "31" "error" ++ "\x1b[0m" else "error"

/-- The lines of findings. -/
def findingLines (findings : List Finding) : String :=
  -- Warnings are printed as well as errors.
  String.join (findings.map fun finding => finding.display ++ "\n")

/-- A value on lines of its own: a text as it stands, all else as JSON. -/
def valueLines : Value → String
  -- A text is not quoted.
  | .str text => text ++ "\n"
  | value => value.pretty ++ "\n"

/-- A collection and the functions that loading it registers, or why its file cannot be read. -/
def loadPath (files : FileTree) (path : String) : Except ResolveError (Collection × FunctionTable) :=
  -- The id of a file is its absolute path.
  match files.read path with
  | .error fault => .error (.unreadable path fault)
  | .ok content =>
    let root := (Collection.load (.files files) content (files.canonical path)).root
    .ok (root, FunctionTable.registerExports [] root)

/-- A collection without errors and its functions, or how the command ends for lack of it. -/
def loadSound (files : FileTree) (path : String) : Except CommandResult (Collection × FunctionTable) :=
  -- The findings of a faulty collection are printed.
  match loadPath files path with
  | .error error => .error (.fail error.message)
  | .ok (collection, functions) =>
    if collection.errors.isEmpty then .ok (collection, functions)
    else .error { status := .badData, errors := findingLines collection.allFindings }

/-- The text of the data, if any is given. -/
def dataText (files : FileTree) : Option DataSource → Except CommandResult (Option String)
  -- A file of data must be readable.
  | none => .ok none
  | some (.text json) => .ok (some json)
  | some (.file path) =>
    match files.read path with
    | .ok json => .ok (some json)
    | .error fault => .error (.fail (ResolveError.unreadable path fault).message)

/-- The object that the text of the data holds. -/
def dataObject : Option String → Except CommandResult Fields
  -- No text stands for an empty object.
  | none => .ok []
  | some json =>
    match Value.ofJson? json with
    | some (.obj fields) => .ok fields
    | some other => .error (.fail ("the data must be an object, but it is " ++ other.compact))
    | none => .error (.fail "the data is no JSON")

/-- The value of a parameter. -/
def parameterValue (text : String) : Value :=
  -- What is no JSON stands for itself.
  (Value.ofJson? text).getD (.str text)

/-- The scope that arguments give. -/
def DataArguments.scope (data : DataArguments) (files : FileTree) : Except CommandResult Scope := do
  -- Parameters override the fields of the object, and later ones the earlier.
  let json ← dataText files data.source
  let fields ← dataObject json
  let fields := data.parameters.foldl (fun fields (name, text) => SortedMap.put name (parameterValue text) fields) fields
  return Scope.ofValue (.obj fields)

/-- The options that arguments give. -/
def DataArguments.options (data : DataArguments) : Options where
  -- What is not asked for is left to the file.
  strict := if data.strict then some true else none
  lineBreaks := if data.markdown then some .doubled else none

/-- The report of a file that is checked. -/
def checkFile (files : FileTree) (path : String) : FileReport :=
  -- A file that cannot be read is reported like any other.
  match loadPath files path with
  | .ok (collection, _) => ⟨path, none, collection.allFindings⟩
  | .error error => ⟨path, some error.message, []⟩

/-- The line that sums up a check. -/
def checkSummary (colored : Bool) (reports : List FileReport) : String :=
  -- The color tells the worst that was found.
  let errors : Nat := reports.foldl (fun count report => count + report.errorCount) 0
  let warnings : Nat := reports.foldl (fun count report => count + report.warningCount) 0
  let style := if errors > 0 then "31" else if warnings > 0 then "33" else "32"
  paint colored style
    (toString errors ++ " error(s), " ++ toString warnings ++ " warning(s) in " ++
      toString reports.length ++ " file(s)")

/-- The lines about what a check found in a file. -/
def FileReport.lines (colored : Bool) (report : FileReport) : String :=
  -- A file that cannot be read has no findings.
  match report.loadError with
  | some message => errorLabel colored ++ ": " ++ message ++ "\n"
  | none => findingLines report.findings

/-- Check files. -/
def runCheck (files : FileTree) (colored : Bool) (paths : List String) (json : Bool) : CommandResult :=
  -- Warnings alone do no harm.
  let reports := paths.map (checkFile files)
  let status : ExitStatus := if reports.all (·.errorCount == 0) then .success else .badData
  if json then { status := status, output := (Value.arr (reports.map FileReport.report)).pretty ++ "\n" }
  else
    { status := status
      output := checkSummary colored reports ++ "\n"
      errors := String.join (reports.map (FileReport.lines colored)) }

/-- The evaluation that a command asks for. -/
def evaluationOf (environment : Environment) (template : String) (asText : Bool) (scope : Scope) :
    Except CommandResult (Evaluation Value) :=
  -- A text must be readable.
  if asText then
    match TemplateText.parse template with
    | .ok text => .ok (evaluateText environment text scope)
    | .error error => .error (.fail ("invalid text: " ++ error.message))
  else .ok (evaluate environment template scope)

/-- The environment of a collection without errors. -/
def environmentOf (files : FileTree) (collection : Collection) (functions : FunctionTable) (options : Options) :
    Except CommandResult Environment :=
  -- Errors would have been found before.
  match Environment.of collection options files functions with
  | .ok environment => .ok environment
  | .error error => .error (.fail error.message)

/-- Evaluate a template or a text. -/
def runEval (files : FileTree) (seed : Nat) (file template : String) (asText : Bool) (data : DataArguments)
    (json : Bool) : Except CommandResult CommandResult := do
  -- The seed decides which alternatives are picked.
  let (collection, functions) ← loadSound files file
  let scope ← data.scope files
  let environment ← environmentOf files collection functions data.options
  let evaluation ← evaluationOf environment template asText scope
  return match Evaluation.sampledResult {} seed evaluation, json with
    | .ok value, true => { status := .success, output := (Value.obj [("result", value)]).pretty ++ "\n" }
    | .ok value, false => { status := .success, output := valueLines value }
    | .error error, true =>
      { status := .badData, errors := (Value.obj [("error", .str error.message)]).pretty ++ "\n" }
    | .error error, false => { status := .badData, errors := "Evaluation error: " ++ error.message ++ "\n" }

/-- List all values of a template. -/
def runExpand (files : FileTree) (seed : Nat) (file template : String) (data : DataArguments) (json : Bool) :
    Except CommandResult CommandResult := do
  -- The seed matters only for calls that stand outside texts.
  let (collection, functions) ← loadSound files file
  let scope ← data.scope files
  let environment ← environmentOf files collection functions data.options
  return match Evaluation.sampledResult expansionStack seed (expand environment template scope), json with
    | .ok values, true => { status := .success, output := (Value.arr values).pretty ++ "\n" }
    | .ok values, false => { status := .success, output := String.join (values.map valueLines) }
    | .error error, _ => { status := .badData, errors := "Expansion error: " ++ error.message ++ "\n" }

/-- List what a template depends on. -/
def runAnalyze (files : FileTree) (file template : String) (json : Bool) : Except CommandResult CommandResult := do
  -- Nothing is evaluated.
  let (collection, _) ← loadSound files file
  return match collection.analyze template, json with
    | .ok found, true => { status := .success, output := found.report.pretty ++ "\n" }
    | .ok found, false => { status := .success, output := found.table ++ "\n" }
    | .error error, _ => { status := .badData, errors := "Analysis error: " ++ error.message ++ "\n" }

/-- Tell how far the files of a directory are translated. -/
def runCoverage (files : FileTree) (directory : String) (strict json : Bool) : Except CommandResult CommandResult :=
  -- Incomplete files do no harm unless the command is strict.
  match files.locate directory with
  | .ok (names, .directory) =>
    match files.coverage directory names with
    | .error (path, fault) => .error (.fail (ResolveError.unreadable path fault).message)
    | .ok coverage =>
      let status : ExitStatus := if strict && coverage.any Coverage.isIncomplete then .badData else .success
      .ok { status := status
            output := if json then (Value.arr (coverage.map Coverage.report)).pretty ++ "\n"
              else coverageText coverage }
  | _ => .error (.fail (directory ++ " is not a directory"))

/-- Run a command. -/
def Command.run (files : FileTree) (colored : Bool) (seed : Nat) : Command → CommandResult
  -- A command that ends early has a result as well.
  | .check paths json => runCheck files colored paths json
  | .eval file template asText given data json =>
    resultOf (runEval files (given.getD seed) file template asText data json)
  | .expand file template data json => resultOf (runExpand files seed file template data json)
  | .analyze file template json => resultOf (runAnalyze files file template json)
  | .coverage directory strict json => resultOf (runCoverage files directory strict json)
where
  /-- The result in both cases. -/
  resultOf : Except CommandResult CommandResult → CommandResult
    | .ok result => result
    | .error result => result

/-- Run a command line; the seed is used unless the command has one of its own. -/
def runCommandLine (files : FileTree) (seed : Nat) (words : List String) : CommandResult :=
  -- A command line that cannot be understood runs nothing.
  match Invocation.parse words with
  | .ok invocation => invocation.command.run files (invocation.coloring == .always) seed
  | .error error => { status := .usage, errors := "error: " ++ error.message ++ "\n" }

end Phrasebook
