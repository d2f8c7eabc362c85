import Phrasebook.CommandLine.Arguments

/-! A command line asks for one of five commands. -/

namespace Phrasebook

/-- When output is colored. -/
inductive Coloring where
  /-- Never, since output does not go to a terminal. -/
  | auto
  /-- Always. -/
  | always
  /-- Never. -/
  | never
  deriving DecidableEq, Repr, Inhabited

/-- Where the data of an evaluation comes from. -/
inductive DataSource where
  /-- From the text of an object. -/
  | text (json : String)
  /-- From a file that holds an object. -/
  | file (path : String)
  deriving DecidableEq, Repr, Inhabited

/-- The data and the options of an evaluation. -/
structure DataArguments where
  /-- The data, none at all by default. -/
  source : Option DataSource
  /-- Names and values that are added to the data. -/
  parameters : List (String × String)
  /-- Whether null and failing expressions are errors. -/
  strict : Bool
  /-- Whether line breaks are doubled. -/
  markdown : Bool
  deriving DecidableEq, Repr, Inhabited

/-- A command. -/
inductive Command where
  /-- Tell what is wrong with files. -/
  | check (files : List String) (json : Bool)
  /-- Evaluate a template, or a text if the template is given as one. -/
  | eval (file template : String) (asText : Bool) (seed : Option Nat) (data : DataArguments) (json : Bool)
  /-- List all values of a template. -/
  | expand (file template : String) (data : DataArguments) (json : Bool)
  /-- List what a template depends on. -/
  | analyze (file template : String) (json : Bool)
  /-- Tell how far the files of a directory are translated. -/
  | coverage (directory : String) (strict json : Bool)
  deriving DecidableEq, Repr, Inhabited

/-- A command and how its output is colored. -/
structure Invocation where
  /-- When output is colored. -/
  coloring : Coloring
  /-- The command. -/
  command : Command
  deriving DecidableEq, Repr, Inhabited

/-- The options of every command. -/
def generalForms : List OptionForm :=
  -- They may stand before the command as well.
  [{ name := "color", valued := true }, { name := "verbose", letter := some 'v' }]

/-- The options of the commands that evaluate. -/
def dataForms : List OptionForm :=
  -- Only parameters are repeatable.
  [{ name := "scope", valued := true }, { name := "scope-file", valued := true },
    { name := "param", letter := some 'p', valued := true, repeatable := true },
    { name := "strict" }, { name := "markdown" }]

/-- The option that asks for output in JSON. -/
def jsonForm : OptionForm :=
  -- Every command has it.
  { name := "json" }

/-- The options of a command, if there is a command of this name. -/
def commandForms? : String → Option (List OptionForm)
  -- The general options are not among them.
  | "check" => some [jsonForm]
  | "eval" => some ([{ name := "text" }, { name := "seed", valued := true }, jsonForm] ++ dataForms)
  | "expand" => some (jsonForm :: dataForms)
  | "analyze" => some [jsonForm]
  | "coverage" => some [{ name := "strict" }, jsonForm]
  | _ => none

/-- The coloring that a word names. -/
def Coloring.parse? : String → Option Coloring
  -- The case of the word matters.
  | "auto" => some .auto
  | "always" => some .always
  | "never" => some .never
  | _ => none

/-- A number that fits into 64 bits. -/
def parseSeed? (text : String) : Option Nat :=
  -- A plus sign may stand in front of the digits.
  let digits := match text.toList with
    | '+' :: digits => digits
    | digits => digits
  let value := digits.foldl (fun value digit => 10 * value + (digit.toNat - '0'.toNat)) 0
  if !digits.isEmpty && digits.all Char.isDigit && value ≤ 18446744073709551615 then some value else none

/-- The coloring that arguments ask for, if they do. -/
def coloringOf (arguments : Arguments) : Except UsageError (Option Coloring) :=
  -- The value must name a coloring.
  match arguments.value? "color" with
  | none => .ok none
  | some word =>
    match Coloring.parse? word with
    | some coloring => .ok (some coloring)
    | none => .error (.badValue "--color" word)

/-- A path, which must not be empty. -/
def pathOf (name path : String) : Except UsageError String :=
  -- An empty path could not name anything.
  if path.isEmpty then .error (.badValue name path) else .ok path

/-- The name and the value of a parameter. -/
def parameterOf (text : String) : Except UsageError (String × String) :=
  -- The first equals sign divides them.
  match text.toList.dropWhile (· != '=') with
  | '=' :: value => .ok (String.ofList (text.toList.takeWhile (· != '=')), String.ofList value)
  | _ => .error (.badValue "--param" text)

/-- The data that arguments give. -/
def dataSourceOf (arguments : Arguments) : Except UsageError (Option DataSource) :=
  -- Text and file exclude each other.
  match arguments.value? "scope", arguments.value? "scope-file" with
  | some _, some _ => .error (.conflict "scope" "scope-file")
  | some json, none => .ok (some (.text json))
  | none, some path => do
    let path ← pathOf "--scope-file" path
    return some (.file path)
  | none, none => .ok none

/-- The data and the options that arguments give. -/
def dataArgumentsOf (arguments : Arguments) : Except UsageError DataArguments := do
  -- The options only add to those of the file.
  let source ← dataSourceOf arguments
  let parameters ← (arguments.values "param").mapM parameterOf
  return ⟨source, parameters, arguments.has "strict", arguments.has "markdown"⟩

/-- The seed that arguments give. -/
def seedOf (arguments : Arguments) : Except UsageError (Option Nat) :=
  -- The value must be a number.
  match arguments.value? "seed" with
  | none => .ok none
  | some text =>
    match parseSeed? text with
    | some seed => .ok (some seed)
    | none => .error (.badValue "--seed" text)

/-- The only operand, a path. -/
def singleOperand (name : String) : List String → Except UsageError String
  -- There must be no other.
  | [path] => pathOf name path
  | [] => .error (.missingOperand name)
  | _ :: extra :: _ => .error (.extraOperand extra)

/-- The two operands file and template. -/
def templateOperands : List String → Except UsageError (String × String)
  -- The name of a template may be empty, though no template has such a name.
  | [file, template] => do
    let file ← pathOf "file" file
    return (file, template)
  | [] => .error (.missingOperand "file")
  | [_] => .error (.missingOperand "template")
  | _ :: _ :: extra :: _ => .error (.extraOperand extra)

/-- The operands of a command on any number of files. -/
def fileOperands (operands : List String) : Except UsageError (List String) :=
  -- At least one file is needed.
  if operands.isEmpty then .error (.missingOperand "files") else operands.mapM (pathOf "files")

/-- The command of a name with its arguments. -/
def commandOf (name : String) (arguments : Arguments) : Except UsageError Command := do
  -- Each command has its own operands.
  let json := arguments.has "json"
  match name with
  | "check" => return .check (← fileOperands arguments.operands) json
  | "eval" =>
    let (file, template) ← templateOperands arguments.operands
    return .eval file template (arguments.has "text") (← seedOf arguments) (← dataArgumentsOf arguments) json
  | "expand" =>
    let (file, template) ← templateOperands arguments.operands
    return .expand file template (← dataArgumentsOf arguments) json
  | "analyze" =>
    let (file, template) ← templateOperands arguments.operands
    return .analyze file template json
  | "coverage" =>
    return .coverage (← singleOperand "directory" arguments.operands) (arguments.has "strict") json
  | name => .error (.unknownCommand name)

/-- What a command line asks for. -/
def Invocation.parse (words : List String) : Except UsageError Invocation := do
  -- A general option after the command counts more than one before it.
  let (general, rest) ← readLeadingOptions generalForms {} words
  let outer ← coloringOf general
  match rest with
  | [] => .error .noCommand
  | name :: rest =>
    match commandForms? name with
    | none => .error (.unknownCommand name)
    | some forms =>
      let arguments ← readArguments (forms ++ generalForms) {} rest
      let inner ← coloringOf arguments
      let command ← commandOf name arguments
      return ⟨(inner.orElse fun _ => outer).getD .auto, command⟩

end Phrasebook
