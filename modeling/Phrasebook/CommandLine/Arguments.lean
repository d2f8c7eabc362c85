/-! Arguments are options, each perhaps with a value, and operands, in any order. -/

namespace Phrasebook

/-- How an option is written. -/
structure OptionForm where
  /-- Its name, written after two dashes. -/
  name : String
  /-- Its letter, written after one dash, if it has one. -/
  letter : Option Char := none
  /-- Whether it has a value. -/
  valued : Bool := false
  /-- Whether it may be given more than once. -/
  repeatable : Bool := false
  deriving DecidableEq, Repr, Inhabited

/-- Why arguments cannot be understood. -/
inductive UsageError where
  /-- There is no such option. -/
  | unknownOption (text : String)
  /-- The option needs a value. -/
  | missingValue (option : String)
  /-- The option has no value. -/
  | unexpectedValue (option : String)
  /-- The option is given more than once. -/
  | repeated (option : String)
  /-- The value does not fit the option or the operand. -/
  | badValue (option value : String)
  /-- Two options exclude each other. -/
  | conflict (first second : String)
  /-- An operand is missing. -/
  | missingOperand (name : String)
  /-- There is one operand too many. -/
  | extraOperand (text : String)
  /-- There is no such command. -/
  | unknownCommand (name : String)
  /-- No command is given. -/
  | noCommand
  deriving DecidableEq, Repr

/-- The wording of a usage error. -/
def UsageError.message : UsageError → String
  -- Options are named with their dashes.
  | .unknownOption text => "there is no option '" ++ text ++ "'"
  | .missingValue option => "option '--" ++ option ++ "' needs a value"
  | .unexpectedValue option => "option '--" ++ option ++ "' has no value"
  | .repeated option => "option '--" ++ option ++ "' is given more than once"
  | .badValue option value => "'" ++ value ++ "' does not fit '" ++ option ++ "'"
  | .conflict first second => "options '--" ++ first ++ "' and '--" ++ second ++ "' exclude each other"
  | .missingOperand name => "operand '" ++ name ++ "' is missing"
  | .extraOperand text => "operand '" ++ text ++ "' is one too many"
  | .unknownCommand name => "there is no command '" ++ name ++ "'"
  | .noCommand => "no command is given"

/-- The options and operands that have been read. -/
structure Arguments where
  /-- The options with their values, in order; those without a value have an empty one. -/
  options : List (String × String) := []
  /-- The operands, in order. -/
  operands : List String := []
  deriving DecidableEq, Repr, Inhabited

namespace Arguments

/-- Whether an option is given. -/
def has (arguments : Arguments) (name : String) : Bool :=
  -- Its value does not matter.
  arguments.options.any (·.1 == name)

/-- All values of an option, in order. -/
def values (arguments : Arguments) (name : String) : List String :=
  -- An option that is not given has none.
  (arguments.options.filter (·.1 == name)).map (·.2)

/-- The value of an option that is given at most once. -/
def value? (arguments : Arguments) (name : String) : Option String :=
  -- There is no other value.
  (arguments.values name).head?

/-- Add an option with its value. -/
def addOption (arguments : Arguments) (form : OptionForm) (value : String) : Except UsageError Arguments :=
  -- Most options may be given only once.
  if !form.repeatable && arguments.has form.name then .error (.repeated form.name)
  else .ok { arguments with options := arguments.options ++ [(form.name, value)] }

/-- Add an operand. -/
def addOperand (arguments : Arguments) (operand : String) : Arguments :=
  -- Operands are told apart by their order.
  { arguments with operands := arguments.operands ++ [operand] }

end Arguments

/-- Whether an argument is an operand or a value, by its looks. -/
def isOperand (argument : String) : Bool :=
  -- A single dash alone is no option.
  argument == "-" || argument.toList.head? != some '-'

/-- Read an option by name; the option is given back if its value is still to come. -/
def readNamedOption (forms : List OptionForm) (arguments : Arguments) (text : List Char) :
    Except UsageError (Arguments × Option OptionForm) :=
  -- A value may follow the name after an equals sign.
  let name := String.ofList (text.takeWhile (· != '='))
  match forms.find? (·.name == name), text.dropWhile (· != '=') with
  | none, _ => .error (.unknownOption ("--" ++ name))
  | some form, '=' :: value =>
    if form.valued then do
      let arguments ← arguments.addOption form (String.ofList value)
      return (arguments, none)
    else .error (.unexpectedValue name)
  | some form, _ =>
    if form.valued then .ok (arguments, some form)
    else do
      let arguments ← arguments.addOption form ""
      return (arguments, none)

/-- Read options by their letters; the last one is given back if its value is still to come. -/
def readLetters (forms : List OptionForm) : Arguments → List Char →
    Except UsageError (Arguments × Option OptionForm)
  -- A value takes all that follows its letter, without an equals sign in front.
  | arguments, [] => .ok (arguments, none)
  | arguments, letter :: rest =>
    match forms.find? (·.letter == some letter) with
    | none => .error (.unknownOption ("-" ++ letter.toString))
    | some form =>
      if form.valued then
        match rest with
        | [] => .ok (arguments, some form)
        | '=' :: value => do
          let arguments ← arguments.addOption form (String.ofList value)
          return (arguments, none)
        | value => do
          let arguments ← arguments.addOption form (String.ofList value)
          return (arguments, none)
      else do
        let arguments ← arguments.addOption form ""
        readLetters forms arguments rest

/-- Read the options of one argument; the last one is given back if its value is still to come. -/
def readOptions (forms : List OptionForm) (arguments : Arguments) (argument : String) :
    Except UsageError (Arguments × Option OptionForm) :=
  -- Two dashes announce a name, and one dash announces letters.
  match argument.toList with
  | '-' :: '-' :: name => readNamedOption forms arguments name
  | letters => readLetters forms arguments letters.tail

/-- Read options up to the first operand, which is left over with all that follows. -/
def readLeadingOptions (forms : List OptionForm) : Arguments → List String →
    Except UsageError (Arguments × List String)
  -- Two dashes alone would make a command an operand.
  | arguments, [] => .ok (arguments, [])
  | arguments, argument :: rest =>
    if isOperand argument then .ok (arguments, argument :: rest)
    else if argument == "--" then .error .noCommand
    else match readOptions forms arguments argument, rest with
      | .error error, _ => .error error
      | .ok (arguments, none), rest => readLeadingOptions forms arguments rest
      | .ok (_, some form), [] => .error (.missingValue form.name)
      | .ok (arguments, some form), value :: rest =>
        if isOperand value then
          match arguments.addOption form value with
          | .error error => .error error
          | .ok arguments => readLeadingOptions forms arguments rest
        else .error (.missingValue form.name)

/-- Read options and operands in any order. -/
def readArguments (forms : List OptionForm) : Arguments → List String → Except UsageError Arguments
  -- After two dashes alone all arguments are operands.
  | arguments, [] => .ok arguments
  | arguments, argument :: rest =>
    if isOperand argument then readArguments forms (arguments.addOperand argument) rest
    else if argument == "--" then .ok (rest.foldl Arguments.addOperand arguments)
    else match readOptions forms arguments argument, rest with
      | .error error, _ => .error error
      | .ok (arguments, none), rest => readArguments forms arguments rest
      | .ok (_, some form), [] => .error (.missingValue form.name)
      | .ok (arguments, some form), value :: rest =>
        if isOperand value then
          match arguments.addOption form value with
          | .error error => .error error
          | .ok arguments => readArguments forms arguments rest
        else .error (.missingValue form.name)

end Phrasebook
