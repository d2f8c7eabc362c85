import Phrasebook.Collection.Load
import Phrasebook.Expression.Eval
import Phrasebook.Evaluation.Computation

/-! The environment of an evaluation: callable templates, options, files and registered functions. -/

namespace Phrasebook

/-- A registered function. -/
inductive RegisteredFunction where
  /-- A function over values and the scope of its call. -/
  | native (function : List Value → Scope → FunctionResult)
  /-- A template that its file exports. -/
  | exported (owner : Collection) (template : String)

/-- Registered functions by their names, the latest first. -/
abbrev FunctionTable := List (String × RegisteredFunction)

/-- The function registered under a name. -/
def FunctionTable.get? (table : FunctionTable) (name : String) : Option RegisteredFunction :=
  -- The latest registration counts.
  (table.find? (·.1 == name)).map (·.2)

/-- Remove the function registered under a name. -/
def FunctionTable.remove (table : FunctionTable) (name : String) : FunctionTable :=
  -- No earlier registration comes back.
  table.filter (·.1 != name)

/-- Register a function, replacing an earlier one of its name. -/
def FunctionTable.register (table : FunctionTable) (name : String) (function : RegisteredFunction) :
    FunctionTable :=
  -- The replaced function is gone.
  (name, function) :: table.remove name

/-- A function that has just been registered is found. -/
@[simp] theorem FunctionTable.get?_register_self (table : FunctionTable) (name : String)
    (function : RegisteredFunction) : (table.register name function).get? name = some function := by
  -- It comes first.
  simp [register, get?]

/-- Registering a function leaves all others alone. -/
theorem FunctionTable.get?_register_of_ne (table : FunctionTable) {name other : String}
    (function : RegisteredFunction) (differ : other ≠ name) :
    (table.register name function).get? other = table.get? other := by
  -- Only entries of its own name are taken out.
  have passed : (name == other) = false := by simpa using differ.symm
  simp only [register, remove, get?, List.find?_cons, passed, List.find?_filter]
  congr 2
  funext entry
  by_cases same : entry.1 = other <;> simp_all

/-- Register the exported templates of a load. -/
def FunctionTable.registerExports (table : FunctionTable) (root : Collection) : FunctionTable :=
  -- Imported files register before their importers.
  root.exported.foldl
    (fun table (full, id, name) => table.register full (.exported (root.focus id) name)) table

/-- What templates are evaluated against. -/
structure Environment where
  /-- The templates that can be called. -/
  registry : Registry
  /-- The options in effect. -/
  options : Options
  /-- The id of the collection. -/
  id : String
  /-- The files that templates can include. -/
  files : FileTree
  /-- The registered functions. -/
  functions : FunctionTable
  deriving Inhabited

namespace Environment

/-- The environment of a collection; given options come before those of its file. -/
def of (collection : Collection) (options : Options) (files : FileTree) (functions : FunctionTable) :
    Except TemplateError Environment :=
  -- A collection with errors cannot be evaluated.
  match collection.errors with
  | [] => .ok ⟨collection.registry, options.orElse collection.file.evaluationOptions, collection.id, files, functions⟩
  | errors => .error (.findings errors)

/-- The error of a name that no template has. -/
def missing (environment : Environment) (name : String) : TemplateError :=
  -- Close names are suggested.
  .notFound name (suggestions name environment.registry.keys)

/-- The template of a name. -/
def lookup (environment : Environment) (name : String) : Except TemplateError Template :=
  -- The name carries no exclamation mark.
  match environment.registry.get? name with
  | some template => .ok template
  | none => .error (environment.missing name)

/-- Whether a name, perhaps with an exclamation mark, can be called. -/
def hasTemplate (environment : Environment) (name : String) : Bool :=
  -- The mark is no part of the name.
  environment.registry.has (splitRerun name).1

/-- What is written in place of a null expression, if anything is. -/
def substitute? (environment : Environment) (embedded : Embedded) : Option Value :=
  -- The placeholder may quote the expression.
  environment.options.placeholder.map fun text =>
    .str (replaceText text "$\x7bpath\x7d" embedded.source)

/-- A result with its line breaks written as the options say. -/
def applyLineBreaks (environment : Environment) (value : Value) : Value :=
  -- Only texts have line breaks.
  match environment.options.breaks, value with
  | .doubled, .str text => .str (replaceText text "\n" "\n\n")
  | _, value => value

/-- How deeply calls may nest. -/
def depthLimit (environment : Environment) : Nat :=
  -- No template runs twice at once, so only files and exported templates need more than the registry.
  environment.registry.length + 100000

end Environment

/-- The scope in which a called template runs. -/
def bindArguments (template : Template) (args : List Value) (scope : Scope) : Except TemplateError Scope :=
  -- Without arguments the callee sees what its caller sees.
  if args.isEmpty then .ok scope
  else if args.length != template.parameters.length then
    .error (.argumentCount template.name template.parameters.length args.length)
  else .ok (scope.withLocals (SortedMap.ofList (template.parameters.zip args)))

end Phrasebook
