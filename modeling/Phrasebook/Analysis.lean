import Phrasebook.Collection.Registry
import Phrasebook.Evaluation.Error

/-! Analysis tells which data paths and which templates a template depends on. -/

namespace Phrasebook

/-- What a template depends on, in the order in which it is first met. -/
structure Dependencies where
  /-- The data paths. -/
  paths : List String := []
  /-- The templates called, directly or through others. -/
  templates : List String := []
  deriving DecidableEq, Repr, Inhabited

/-- Add a name to the end of a list unless it is there. -/
def addNew (names : List String) (name : String) : List String :=
  -- The first occurrence decides the place.
  if names.contains name then names else names ++ [name]

/-- The dependencies of two kinds together. -/
def Dependencies.union (left right : Dependencies) : Dependencies :=
  -- The first come first.
  ⟨right.paths.foldl addNew left.paths, right.templates.foldl addNew left.templates⟩

/-- The template that a call names, if it can be told without evaluating anything. -/
def callTarget? (name : String) (args : List Expression) : Option String :=
  -- The function that takes a template's name tells it only by a literal.
  let base := (splitRerun name).1
  if base == "template" then
    match args with
    | .literal (.str target) :: _ => some target
    | _ => none
  else some base

mutual

/-- Add the paths and calls of an expression to dependencies. -/
def Dependencies.visit (registry : Registry) (found : Dependencies) (expression : Expression) : Dependencies :=
  -- A dotted path is taken as a whole.
  match expression.staticPath? with
  | some path => { found with paths := addNew found.paths path }
  | none =>
    match expression with
    | .call name args =>
      let found := match callTarget? name args with
        | some target =>
          if registry.has target then { found with templates := addNew found.templates target } else found
        | none => found
      Dependencies.visitItems registry found args
    | .member target _ => Dependencies.visit registry found target
    | .index target key => Dependencies.visit registry (Dependencies.visit registry found target) key
    | .array items => Dependencies.visitItems registry found items
    | .object entries => Dependencies.visitEntries registry found entries
    | .unary _ operand => Dependencies.visit registry found operand
    | .binary _ left right => Dependencies.visit registry (Dependencies.visit registry found left) right
    | .literal _ => found
    | .variable _ => found

/-- Add the paths and calls of several expressions to dependencies. -/
def Dependencies.visitItems (registry : Registry) (found : Dependencies) : List Expression → Dependencies
  -- They are visited in order.
  | [] => found
  | item :: rest => Dependencies.visitItems registry (Dependencies.visit registry found item) rest

/-- Add the paths and calls of the values of object entries to dependencies. -/
def Dependencies.visitEntries (registry : Registry) (found : Dependencies) :
    List (String × Expression) → Dependencies
  -- They are visited in order.
  | [] => found
  | (_, item) :: rest => Dependencies.visitEntries registry (Dependencies.visit registry found item) rest

end

/-- The first segment of a dotted path. -/
def pathRoot (path : String) : String :=
  -- A path without dots is its own root.
  String.ofList (path.toList.takeWhile (· != '.'))

/-- What the expressions of a template mention, its own parameters left out. -/
def Template.mentions (registry : Registry) (template : Template) : Dependencies :=
  -- Calls are told by name, not followed.
  let found := (template.expressions.map (·.expression)).foldl (Dependencies.visit registry) {}
  { found with paths := found.paths.filter fun path => !template.parameters.contains (pathRoot path) }

/-- The dependencies of a template, following calls at most as deeply as the bound says. -/
def Template.dependenciesWithin (registry : Registry) : Nat → List String → Template → Dependencies
  -- A template that is being analyzed already adds nothing, and every level analyzes another one.
  | 0, _, _ => {}
  | depth + 1, active, template =>
    let found := template.mentions registry
    found.templates.foldl
      (fun dependencies name =>
        match registry.get? name with
        | some callee =>
          if active.contains name then dependencies
          else dependencies.union (callee.dependenciesWithin registry depth (name :: active))
        | none => dependencies)
      found

/-- The dependencies of a template by name; an exclamation mark makes no difference. -/
def Registry.analyze (registry : Registry) (name : String) : Except TemplateError Dependencies :=
  -- No template is analyzed inside itself, so the size of the registry bounds the depth.
  let base := (splitRerun name).1
  match registry.get? base with
  | none => .error (.notFound base (suggestions base registry.keys))
  | some template => .ok (template.dependenciesWithin registry (registry.length + 1) [base])

/-- The dependencies of a template of a collection. -/
def Collection.analyze (collection : Collection) (name : String) : Except TemplateError Dependencies :=
  -- A collection with errors cannot be analyzed.
  match collection.errors with
  | [] => collection.registry.analyze name
  | errors => .error (.findings errors)

end Phrasebook
