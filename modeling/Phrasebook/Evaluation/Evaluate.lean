import Phrasebook.Evaluation.Environment
import Phrasebook.Evaluation.Structure

/-! Templates are evaluated to one value, alternatives being picked at random. -/

namespace Phrasebook

/-- What the evaluation of an expression may call outside the template it stands in. -/
structure Calls (m : Type → Type) where
  /-- Evaluate a template by name in a scope. -/
  template : String → Scope → m Value
  /-- Evaluate the text of an included file. -/
  text : TemplateText → Scope → m Value
  /-- Call a template that a collection exports. -/
  exported : Collection → String → List Value → Scope → m Value

variable {m : Type → Type} [Evaluating m]

/-- Call a template with arguments. -/
def callTemplate (environment : Environment) (calls : Calls m) (name : String) (args : List Value)
    (scope : Scope) : m Value := do
  -- The number of arguments is checked before anything runs.
  let template ← Evaluating.ofExcept (environment.lookup (splitRerun name).1)
  let scope ← Evaluating.ofExcept (bindArguments template args scope)
  calls.template name scope

/-- The name and the arguments of a call through the function that takes a template's name. -/
def templateTarget (args : List Value) : Except ExpressionError (String × List Value) :=
  -- The name must be a text.
  match args with
  | .str name :: rest => .ok (name, rest)
  | other :: _ => .error (.mismatch (.notTemplateName other))
  | [] => .error (.arity "template" "at least 1" 0)

/-- The path of an included file, and whether its text is taken as it is. -/
def includedFile (args : List Value) : Except ExpressionError (String × Bool) :=
  -- A second text asks for the bare text if it says so, in any case.
  match args with
  | [.str path] => .ok (path, false)
  | [.str path, .str mode] => .ok (path, sameIgnoringCase mode "raw")
  | _ => .error (.arity "fromFile" "1 or 2 (path[, 'raw'])" args.length)

/-- The id of the file that the innermost running template comes from. -/
def currentSource (environment : Environment) (stack : CallStack) : String :=
  -- Outside any template it is the collection itself.
  match stack.current?.bind environment.registry.get? with
  | some template => template.source
  | none => environment.id

/-- Include a file: its text, evaluated unless the bare text is asked for. -/
def includeFile (environment : Environment) (calls : Calls m) (args : List Value) (scope : Scope) :
    m Value :=
  -- The path is relative to the file of the running template.
  match includedFile args with
  | .error error => Evaluating.raise error
  | .ok (path, bare) => do
    Evaluating.outside
    let stack ← Evaluating.stack
    let resolved := resolvePath (currentSource environment stack) path
    match environment.files.read resolved with
    | .error fault => Evaluating.fail (.file resolved fault)
    | .ok content =>
      if bare then return .str content
      else match TemplateText.parse content with
        | .error error => Evaluating.fail (.expression none (.badFile path error))
        | .ok text => calls.text text scope

/-- The functions that know templates, and the templates themselves as functions. -/
def ownFunction? (environment : Environment) (calls : Calls m) (name : String) :
    Option (HostFunction m) :=
  -- The four functions come before templates of the same names.
  match name with
  | "template" => some fun args scope =>
    match templateTarget args with
    | .error error => Evaluating.raise error
    | .ok (target, rest) => callTemplate environment calls target rest scope
  | "isTemplate" => some fun args _ =>
    match args with
    | [.str target] => return .bool (environment.hasTemplate target)
    | [_] => return .bool false
    | _ => Evaluating.raise (.arity "isTemplate" "1" args.length)
  | "fromFile" => some (includeFile environment calls)
  | "ActivityAttachment" => some fun args _ =>
    match args with
    | [content, .str contentType] => return attachment content contentType
    | _ => Evaluating.raise (.arity "ActivityAttachment" "2 (content, type)" args.length)
  | name => if environment.hasTemplate name then some (callTemplate environment calls name) else none

/-- A registered function as expressions call it. -/
def registeredFunction? (environment : Environment) (calls : Calls m) (name : String) :
    Option (HostFunction m) :=
  -- A failing exported template fails as a function, unless it did not finish.
  (environment.functions.get? name).map fun function args scope => do
    Evaluating.outside
    match function with
    | .native function =>
      match function args scope with
      | .ok value => return value
      | .error error => Evaluating.raise error
    | .exported owner template => do
      match ← Evaluating.attempt (calls.exported owner template args scope) with
      | .ok value => return value
      | .error .unfinished => Evaluating.fail .unfinished
      | .error error => Evaluating.raise (.function name error.message)

/-- What expressions inside templates can call. -/
def hostOf (environment : Environment) (calls : Calls m) : Host m where
  own := ownFunction? environment calls
  registered := registeredFunction? environment calls
  fail := Evaluating.raise

/-- Evaluate an expression as it stands, its errors placed at a site. -/
def evalArgument (environment : Environment) (calls : Calls m) (expression : Expression) (scope : Scope)
    (site : Site) : m Value := do
  -- Null is a proper argument.
  match ← Evaluating.attempt (expression.eval (hostOf environment calls) scope) with
  | .ok value => return value
  | .error error => do
    let place ← Evaluating.placeOf site
    Evaluating.fail (error.withPlace place)

/-- Evaluate an embedded expression; lenient evaluation puts a placeholder for null and for failures. -/
def evalEmbedded (environment : Environment) (calls : Calls m) (embedded : Embedded) (scope : Scope)
    (site : Site) : m Value := do
  -- Without a placeholder null stays null, and a failure is raised.
  match ← Evaluating.attempt (embedded.expression.eval (hostOf environment calls) scope) with
  | .ok .null =>
    if environment.options.isStrict then do
      let place ← Evaluating.placeOf site
      Evaluating.fail (.expression (some place) (.null embedded.source))
    else return (environment.substitute? embedded).getD .null
  | .ok value => return value
  | .error (.expression place cause) =>
    match environment.options.isStrict, environment.substitute? embedded with
    | false, some value => return value
    | _, _ => do
      let here ← Evaluating.placeOf site
      Evaluating.fail ((TemplateError.expression place cause).withPlace here)
  | .error error => Evaluating.fail error

/-- Evaluate a condition; lenient evaluation takes a failing one for false. -/
def evalCondition (environment : Environment) (calls : Calls m) (embedded : Embedded) (scope : Scope)
    (site : Site) : m Bool := do
  -- Null is false unless evaluation is strict.
  match ← Evaluating.attempt (embedded.expression.eval (hostOf environment calls) scope) with
  | .ok value =>
    if value.isNull && environment.options.isStrict then do
      let place ← Evaluating.placeOf site
      Evaluating.fail (.expression (some place) (.null embedded.source))
    else return value.truthy
  | .error (.expression place cause) =>
    if environment.options.isStrict then do
      let here ← Evaluating.placeOf site
      Evaluating.fail ((TemplateError.expression place cause).withPlace here)
    else return false
  | .error error => Evaluating.fail error

/-- Evaluate the pieces of a text and join them. -/
def evalSegments (environment : Environment) (calls : Calls m) (scope : Scope) (site : Site) :
    TemplateText → m String
  -- Values are filled in as texts.
  | [] => return ""
  | .literal text :: rest => do
    let joined ← evalSegments environment calls scope site rest
    return text ++ joined
  | .expression embedded :: rest => do
    let value ← evalEmbedded environment calls embedded scope site
    let joined ← evalSegments environment calls scope site rest
    return value.text ++ joined

/-- Evaluate a text; one that is nothing but an expression keeps the type of its value. -/
def evalText (environment : Environment) (calls : Calls m) (text : TemplateText) (scope : Scope)
    (site : Site) : m Value :=
  -- All other texts produce texts.
  match text.single? with
  | some embedded => evalEmbedded environment calls embedded scope site
  | none => do
    let joined ← evalSegments environment calls scope site text
    return .str joined

/-- Evaluate one of several texts, picked at random. -/
def evalCandidates (environment : Environment) (calls : Calls m) (candidates : List TemplateText)
    (scope : Scope) : m Value := do
  -- No texts at all produce null.
  match ← Evaluating.pickOne candidates with
  | some text => evalText environment calls text scope .text
  | none => return .null

/-- Evaluate the first branch whose condition holds. -/
def evalBranches (environment : Environment) (calls : Calls m) (scope : Scope) :
    List Branch → m Value
  -- A branch without a condition always holds.
  | [] => return .null
  | branch :: rest =>
    match branch.condition with
    | none => evalCandidates environment calls branch.body scope
    | some condition => do
      if ← evalCondition environment calls condition scope (.condition condition.source) then
        evalCandidates environment calls branch.body scope
      else evalBranches environment calls scope rest

/-- Evaluate the first case whose value has the text of the subject. -/
def evalCases (environment : Environment) (calls : Calls m) (scope : Scope) (key : String) :
    List Case → m Value
  -- The default case always fits.
  | [] => return .null
  | case :: rest =>
    match case.value with
    | none => evalCandidates environment calls case.body scope
    | some value => do
      let candidate ← evalEmbedded environment calls value scope (.case value.source)
      if candidate.text == key then evalCandidates environment calls case.body scope
      else evalCases environment calls scope key rest

/-- Evaluate the values of a property. -/
def evalTexts (environment : Environment) (calls : Calls m) (scope : Scope) (site : Site) :
    List TemplateText → m (List Value)
  -- They are evaluated in order.
  | [] => return []
  | text :: rest => do
    let value ← evalText environment calls text scope site
    let values ← evalTexts environment calls scope site rest
    return value :: values

/-- Evaluate the lines of a structured body into an object. -/
def evalStructure (environment : Environment) (calls : Calls m) (scope : Scope) (typeName : String) :
    Fields → List StructureLine → m Fields
  -- A property that is there already is evaluated all the same.
  | object, [] => return object
  | object, .property key values :: rest => do
    let values ← evalTexts environment calls scope (.property key) values
    evalStructure environment calls scope typeName (SortedMap.insertNew key (propertyValue values) object) rest
  | object, .merge embedded :: rest => do
    let value ← evalEmbedded environment calls embedded scope .text
    evalStructure environment calls scope typeName (mergeValue typeName object value) rest

/-- Evaluate a template body. -/
def evalBody (environment : Environment) (calls : Calls m) (scope : Scope) : Body → m Value
  -- Each kind of body has its own rule.
  | .normal candidates => evalCandidates environment calls candidates scope
  | .conditional branches => evalBranches environment calls scope branches
  | .switch subject cases => do
    let value ← evalEmbedded environment calls subject scope (.subject subject.source)
    evalCases environment calls scope value.text cases
  | .structured typeName lines => do
    let object ← evalStructure environment calls scope typeName (typedObject typeName) lines
    return .obj object

/-- Evaluate a template by name; the result of an equal call from the same running template is reused. -/
def evalTemplate (environment : Environment) (calls : Calls m) (name : String) (scope : Scope) :
    m Value := do
  -- An exclamation mark neither uses nor keeps a result.
  let (base, rerun) := splitRerun name
  let template ← Evaluating.ofExcept (environment.lookup base)
  Evaluating.checkLoop base
  let key : MemoKey := ⟨base, scope.fingerprint⟩
  let stack ← Evaluating.stack
  match rerun, stack.cached? key with
  | false, some value => return value
  | true, _ => Evaluating.withFrame base (evalBody environment calls scope template.body)
  | false, none => do
    let value ← Evaluating.withFrame base (evalBody environment calls scope template.body)
    Evaluating.change (·.store key value)
    return value

/-- Call an exported template of a collection on a stack of its own, with the options of its file. -/
def callExported (calls : Environment → Calls m) (environment : Environment) (owner : Collection)
    (name : String) (args : List Value) (scope : Scope) : m Value := do
  -- The exporting collection must be free of errors, like any other.
  let exporter ← Evaluating.ofExcept (Environment.of owner {} environment.files environment.functions)
  let result ← Evaluating.isolated (callTemplate exporter (calls exporter) name args scope)
  Evaluating.ofExcept result

/-- The calls that may nest as deeply as the bound says. -/
def callsWithin : Nat → Environment → Calls m
  -- Every call lowers the bound by one, and at zero no call finishes.
  | 0, _ =>
    ⟨fun _ _ => Evaluating.refuse, fun _ _ => Evaluating.refuse, fun _ _ _ _ => Evaluating.refuse⟩
  | limit + 1, environment =>
    { template := fun name scope => evalTemplate environment (callsWithin limit environment) name scope
      text := fun text scope => evalText environment (callsWithin limit environment) text scope .text
      exported := fun owner name args scope => callExported (callsWithin limit) environment owner name args scope }

/-- With the bound used up, no template call finishes. -/
theorem template_callsWithin_zero (environment : Environment) (name : String) (scope : Scope) :
    (callsWithin 0 environment).template name scope = (Evaluating.refuse : m Value) :=
  -- All three kinds of calls are refused.
  rfl

/-- A template call evaluates the template, whose own calls have one level less. -/
theorem template_callsWithin_succ (limit : Nat) (environment : Environment) (name : String) (scope : Scope) :
    (callsWithin (limit + 1) environment).template name scope =
      (evalTemplate environment (callsWithin limit environment) name scope : m Value) :=
  -- The bound is lowered before the template runs.
  rfl

/-- Evaluate a template by name, calls nesting at most as deeply as the bound says. -/
def evaluateWithin (limit : Nat) (environment : Environment) (name : String) (scope : Scope) :
    m Value := do
  -- Line breaks are written at the very end.
  let value ← (callsWithin limit environment).template name scope
  return environment.applyLineBreaks value

/-- Evaluate a template by name. -/
def evaluate (environment : Environment) (name : String) (scope : Scope) : Evaluation Value :=
  -- The bound is ample for the registry.
  evaluateWithin environment.depthLimit environment name scope

/-- Evaluate a text outside any template. -/
def evaluateText (environment : Environment) (text : TemplateText) (scope : Scope) : Evaluation Value := do
  -- Line breaks are written at the very end.
  let value ← (callsWithin environment.depthLimit environment).text text scope
  return environment.applyLineBreaks value

end Phrasebook
