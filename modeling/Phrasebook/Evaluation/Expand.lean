import Phrasebook.Evaluation.Evaluate

/-! Templates are expanded to all the values they can produce, alternatives being taken in order. -/

namespace Phrasebook

/-- How a template is expanded by name in a scope. -/
abbrev Expansion (m : Type → Type) := String → Scope → m (List Value)

/-- What the expansion of a body needs: templates expanded by name, and evaluation of all else. -/
structure Expander (m : Type → Type) where
  /-- What templates are evaluated against. -/
  environment : Environment
  /-- How calls are evaluated that stand outside texts. -/
  calls : Calls m
  /-- How templates are expanded by name. -/
  template : Expansion m

/-- Every element of one list combined with every element of another, the first list varying slowest. -/
def product {α β γ : Type} (combine : α → β → γ) (left : List α) (right : List β) : List γ :=
  -- Either list being empty leaves no combinations.
  left.flatMap fun a => right.map fun b => combine a b

/-- Whether a call name stands for a template. -/
def isTemplateCall (environment : Environment) (name : String) : Bool :=
  -- The function that takes a template's name counts, with or without an exclamation mark.
  (splitRerun name).1 == "template" || environment.hasTemplate name

/-- Whether an expression calls a template anywhere. -/
def callsTemplate (environment : Environment) (expression : Expression) : Bool :=
  -- Calls inside arguments count as well.
  expression.nodes.any fun node =>
    match node with
    | .call name _ => isTemplateCall environment name
    | _ => false

variable {m : Type → Type} [Evaluating m]

/-- Call a template with arguments and expand it. -/
def expandCall (expander : Expander m) (name : String) (args : List Value) (scope : Scope) :
    m (List Value) := do
  -- The number of arguments is checked before anything runs.
  let template ← Evaluating.ofExcept (expander.environment.lookup (splitRerun name).1)
  let scope ← Evaluating.ofExcept (bindArguments template args scope)
  expander.template name scope

/-- Evaluate the arguments of a call, which hold no calls of templates any more. -/
def expandArguments (expander : Expander m) (scope : Scope) (site : Site) :
    List Expression → m (List Value)
  -- The first failure stops the others.
  | [] => return []
  | arg :: rest => do
    let value ← evalArgument expander.environment expander.calls arg scope site
    let values ← expandArguments expander scope site rest
    return value :: values

/-- All values of a call of a template whose arguments hold no calls of templates any more. -/
def expandTemplateCall (expander : Expander m) (name : String) (args : List Expression) (scope : Scope)
    (site : Site) : m (List Value) := do
  -- The template may be named by the first argument.
  let values ← expandArguments expander scope site args
  if (splitRerun name).1 == "template" then
    match templateTarget values with
    | .error error => Evaluating.raise error
    | .ok (target, rest) => expandCall expander target rest scope
  else expandCall expander name values scope

/-- All values of a call of a template for each of several lists of arguments, in order. -/
def expandTemplateCalls (expander : Expander m) (name : String) (scope : Scope) (site : Site) :
    List (List Expression) → m (List Value)
  -- The values of one list come before those of the next.
  | [] => return []
  | args :: rest => do
    let values ← expandTemplateCall expander name args scope site
    let others ← expandTemplateCalls expander name scope site rest
    return values ++ others

mutual

/-- Copies of an expression in which every call of a template is replaced by one of its values. -/
def variants (expander : Expander m) (scope : Scope) (site : Site) (expression : Expression) :
    m (List Expression) :=
  -- Earlier calls vary slowest.
  if !callsTemplate expander.environment expression then return [expression]
  else match expression with
    | .call name args => do
      let combinations ← variantsOfItems expander scope site args
      if isTemplateCall expander.environment name then do
        let values ← expandTemplateCalls expander name scope site combinations
        return values.map .literal
      else return combinations.map (.call name)
    | .member target property => do
      let targets ← variants expander scope site target
      return targets.map fun target => .member target property
    | .index target key => do
      let targets ← variants expander scope site target
      let keys ← variants expander scope site key
      return product .index targets keys
    | .array items => do
      let combinations ← variantsOfItems expander scope site items
      return combinations.map .array
    | .object entries => do
      let combinations ← variantsOfEntries expander scope site entries
      return combinations.map .object
    | .unary op operand => do
      let operands ← variants expander scope site operand
      return operands.map (.unary op)
    | .binary op left right => do
      let lefts ← variants expander scope site left
      let rights ← variants expander scope site right
      return product (.binary op) lefts rights
    | .literal value => return [.literal value]
    | .variable name => return [.variable name]

/-- Copies of a list of expressions, one for each combination of the copies of its elements. -/
def variantsOfItems (expander : Expander m) (scope : Scope) (site : Site) :
    List Expression → m (List (List Expression))
  -- Earlier elements vary slowest.
  | [] => return [[]]
  | item :: rest => do
    let heads ← variants expander scope site item
    let tails ← variantsOfItems expander scope site rest
    return product (fun head tail => head :: tail) heads tails

/-- Copies of object entries, one for each combination of the copies of their values. -/
def variantsOfEntries (expander : Expander m) (scope : Scope) (site : Site) :
    List (String × Expression) → m (List (List (String × Expression)))
  -- Earlier entries vary slowest.
  | [] => return [[]]
  | (name, item) :: rest => do
    let heads ← variants expander scope site item
    let tails ← variantsOfEntries expander scope site rest
    return product (fun head tail => (name, head) :: tail) heads tails

end

/-- The values of the copies of an embedded expression, in order. -/
def expandVariants (expander : Expander m) (source : String) (scope : Scope) (site : Site) :
    List Expression → m (List Value)
  -- All copies share one source.
  | [] => return []
  | expression :: rest => do
    let value ← evalEmbedded expander.environment expander.calls ⟨source, expression⟩ scope site
    let values ← expandVariants expander source scope site rest
    return value :: values

/-- All values of an embedded expression, one for each combination of the values of its calls. -/
def expandEmbedded (expander : Expander m) (embedded : Embedded) (scope : Scope) (site : Site) :
    m (List Value) := do
  -- An expression that calls no template has one value.
  let expressions ← variants expander scope site embedded.expression
  expandVariants expander embedded.source scope site expressions

/-- All texts that the pieces of a text can form, after each of some beginnings. -/
def expandSegments (expander : Expander m) (scope : Scope) (site : Site) :
    List String → TemplateText → m (List String)
  -- Earlier pieces vary slowest.
  | beginnings, [] => return beginnings
  | beginnings, .literal text :: rest =>
    expandSegments expander scope site (beginnings.map (· ++ text)) rest
  | beginnings, .expression embedded :: rest => do
    let values ← expandEmbedded expander embedded scope site
    expandSegments expander scope site
      (product (fun beginning value => beginning ++ Value.text value) beginnings values) rest

/-- All values of a text. -/
def expandText (expander : Expander m) (text : TemplateText) (scope : Scope) (site : Site) :
    m (List Value) :=
  -- A text that is nothing but an expression keeps the types of its values.
  match text.single? with
  | some embedded => expandEmbedded expander embedded scope site
  | none => do
    let outputs ← expandSegments expander scope site [""] text
    return outputs.map .str

/-- All values of several texts, in order. -/
def expandCandidates (expander : Expander m) (scope : Scope) : List TemplateText → m (List Value)
  -- The values of one text come before those of the next.
  | [] => return []
  | text :: rest => do
    let values ← expandText expander text scope .text
    let others ← expandCandidates expander scope rest
    return values ++ others

/-- All values of the branches whose conditions hold, given whether one has held so far. -/
def expandBranches (expander : Expander m) (scope : Scope) : Bool → List Branch → m (List Value)
  -- A branch without a condition counts only if no condition has held.
  | _, [] => return []
  | matched, branch :: rest =>
    match branch.condition with
    | none => do
      let values ← if matched then pure [] else expandCandidates expander scope branch.body
      let others ← expandBranches expander scope matched rest
      return values ++ others
    | some condition => do
      if ← evalCondition expander.environment expander.calls condition scope (.condition condition.source) then do
        let values ← expandCandidates expander scope branch.body
        let others ← expandBranches expander scope true rest
        return values ++ others
      else expandBranches expander scope matched rest

/-- All values of the cases that fit the subject, given whether one has fitted so far. -/
def expandCases (expander : Expander m) (scope : Scope) (key : String) : Bool → List Case → m (List Value)
  -- The default case counts only if no case has fitted.
  | _, [] => return []
  | matched, case :: rest =>
    match case.value with
    | none => do
      let values ← if matched then pure [] else expandCandidates expander scope case.body
      let others ← expandCases expander scope key matched rest
      return values ++ others
    | some value => do
      let candidate ← evalEmbedded expander.environment expander.calls value scope (.case value.source)
      if candidate.text == key then do
        let values ← expandCandidates expander scope case.body
        let others ← expandCases expander scope key true rest
        return values ++ others
      else expandCases expander scope key matched rest

/-- All lists of values of the texts of a property, after each of some beginnings. -/
def expandTexts (expander : Expander m) (scope : Scope) (site : Site) :
    List (List Value) → List TemplateText → m (List (List Value))
  -- Earlier texts vary slowest.
  | beginnings, [] => return beginnings
  | beginnings, text :: rest => do
    let values ← expandText expander text scope site
    expandTexts expander scope site
      (product (fun beginning value => beginning ++ [value]) beginnings values) rest

/-- All objects that the lines of a structured body can form, out of each of some beginnings. -/
def expandStructure (expander : Expander m) (scope : Scope) (typeName : String) :
    List Fields → List StructureLine → m (List Fields)
  -- Earlier lines vary slowest.
  | objects, [] => return objects
  | objects, .property key values :: rest => do
    let combinations ← expandTexts expander scope (.property key) [[]] values
    expandStructure expander scope typeName
      (product (fun object value => SortedMap.insertNew key value object) objects (combinations.map propertyValue)) rest
  | objects, .merge embedded :: rest => do
    let values ← expandEmbedded expander embedded scope .text
    expandStructure expander scope typeName (product (mergeValue typeName) objects values) rest

/-- All values of a template body. -/
def expandBody (expander : Expander m) (scope : Scope) : Body → m (List Value)
  -- Each kind of body has its own rule.
  | .normal candidates => expandCandidates expander scope candidates
  | .conditional branches => expandBranches expander scope false branches
  | .switch subject cases => do
    let value ← evalEmbedded expander.environment expander.calls subject scope (.subject subject.source)
    expandCases expander scope value.text false cases
  | .structured typeName lines => do
    let objects ← expandStructure expander scope typeName [typedObject typeName] lines
    return objects.map .obj

/-- Expand a template by name; an exclamation mark makes no difference. -/
def expandTemplate (expander : Expander m) (name : String) (scope : Scope) : m (List Value) := do
  -- A template that is running already is refused.
  let base := (splitRerun name).1
  let template ← Evaluating.ofExcept (expander.environment.lookup base)
  Evaluating.checkLoop base
  Evaluating.withFrame base (expandBody expander scope template.body)

/-- The expansion of templates whose calls nest at most as deeply as the bound says. -/
def expansionWithin (environment : Environment) : Nat → Expansion m
  -- Every call lowers the bound by one, and at zero no call finishes.
  | 0 => fun _ _ => Evaluating.refuse
  | limit + 1 => fun name scope =>
    expandTemplate ⟨environment, callsWithin limit environment, expansionWithin environment limit⟩ name scope

/-- An expansion expands the template, whose own calls have one level less. -/
theorem expansionWithin_succ (environment : Environment) (limit : Nat) (name : String) (scope : Scope) :
    expansionWithin environment (limit + 1) name scope =
      (expandTemplate ⟨environment, callsWithin limit environment, expansionWithin environment limit⟩ name scope :
        m (List Value)) :=
  -- Expansions and evaluations share the bound.
  rfl

/-- All values that a template can produce, calls nesting at most as deeply as the bound says. -/
def expandWithin (limit : Nat) (environment : Environment) (name : String) (scope : Scope) :
    m (List Value) := do
  -- Line breaks are written at the very end.
  let values ← expansionWithin environment limit name scope
  return values.map environment.applyLineBreaks

/-- All values that a template can produce. -/
def expand (environment : Environment) (name : String) (scope : Scope) : Evaluation (List Value) :=
  -- The bound is ample for the registry.
  expandWithin environment.depthLimit environment name scope

/-- The stack that an expansion starts from: empty, and without keeping results. -/
def expansionStack : CallStack :=
  -- Every call is evaluated afresh.
  ⟨[], false⟩

end Phrasebook
