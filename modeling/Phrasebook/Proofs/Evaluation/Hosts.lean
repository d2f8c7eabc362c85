import Phrasebook.Proofs.Evaluation.Bodies

/-! What relates the calls of templates relates the expressions that make them. -/

namespace Phrasebook

/-- The names of the functions that know templates, which come before templates of the same names. -/
def templateFunctions : List String :=
  -- They are told by their exact names, so none of them is meant with an exclamation mark.
  ["template", "isTemplate", "fromFile", "ActivityAttachment"]

/-- A call that stays among templates and built-in functions. -/
def Environment.Contains (environment : Environment) (name : String) : Prop :=
  -- A registered function is not called where a template or one of the four functions has its name.
  name ≠ "fromFile" ∧
    (name ∈ templateFunctions ∨ environment.hasTemplate name = true ∨ environment.functions.get? name = none)

instance (environment : Environment) (name : String) : Decidable (environment.Contains name) :=
  inferInstanceAs (Decidable (_ ∧ _))

/-- A name that is none of theirs is looked up among the templates. -/
theorem ownFunction?_of_not_mem {m : Type → Type} [Evaluating m] (environment : Environment) (calls : Calls m)
    {name : String} (other : name ∉ templateFunctions) :
    ownFunction? environment calls name =
      if environment.hasTemplate name then some (callTemplate environment calls name) else none := by
  simp only [templateFunctions, List.mem_cons, List.not_mem_nil, or_false, not_or] at other
  obtain ⟨noTemplate, noTest, noFile, noAttachment⟩ := other
  unfold ownFunction?
  split <;> simp_all

/-- A name is known to the host where a function of that name is registered. -/
theorem isSome_registeredFunction? {m : Type → Type} [Evaluating m] (environment : Environment) (calls : Calls m)
    (name : String) : (registeredFunction? environment calls name).isSome = (environment.functions.get? name).isSome :=
  -- Registered functions are wrapped one by one.
  Option.isSome_map

/-- A name that stays among templates and built-in functions stands for no registered function, if neither a template nor one of
the four functions has it. -/
theorem not_registered {m : Type → Type} [Evaluating m] {environment : Environment} {calls : Calls m} {name : String}
    (among : name ∈ templateFunctions ∨ environment.hasTemplate name = true ∨ environment.functions.get? name = none)
    (other : name ∉ templateFunctions) (unknown : environment.hasTemplate name = false) {function : HostFunction m} :
    registeredFunction? environment calls name ≠ some function := by
  have absent : environment.functions.get? name = none := by
    rcases among with own | known | absent
    · exact absurd own other
    · exact absurd (known.symm.trans unknown) (by decide)
    · exact absent
  simp [registeredFunction?, absent]

/-- A template is found where the registry has it. -/
theorem get?_of_lookup {environment : Environment} {name : String} {template : Template}
    (found : environment.lookup name = .ok template) : environment.registry.get? name = some template := by
  unfold Environment.lookup at found
  split at found
  · rename_i hit
    cases found
    exact hit
  · cases found

/-- A template that is found is one of the registry. -/
theorem mem_of_lookup {environment : Environment} {name : String} {template : Template}
    (found : environment.lookup name = .ok template) : (name, template) ∈ environment.registry :=
  SortedMap.mem_of_get? (get?_of_lookup found)

section Hosts

variable {m₁ m₂ : Type → Type} [Evaluating m₁] [Evaluating m₂] {relation : Congruence m₁ m₂}
  {environment₁ environment₂ : Environment} {calls₁ : Calls m₁} {calls₂ : Calls m₂} {scope₁ scope₂ : Scope}

/-- A call that both sides take to the same function is answered alike if that function is. -/
theorem hostOf_call_alike {name : String} {args : List Value}
    (templates : name ∉ templateFunctions → environment₁.hasTemplate name = environment₂.hasTemplate name)
    (functions : name ∉ templateFunctions → environment₁.hasTemplate name = false →
      (environment₁.functions.get? name).isSome = (environment₂.functions.get? name).isSome)
    (tests : name = "isTemplate" → ∀ target, args = [.str target] →
      environment₁.hasTemplate target = environment₂.hasTemplate target)
    (raised : ∀ error, relation.Alike (Evaluating.raise error : m₁ Value) (Evaluating.raise error : m₂ Value))
    (template : name = "template" → ∀ target rest, templateTarget args = .ok (target, rest) →
      relation.Alike (callTemplate environment₁ calls₁ target rest scope₁)
        (callTemplate environment₂ calls₂ target rest scope₂))
    (file : name = "fromFile" → relation.Alike (includeFile environment₁ calls₁ args scope₁)
      (includeFile environment₂ calls₂ args scope₂))
    (named : name ∉ templateFunctions → environment₁.hasTemplate name = true →
      relation.Alike (callTemplate environment₁ calls₁ name args scope₁)
        (callTemplate environment₂ calls₂ name args scope₂))
    (registered : name ∉ templateFunctions → environment₁.hasTemplate name = false →
      ∀ function₁ function₂, registeredFunction? environment₁ calls₁ name = some function₁ →
        registeredFunction? environment₂ calls₂ name = some function₂ →
          relation.Alike (function₁ args scope₁) (function₂ args scope₂)) :
    relation.Alike ((hostOf environment₁ calls₁).call name args scope₁)
      ((hostOf environment₂ calls₂).call name args scope₂) := by
  by_cases own : name ∈ templateFunctions
  · -- The four functions answer alike as soon as what they call does.
    simp only [templateFunctions, List.mem_cons, List.not_mem_nil, or_false] at own
    rcases own with rfl | rfl | rfl | rfl
    · simp only [Host.call, hostOf, ownFunction?]
      cases target : templateTarget args with
      | error error => exact raised error
      | ok pair => exact template rfl pair.1 pair.2 target
    · simp only [Host.call, hostOf, ownFunction?]
      split
      · rw [tests rfl _ rfl]
        exact relation.alike_pure _
      · exact relation.alike_pure _
      · exact raised _
    · exact file rfl
    · simp only [Host.call, hostOf, ownFunction?]
      split
      · exact relation.alike_pure _
      · exact raised _
  · simp only [Host.call, hostOf, ownFunction?_of_not_mem _ _ own, ← templates own]
    cases has : environment₁.hasTemplate name with
    | true => exact named own has
    | false =>
      simp only [Bool.false_eq_true, if_false]
      -- Both sides have registered a function of the name, or neither has.
      have both : (registeredFunction? environment₁ calls₁ name).isSome = (registeredFunction? environment₂ calls₂ name).isSome := by
        rw [isSome_registeredFunction?, isSome_registeredFunction?, functions own has]
      cases left : registeredFunction? environment₁ calls₁ name with
      | none =>
        cases right : registeredFunction? environment₂ calls₂ name with
        | none =>
          -- Built-in functions involve the host only where they fail.
          dsimp only
          split
          · exact Host.lift_alike relation raised _
          · exact raised _
        | some function₂ =>
          rw [left, right] at both
          cases both
      | some function₁ =>
        cases right : registeredFunction? environment₂ calls₂ name with
        | none =>
          rw [left, right] at both
          cases both
        | some function₂ => exact registered own has function₁ function₂ left right

/-- Environments agree on what the lazy conditional is if both have a template of its name, or neither has. -/
theorem isNone_own_if {name : String} (lazy : name = "if")
    (templates : environment₁.hasTemplate name = environment₂.hasTemplate name) :
    ((hostOf environment₁ calls₁).own name).isNone = ((hostOf environment₂ calls₂).own name).isNone := by
  -- It gives way to a template of its name.
  have other : name ∉ templateFunctions := by rw [lazy]; decide
  simp only [hostOf, ownFunction?_of_not_mem _ _ other, templates]
  split <;> rfl

/-- A relation that failures and their handling respect, given the errors that may occur. -/
structure Congruence.Handles (relation : Congruence m₁ m₂) (may : TemplateError → Prop) : Prop where
  /-- Failures with the same error are related, for they have no values that would have to agree. -/
  fails : ∀ {α β : Type} {Agree : α → β → Prop} (error : TemplateError), may error →
    relation.Related Agree (Evaluating.fail error) (Evaluating.fail error)
  /-- Computations that are alike fail alike. -/
  attempts : ∀ {α : Type} {first : m₁ α} {second : m₂ α}, relation.Alike first second →
    relation.Related (fun result₁ result₂ => result₁ = result₂ ∧ ∀ error, result₁ = .error error → may error)
      (Evaluating.attempt first) (Evaluating.attempt second)
  /-- Both sides are in the same template. -/
  places : ∀ site, relation.Alike (Evaluating.placeOf site : m₁ _) (Evaluating.placeOf site : m₂ _)
  /-- Every error may occur that is about neither how calls nest nor how many arguments they pass. -/
  others : ∀ error, (∀ chain, error ≠ .loop chain) → error ≠ .unfinished →
    (∀ template expected got, error ≠ .argumentCount template expected got) → may error

variable {may : TemplateError → Prop}

/-- An error that may occur may occur at a place. -/
theorem Congruence.Handles.placed (handles : relation.Handles may) {error : TemplateError} (place : Place)
    (occurs : may error) : may (error.withPlace place) := by
  -- Only expression errors are changed at all.
  unfold TemplateError.withPlace
  split
  · exact handles.others _ (by simp) (by simp) (by simp)
  · exact occurs

/-- A result is taken over alike if its error may occur. -/
theorem Congruence.Handles.ofExcept (handles : relation.Handles may) {α : Type} (result : Except TemplateError α)
    (occurs : ∀ error, result = .error error → may error) :
    relation.Alike (Evaluating.ofExcept result : m₁ α) (Evaluating.ofExcept result : m₂ α) := by
  cases result with
  | ok value => exact relation.alike_pure value
  | error error => exact handles.fails error (occurs error rfl)

/-- Expression errors are raised alike. -/
theorem Congruence.Handles.raises (handles : relation.Handles may) {α : Type} (error : ExpressionError) :
    relation.Alike (Evaluating.raise error : m₁ α) (Evaluating.raise error : m₂ α) :=
  -- They are of a kind of their own.
  handles.fails _ (handles.others _ (by simp) (by simp) (by simp))

/-- The error of an unknown template may always occur. -/
theorem Congruence.Handles.missing (handles : relation.Handles may) {environment : Environment} {name : String}
    {error : TemplateError} (failed : environment.lookup name = .error error) : may error := by
  unfold Environment.lookup at failed
  split at failed
  · cases failed
  · cases failed
    exact handles.others _ (by simp [Environment.missing]) (by simp [Environment.missing]) (by simp [Environment.missing])

/-- Arguments are bound in every scope alike, or refused in every scope alike for their number. -/
theorem bindArguments_cases (template : Template) (args : List Value) (scope₁ scope₂ : Scope) :
    (∃ bound₁ bound₂, bindArguments template args scope₁ = .ok bound₁ ∧ bindArguments template args scope₂ = .ok bound₂) ∨
      args ≠ [] ∧ args.length ≠ template.parameters.length ∧
        bindArguments template args scope₁ =
          .error (.argumentCount template.name template.parameters.length args.length) ∧
        bindArguments template args scope₂ =
          .error (.argumentCount template.name template.parameters.length args.length) := by
  unfold bindArguments
  split
  · exact .inl ⟨_, _, rfl, rfl⟩
  · rename_i some
    split
    · rename_i differ
      exact .inr ⟨by simpa using some, by simpa using differ, rfl, rfl⟩
    · exact .inl ⟨_, _, rfl, rfl⟩

/-- Both sides find the same template, or fail to. -/
theorem lookup_alike (handles : relation.Handles may) (environment : Environment) (name : String) :
    relation.Related (fun callee₁ callee₂ => callee₁ = callee₂ ∧ environment.lookup name = .ok callee₁)
      (Evaluating.ofExcept (environment.lookup name) : m₁ Template)
      (Evaluating.ofExcept (environment.lookup name) : m₂ Template) := by
  cases looked : environment.lookup name with
  | ok callee => exact relation.done ⟨rfl, rfl⟩
  | error error => exact handles.fails error (handles.missing looked)

/-- What is done with the scope in which a called template runs is done alike if it is for each such scope. -/
theorem bound_alike (handles : relation.Handles may) (environment : Environment) {name : String} {args : List Value}
    (counts : ∀ callee, environment.lookup name = .ok callee → args ≠ [] → args.length ≠ callee.parameters.length →
      may (.argumentCount callee.name callee.parameters.length args.length))
    {α : Type} {next₁ : Scope → m₁ α} {next₂ : Scope → m₂ α}
    (next : ∀ callee bound₁ bound₂, environment.lookup name = .ok callee →
      bindArguments callee args scope₁ = .ok bound₁ → bindArguments callee args scope₂ = .ok bound₂ →
        relation.Alike (next₁ bound₁) (next₂ bound₂)) :
    relation.Alike
      (Evaluating.ofExcept (environment.lookup name) >>= fun callee =>
        Evaluating.ofExcept (bindArguments callee args scope₁) >>= next₁)
      (Evaluating.ofExcept (environment.lookup name) >>= fun callee =>
        Evaluating.ofExcept (bindArguments callee args scope₂) >>= next₂) := by
  refine relation.andThen (lookup_alike handles environment name) ?_
  rintro callee _ ⟨rfl, known⟩
  have bound : relation.Related (fun bound₁ bound₂ => bindArguments callee args scope₁ = .ok bound₁ ∧
        bindArguments callee args scope₂ = .ok bound₂)
      (Evaluating.ofExcept (bindArguments callee args scope₁) : m₁ Scope)
      (Evaluating.ofExcept (bindArguments callee args scope₂) : m₂ Scope) := by
    rcases bindArguments_cases callee args scope₁ scope₂ with
      ⟨bound₁, bound₂, binds₁, binds₂⟩ | ⟨passed, differ, fails₁, fails₂⟩
    · rw [binds₁, binds₂]
      exact relation.done ⟨rfl, rfl⟩
    · rw [fails₁, fails₂]
      exact handles.fails _ (counts callee known passed differ)
  refine relation.andThen bound ?_
  rintro bound₁ bound₂ ⟨binds₁, binds₂⟩
  exact next callee bound₁ bound₂ known binds₁ binds₂

/-- From one scope, what is done with the scope in which a called template runs is done alike if it is for each such scope. -/
theorem callee_alike (handles : relation.Handles may) (environment : Environment) {name : String} {args : List Value}
    {scope : Scope}
    (counts : ∀ callee, environment.lookup name = .ok callee → args ≠ [] → args.length ≠ callee.parameters.length →
      may (.argumentCount callee.name callee.parameters.length args.length))
    {α : Type} {next₁ : Scope → m₁ α} {next₂ : Scope → m₂ α}
    (next : ∀ callee bound, environment.lookup name = .ok callee → bindArguments callee args scope = .ok bound →
      relation.Alike (next₁ bound) (next₂ bound)) :
    relation.Alike
      (Evaluating.ofExcept (environment.lookup name) >>= fun callee =>
        Evaluating.ofExcept (bindArguments callee args scope) >>= next₁)
      (Evaluating.ofExcept (environment.lookup name) >>= fun callee =>
        Evaluating.ofExcept (bindArguments callee args scope) >>= next₂) := by
  refine bound_alike handles environment counts fun callee bound₁ bound₂ known binds₁ binds₂ => ?_
  obtain rfl := Except.ok.inj (binds₁.symm.trans binds₂)
  exact next callee bound₁ known binds₁

/-- A call of a template with arguments is answered alike if the template is. -/
theorem callTemplate_alike (handles : relation.Handles may) (environment : Environment) {name : String}
    {args : List Value}
    (counts : ∀ callee, environment.lookup (splitRerun name).1 = .ok callee → args ≠ [] →
      args.length ≠ callee.parameters.length →
        may (.argumentCount callee.name callee.parameters.length args.length))
    (template : ∀ callee bound₁ bound₂, environment.lookup (splitRerun name).1 = .ok callee →
      bindArguments callee args scope₁ = .ok bound₁ → bindArguments callee args scope₂ = .ok bound₂ →
        relation.Alike (calls₁.template name bound₁) (calls₂.template name bound₂)) :
    relation.Alike (callTemplate environment calls₁ name args scope₁)
      (callTemplate environment calls₂ name args scope₂) :=
  bound_alike handles environment counts template

/-- The inclusion of a file is alike if both sides look for it in the same place and evaluate its text alike. -/
theorem includeFile_alike (handles : relation.Handles may) (files : environment₁.files = environment₂.files)
    (outside : relation.Alike (Evaluating.outside : m₁ Unit) (Evaluating.outside : m₂ Unit)) (Place : String → Prop)
    (places : relation.Related (fun stack₁ stack₂ => currentSource environment₁ stack₁ = currentSource environment₂ stack₂ ∧
      Place (currentSource environment₁ stack₁)) (Evaluating.stack : m₁ CallStack) (Evaluating.stack : m₂ CallStack))
    {args : List Value} (text : ∀ source path content text, Place source → includedFile args = .ok (path, false) →
      environment₁.files.read (resolvePath source path) = .ok content → TemplateText.parse content = .ok text →
        relation.Alike (calls₁.text text scope₁) (calls₂.text text scope₂)) :
    relation.Alike (includeFile environment₁ calls₁ args scope₁) (includeFile environment₂ calls₂ args scope₂) := by
  unfold includeFile
  cases requested : includedFile args with
  | error error => exact handles.raises error
  | ok request =>
    obtain ⟨path, bare⟩ := request
    refine relation.alike_bind outside fun _ => relation.andThen places ?_
    rintro stack₁ stack₂ ⟨same, place⟩
    dsimp only
    rw [← same, ← files]
    cases found : environment₁.files.read (resolvePath (currentSource environment₁ stack₁) path) with
    | error fault => exact handles.fails _ (handles.others _ (by simp) (by simp) (by simp))
    | ok content =>
      cases bare with
      | true => exact relation.alike_pure _
      | false =>
        simp only [Bool.false_eq_true, if_false]
        cases parsed : TemplateText.parse content with
        | error error => exact handles.fails _ (handles.others _ (by simp) (by simp) (by simp))
        | ok inner => exact text _ path content inner place requested found parsed

/-- A function that both sides have registered is called alike, with the arguments and the scope of the call, if exported templates are. -/
theorem registered_alike (handles : relation.Handles may) (functions : environment₁.functions = environment₂.functions)
    (outside : relation.Alike (Evaluating.outside : m₁ Unit) (Evaluating.outside : m₂ Unit)) {name : String}
    {args : List Value} {scope : Scope}
    (exported : ∀ owner template, environment₁.functions.get? name = some (.exported owner template) →
      relation.Alike (calls₁.exported owner template args scope) (calls₂.exported owner template args scope))
    {function₁ : HostFunction m₁} {function₂ : HostFunction m₂}
    (found₁ : registeredFunction? environment₁ calls₁ name = some function₁)
    (found₂ : registeredFunction? environment₂ calls₂ name = some function₂) :
    relation.Alike (function₁ args scope) (function₂ args scope) := by
  simp only [registeredFunction?, Option.map_eq_some_iff, functions] at found₁ found₂
  obtain ⟨function, here, rfl⟩ := found₁
  obtain ⟨_, there, rfl⟩ := found₂
  obtain rfl := Option.some.inj (here.symm.trans there)
  refine relation.alike_bind outside fun _ => ?_
  cases function with
  | native function =>
    dsimp only
    cases function args scope with
    | ok value => exact relation.alike_pure value
    | error error => exact handles.raises error
  | exported owner template =>
    refine relation.andThen (handles.attempts (exported owner template (functions ▸ here))) ?_
    rintro result _ ⟨rfl, occurs⟩
    split
    · exact relation.alike_pure _
    · exact handles.fails _ (occurs _ rfl)
    · exact handles.raises _

/-- Failing with a placed error is alike. -/
theorem Congruence.Handles.failsAt (handles : relation.Handles may) {α : Type} (site : Site)
    (error : Place → TemplateError) (occurs : ∀ place, may (error place)) :
    relation.Alike (Evaluating.placeOf site >>= fun place => (Evaluating.fail (error place) : m₁ α))
      (Evaluating.placeOf site >>= fun place => (Evaluating.fail (error place) : m₂ α)) := by
  -- Both sides name the same place.
  exact relation.alike_bind (handles.places site) fun place => handles.fails _ (occurs place)

/-- An expression that is evaluated alike is an argument of a call alike. -/
theorem evalArgument_alike (handles : relation.Handles may) (expression : Expression) (site : Site)
    (evaluated : relation.Alike (expression.eval (hostOf environment₁ calls₁) scope₁)
      (expression.eval (hostOf environment₂ calls₂) scope₂)) :
    relation.Alike (evalArgument environment₁ calls₁ expression scope₁ site)
      (evalArgument environment₂ calls₂ expression scope₂ site) := by
  refine relation.andThen (handles.attempts evaluated) ?_
  rintro result _ ⟨rfl, occurs⟩
  cases result with
  | ok value => exact relation.alike_pure value
  | error error =>
    exact handles.failsAt site _ fun place => handles.placed place (occurs error rfl)

/-- Where handing on a value as one does nothing else, such an argument has a value that it can have. -/
theorem evalArgument_canBe [LawfulMonad m₁] [LawfulMonad m₂] (handles : relation.Handles may)
    (hands₁ : ∀ value : Value, Evaluating.attempt (pure value : m₁ Value) = pure (.ok value))
    (hands₂ : ∀ value : Value, Evaluating.attempt (pure value : m₂ Value) = pure (.ok value))
    (expression : Expression) (site : Site)
    (evaluated : relation.Alike (expression.eval (hostOf environment₁ calls₁) scope₁)
      (expression.eval (hostOf environment₂ calls₂) scope₂)) :
    relation.Related (fun value₁ value₂ => value₁ = value₂ ∧ expression.CanBe value₁)
      (evalArgument environment₁ calls₁ expression scope₁ site)
      (evalArgument environment₂ calls₂ expression scope₂ site) := by
  by_cases constant : ∃ value, expression = .literal value
  · obtain ⟨value, rfl⟩ := constant
    rw [evalArgument, evalArgument, Expression.eval, Expression.eval, hands₁, hands₂, pure_bind, pure_bind]
    exact relation.done ⟨rfl, rfl⟩
  · refine relation.weaken (evalArgument_alike handles expression site evaluated) fun value₁ value₂ same => ⟨same, ?_⟩
    cases expression with
    | literal value => exact absurd ⟨value, rfl⟩ constant
    | _ => trivial

/-- An expression that is evaluated alike is embedded alike, under the same options. -/
theorem embedsAlike_of_eval (handles : relation.Handles may) (options : environment₁.options = environment₂.options)
    (embedded : Embedded)
    (evaluated : relation.Alike (embedded.expression.eval (hostOf environment₁ calls₁) scope₁)
      (embedded.expression.eval (hostOf environment₂ calls₂) scope₂)) :
    relation.EmbedsAlike environment₁ environment₂ calls₁ calls₂ scope₁ scope₂ embedded := by
  have substitute : environment₁.substitute? embedded = environment₂.substitute? embedded := by
    simp only [Environment.substitute?, options]
  -- Both sides handle the same value or error in the same way.
  constructor <;> intro site
  · refine relation.andThen (handles.attempts evaluated) ?_
    rintro result _ ⟨rfl, occurs⟩
    rw [options, substitute]
    split
    · split
      · exact handles.failsAt site _ fun place => handles.others _ (by simp) (by simp) (by simp)
      · exact relation.alike_pure _
    · exact relation.alike_pure _
    · split
      · exact relation.alike_pure _
      · exact handles.failsAt site _ fun place => handles.placed place (occurs _ rfl)
    · exact handles.fails _ (occurs _ rfl)
  · refine relation.andThen (handles.attempts evaluated) ?_
    rintro result _ ⟨rfl, occurs⟩
    rw [options]
    split
    · split
      · exact handles.failsAt site _ fun place => handles.others _ (by simp) (by simp) (by simp)
      · exact relation.alike_pure _
    · split
      · exact handles.failsAt site _ fun place => handles.placed place (occurs _ rfl)
      · exact relation.alike_pure _
    · exact handles.fails _ (occurs _ rfl)

end Hosts

end Phrasebook
