import Phrasebook.Proofs.Evaluation.Mirrors

/-! Lenient evaluation with a placeholder passes over all errors of expressions, and expansion over most. -/

namespace Phrasebook

open Evaluation

/-- What lenient evaluation makes of the result of an embedded expression where it has a placeholder. -/
def Embedded.lenientValue (placeholder : String) (embedded : Embedded) :
    Except TemplateError Value → Except TemplateError Value
  -- Null and errors of expressions give way to the placeholder, which may quote the expression.
  | .ok .null => .ok (.str (replaceText placeholder "$\x7bpath\x7d" embedded.source))
  | .ok value => .ok value
  | .error (.expression _ _) => .ok (.str (replaceText placeholder "$\x7bpath\x7d" embedded.source))
  | .error error => .error error

/-- What lenient evaluation makes of the result of a condition. -/
def lenientTruth : Except TemplateError Value → Except TemplateError Bool
  -- A condition that fails does not hold.
  | .ok value => .ok value.truthy
  | .error (.expression _ _) => .ok false
  | .error error => .error error

/-- What lenient evaluation makes of an embedded expression is no error of an expression. -/
theorem Embedded.isExpression_of_lenientValue {placeholder : String} {embedded : Embedded}
    {result : Except TemplateError Value} {error : TemplateError}
    (failed : embedded.lenientValue placeholder result = .error error) : error.isExpression = false := by
  rcases result with raised | value
  · cases raised <;> cases failed <;> rfl
  · cases value <;> cases failed

/-- What lenient evaluation makes of a condition is no error of an expression. -/
theorem isExpression_of_lenientTruth {result : Except TemplateError Value} {error : TemplateError}
    (failed : lenientTruth result = .error error) : error.isExpression = false := by
  rcases result with raised | value
  · cases raised <;> cases failed <;> rfl
  · cases failed

/-- Whether no argument of a template call fails as an expression, wherever the expansion of a template leads to. -/
structure Environment.ArgumentsSucceed (environment : Environment) (root : String × Scope) : Prop where
  /-- Arguments do not fail, once values have taken the place of the calls of templates in them. -/
  values : ∀ caller, Relation.ReflTransGen environment.Enters root caller → ∀ name args, environment.Holds caller.1 name args →
    isTemplateCall environment name = true → ∀ arg ∈ args, ∀ copy, arg.Fills environment copy →
      ∀ error, environment.Yields caller.2 copy (.error error) → error.isExpression = false
  /-- The function that takes a template's name is told a text. -/
  targets : ∀ caller, Relation.ReflTransGen environment.Enters root caller → ∀ name args values,
    environment.Passes caller name args values → ∃ target rest, targetOf name values = .ok (target, rest)

section Lenience

variable {environment : Environment} {placeholder : String} (lenient : environment.options.isStrict = false)
  (written : environment.options.placeholder = some placeholder) {calls : Calls Evaluation} {scope : Scope}

/-- Evaluations that end alike, and never fail as an expression does. -/
abbrev lenience : Congruence Evaluation Evaluation :=
  -- All other errors may occur.
  endsAmong fun error => error.isExpression = false

include lenient

/-- A condition that fails counts as one that does not hold. -/
theorem ending_evalCondition (condition : Embedded) (site : Site) (stack : CallStack) (picks : List Nat) :
    (evalCondition environment calls condition scope site).ending stack picks =
      let run := (condition.expression.eval (hostOf environment calls) scope).ending stack picks
      ⟨lenientTruth run.result, run.stack, run.left⟩ := by
  dsimp only
  rw [evalCondition, ending_bind, ending_attempt]
  dsimp only
  generalize ((condition.expression.eval (hostOf environment calls) scope).ending stack picks).result = result
  rcases result with error | value
  · cases error <;> simp [lenient, lenientTruth]
  · simp [lenient, lenientTruth]

include written

/-- Null and a failure give way to the placeholder. -/
theorem ending_evalEmbedded (embedded : Embedded) (site : Site) (stack : CallStack) (picks : List Nat) :
    (evalEmbedded environment calls embedded scope site).ending stack picks =
      let run := (embedded.expression.eval (hostOf environment calls) scope).ending stack picks
      ⟨embedded.lenientValue placeholder run.result, run.stack, run.left⟩ := by
  have substitute : environment.substitute? embedded =
      some (.str (replaceText placeholder "$\x7bpath\x7d" embedded.source)) := by
    rw [Environment.substitute?, written, Option.map_some]
  dsimp only
  rw [evalEmbedded, ending_bind, ending_attempt]
  dsimp only
  generalize ((embedded.expression.eval (hostOf environment calls) scope).ending stack picks).result = result
  rcases result with error | value
  · cases error <;> simp [lenient, substitute, Embedded.lenientValue]
  · cases value <;> simp [lenient, substitute, Embedded.lenientValue]

/-- Embedded expressions never fail as expressions. -/
theorem lenience_embeds (embedded : Embedded) :
    lenience.EmbedsAlike environment environment calls calls scope scope embedded := by
  constructor <;> refine fun site => endsAmong_refl fun stack picks error failed => ?_
  · rw [ending_evalEmbedded lenient written] at failed
    exact Embedded.isExpression_of_lenientValue failed
  · rw [ending_evalCondition lenient] at failed
    exact isExpression_of_lenientTruth failed

omit lenient written

/-- A result that is no error of an expression is taken over. -/
theorem lenience_ofExcept {α : Type} {result : Except TemplateError α}
    (kind : ∀ error, result = .error error → error.isExpression = false) :
    lenience.Related (fun value₁ value₂ => value₁ = value₂ ∧ result = .ok value₁)
      (Evaluating.ofExcept result : Evaluation α) (Evaluating.ofExcept result) := by
  intro stack picks
  refine ⟨result, result, stack, picks, ending_ofExcept stack picks result, ending_ofExcept stack picks result, ?_, kind⟩
  cases result with
  | ok value => exact .ok ⟨rfl, rfl⟩
  | error error => exact .error error

/-- An unknown template is no error of an expression. -/
theorem isExpression_of_lookup {name : String} {error : TemplateError} (failed : environment.lookup name = .error error) :
    error.isExpression = false := by
  unfold Environment.lookup at failed
  split at failed <;> cases failed
  rfl

/-- A wrong number of arguments is no error of an expression. -/
theorem isExpression_of_bindArguments {template : Template} {values : List Value} {error : TemplateError}
    (failed : bindArguments template values scope = .error error) : error.isExpression = false := by
  unfold bindArguments at failed
  split at failed
  · cases failed
  · split at failed <;> cases failed
    rfl

/-- A template that is called with arguments fails as an expression only if it does in the scope in which it runs. -/
theorem lenience_expandCall {expansion : Expansion Evaluation} (name : String) (values : List Value)
    (expanded : ∀ template bound, environment.lookup (splitRerun name).1 = .ok template →
      bindArguments template values scope = .ok bound → lenience.Alike (expansion name bound) (expansion name bound)) :
    lenience.Alike (expandCall ⟨environment, calls, expansion⟩ name values scope)
      (expandCall ⟨environment, calls, expansion⟩ name values scope) := by
  refine Congruence.andThen _ (lenience_ofExcept fun error => isExpression_of_lookup) ?_
  rintro template _ ⟨rfl, found⟩
  refine Congruence.andThen _ (lenience_ofExcept fun error => isExpression_of_bindArguments) ?_
  rintro bound _ ⟨rfl, binds⟩
  exact expanded template bound found binds

/-- A template that is found and does not run yet fails as an expression only if what is done with it does. -/
theorem lenience_entered {α : Type} (name : String) {next : Template → Evaluation α}
    (entered : ∀ template, environment.lookup name = .ok template → lenience.Alike (next template) (next template)) :
    lenience.Alike
      (Evaluating.ofExcept (environment.lookup name) >>= fun template => Evaluating.checkLoop name >>= fun _ => next template)
      (Evaluating.ofExcept (environment.lookup name) >>= fun template => Evaluating.checkLoop name >>= fun _ => next template) := by
  refine Congruence.andThen _ (lenience_ofExcept fun error => isExpression_of_lookup) ?_
  rintro template _ ⟨rfl, found⟩
  refine Congruence.alike_bind _ (endsAmong_refl fun stack picks error failed => ?_) fun _ => entered template found
  rw [ending_checkLoop] at failed
  dsimp only at failed
  split at failed <;> cases failed
  rfl

/-- A template fails as an expression only if its body does. -/
theorem lenience_withFrame {α : Type} {name : String} {body : Evaluation α} (ran : lenience.Alike body body) :
    lenience.Alike (Evaluating.withFrame name body) (Evaluating.withFrame name body) := by
  refine endsAmong_refl fun stack picks error failed => ?_
  rw [ending_withFrame] at failed
  exact may_of_alike ran failed

include lenient written

/-- A template that is evaluated by name never fails as an expression. -/
theorem lenience_evalTemplate (name : String) (scope : Scope) :
    lenience.Alike (evalTemplate environment calls name scope : Evaluation Value)
      (evalTemplate environment calls name scope) := by
  unfold evalTemplate
  obtain ⟨base, rerun⟩ := splitRerun name
  refine lenience_entered base fun template _ => ?_
  have framed : lenience.Alike (Evaluating.withFrame base (evalBody environment calls scope template.body))
      (Evaluating.withFrame base (evalBody environment calls scope template.body)) :=
    lenience_withFrame (evalBody_alike template.body (fun candidates _ => endsAmong_picks candidates)
      fun embedded _ => lenience_embeds lenient written embedded)
  refine Congruence.alike_bind _ (endsAmong_refl (by simp)) fun stack => ?_
  cases rerun with
  | true => exact framed
  | false =>
    cases stack.cached? ⟨base, scope.fingerprint⟩ with
    | some value => exact Congruence.alike_pure _ value
    | none =>
      refine Congruence.alike_bind _ framed fun value => ?_
      exact Congruence.alike_bind _ (endsAmong_change _) fun _ => Congruence.alike_pure _ value

omit lenient written

/-- An argument that does not fail as an expression has a value that it can come to. -/
theorem lenience_evalArgument {limit : Nat} (copy : Expression) (site : Site)
    (succeeds : ∀ error, environment.Yields scope copy (.error error) → error.isExpression = false) :
    lenience.Related (fun value₁ value₂ => value₁ = value₂ ∧ environment.Yields scope copy (.ok value₁))
      (evalArgument environment (callsWithin limit environment) copy scope site : Evaluation Value)
      (evalArgument environment (callsWithin limit environment) copy scope site) := by
  have evaluated : lenience.Related (fun result₁ result₂ => result₁ = result₂ ∧ environment.Yields scope copy result₁)
      (Evaluating.attempt (copy.eval (hostOf environment (callsWithin limit environment)) scope) : Evaluation _)
      (Evaluating.attempt (copy.eval (hostOf environment (callsWithin limit environment)) scope)) := by
    intro stack picks
    rw [ending_attempt]
    refine ⟨_, _, _, _, rfl, rfl, .ok ⟨rfl, limit, stack, picks, rfl⟩, ?_⟩
    intro error failed
    cases failed
  refine Congruence.andThen _ evaluated ?_
  rintro result _ ⟨rfl, yields⟩
  cases result with
  | ok value => exact Congruence.done _ ⟨rfl, yields⟩
  | error error =>
    -- The error is raised again at its place.
    intro stack picks
    refine ⟨_, _, _, _, rfl, rfl, .error _, ?_⟩
    rintro _ ⟨rfl⟩
    rw [TemplateError.isExpression_withPlace]
    exact succeeds error yields

include lenient written

/-- No expansion within a bound fails as an expression if no argument does that it leads to. -/
theorem lenience_expansionWithin {root : String × Scope} (succeeds : environment.ArgumentsSucceed root) (limit : Nat) :
    ∀ name scope, Relation.ReflTransGen environment.Enters root ((splitRerun name).1, scope) →
      lenience.Alike (expansionWithin environment limit name scope) (expansionWithin environment limit name scope) := by
  induction limit with
  | zero => exact fun name scope _ => endsAmong_refl (by rintro stack picks _ ⟨⟩; rfl)
  | succ limit expanded =>
    intro name scope reached
    rw [expansionWithin_succ]
    refine lenience_entered (splitRerun name).1 fun template found => lenience_withFrame ?_
    have known := Expression.allCalls_of_calls fun embedded among called args node =>
      (⟨template, get?_of_lookup found, embedded, among, node⟩ : environment.Holds (splitRerun name).1 called args)
    -- A template that is called is entered in the scope that binds the arguments.
    have called (callee : String) (args : List Expression) (values : List Value) (target : String) (rest : List Value)
        (passes : environment.Passes ((splitRerun name).1, scope) callee args values)
        (told : targetOf callee values = .ok (target, rest)) :
        lenience.Alike
          (expandCall ⟨environment, callsWithin limit environment, expansionWithin environment limit⟩ target rest scope)
          (expandCall ⟨environment, callsWithin limit environment, expansionWithin environment limit⟩ target rest scope) :=
      lenience_expandCall target rest fun template bound found binds => expanded target bound
        (reached.tail ⟨callee, args, values, target, rest, template, passes, told, found, rfl, binds⟩)
    have delegates : lenience.DelegatesAlike environment environment (callsWithin limit environment) (callsWithin limit environment)
        (expansionWithin environment limit) (expansionWithin environment limit) scope
        (environment.Holds (splitRerun name).1) fun copy value => environment.Yields scope copy (.ok value) := by
      refine ⟨rfl, fun embedded _ => lenience_embeds lenient written embedded,
        fun callee args holds calls arg inside copy site filled _ => ?_,
        fun callee args values error passes function failed => ?_, fun callee args values passes other => ?_,
        fun callee args values target rest passes function told => ?_⟩
      · exact lenience_evalArgument copy site (succeeds.values _ reached callee args holds calls arg inside copy filled)
      · obtain ⟨target, rest, told⟩ := succeeds.targets _ reached callee args values passes
        rw [targetOf, if_pos function, failed] at told
        cases told
      · exact called callee args values callee values passes (by rw [targetOf, if_neg other])
      · exact called callee args values target rest passes (by rw [targetOf, if_pos function, told])
    exact expandBody_alike delegates template.body known fun guard _ => lenience_embeds lenient written guard

/--
Lenient evaluation with a placeholder fails for no expression.

At any depth, the placeholder stands for null and for a failing expression, and a failing condition does not hold.
Nor does expansion fail for an expression, except for an argument of a call of a template.
-/
theorem evaluate_expand_ne_expression (name : String) (scope : Scope) (stack : CallStack) (picks : List Nat) :
    (∀ place cause, ((evaluate environment name scope).ending stack picks).result ≠ .error (.expression place cause)) ∧
      (∀ limit embedded scope site stack picks,
        let calls : Calls Evaluation := callsWithin limit environment
        let run := (embedded.expression.eval (hostOf environment calls) scope).ending stack picks
        (evalEmbedded environment calls embedded scope site).ending stack picks =
            ⟨embedded.lenientValue placeholder run.result, run.stack, run.left⟩ ∧
          (evalCondition environment calls embedded scope site).ending stack picks =
            ⟨lenientTruth run.result, run.stack, run.left⟩) ∧
      (environment.ArgumentsSucceed ((splitRerun name).1, scope) → ∀ place cause,
        ((expand environment name scope).ending stack picks).result ≠ .error (.expression place cause)) := by
  have evaluated : lenience.Alike (evaluate environment name scope) (evaluate environment name scope) := by
    refine Congruence.alike_bind _ ?_ fun value => Congruence.alike_pure _ _
    cases environment.depthLimit with
    | zero => exact endsAmong_refl (by rintro stack picks _ ⟨⟩; rfl)
    | succ limit => exact lenience_evalTemplate lenient written name scope
  refine ⟨fun place cause failed => ?_, fun limit embedded scope site stack picks => ?_, fun succeeds place cause failed => ?_⟩
  · exact absurd (may_of_alike evaluated failed) (by simp [TemplateError.isExpression])
  · exact ⟨ending_evalEmbedded lenient written embedded site stack picks, ending_evalCondition lenient embedded site stack picks⟩
  · have expanded : lenience.Alike (expand environment name scope) (expand environment name scope) :=
      Congruence.alike_bind _ (lenience_expansionWithin lenient written succeeds environment.depthLimit name scope .refl)
        fun values => Congruence.alike_pure _ _
    exact absurd (may_of_alike expanded failed) (by simp [TemplateError.isExpression])

end Lenience

/-- Whether a call of a template names it and passes nothing but chains of members, if an expression is one. -/
def Environment.PassesChains (environment : Environment) : Expression → Prop
  -- Chains of members never fail.
  | .call name args => isTemplateCall environment name = true →
    (splitRerun name).1 ≠ "template" ∧ ∀ arg ∈ args, arg.staticPath?.isSome = true
  | _ => True

instance (environment : Environment) : DecidablePred environment.PassesChains
  | .call name args => inferInstanceAs (Decidable (isTemplateCall environment name = true →
      (splitRerun name).1 ≠ "template" ∧ ∀ arg ∈ args, arg.staticPath?.isSome = true))
  | .literal _ | .variable _ | .member _ _ | .index _ _ | .array _ | .object _ | .unary _ _ | .binary _ _ _ => .isTrue trivial

/-- A chain of members has no calls that values could take the place of. -/
theorem Expression.Fills.eq_of_staticPath {environment : Environment} {chain copy : Expression}
    (isChain : chain.staticPath?.isSome = true) (filled : chain.Fills environment copy) : copy = chain := by
  -- Each member stands behind a shorter chain.
  induction chain using staticPath?.induct generalizing copy with
  | case1 name =>
    cases filled
    rfl
  | case2 target property shorter =>
    cases filled with
    | same => rfl
    | member filled => rw [shorter (by simpa [staticPath?] using isChain) filled]
  | case3 other noVariable noMember => simp [staticPath?] at isChain

/-- Where templates are called by name and with chains of members only, no argument fails. -/
theorem Environment.argumentsSucceed_of_chains {environment : Environment}
    (chains : ∀ entry ∈ environment.registry, ∀ embedded ∈ entry.2.expressions, ∀ node ∈ embedded.expression.nodes,
      environment.PassesChains node) (root : String × Scope) : environment.ArgumentsSucceed root := by
  have plain {caller name : String} {args : List Expression} (holds : environment.Holds caller name args) :
      environment.PassesChains (.call name args) := by
    obtain ⟨template, defined, embedded, among, node⟩ := holds
    exact chains (caller, template) (SortedMap.mem_of_get? defined) embedded among _ node
  constructor
  · intro caller _ name args holds calls arg inside copy filled error yields
    have isChain := (plain holds calls).2 arg inside
    obtain rfl := filled.eq_of_staticPath isChain
    obtain ⟨limit, stack, picks, failed⟩ := yields
    rw [Expression.eval_of_staticPath _ _ _ isChain] at failed
    cases failed
  · intro caller _ name args values passes
    exact ⟨name, values, by rw [targetOf, if_neg (plain passes.1 passes.2.1).1]⟩

/-- A template that subtracts what it is told from a number, and one that passes on what is in the data. -/
def courteous : Collection :=
  -- Texts and absent data are no numbers.
  .ofText "> !# @replaceNull = ?\n# greet(n)\n- hi $\x7b1 - n\x7d\n\n# t\n- $\x7bgreet(who.name)\x7d, $\x7bnobody\x7d"

/-- The data of the one that passes something on. -/
def courteousData : Scope :=
  -- The name is no number.
  .ofValue (.obj [("who", .obj [("name", .str "x")])])

/-- Failures in a template that is called, and data that are absent, are passed over. -/
theorem courteous_ne_expression :
    Environment.of courteous {} {} [] = .ok courteous.alone ∧ courteous.alone.options.isStrict = false ∧
      courteous.alone.options.placeholder = some "?" ∧
      courteous.alone.ArgumentsSucceed ((splitRerun "t").1, courteousData) ∧
      ((evaluate courteous.alone "t" courteousData).ending {} []).result.toOption.map Value.text = some "hi ?, ?" ∧
      (∀ place cause, ((evaluate courteous.alone "t" courteousData).ending {} []).result ≠ .error (.expression place cause)) ∧
      ∀ place cause, ((expand courteous.alone "t" courteousData).ending {} []).result ≠ .error (.expression place cause) := by
  have lenient : courteous.alone.options.isStrict = false := by decide +kernel
  have written : courteous.alone.options.placeholder = some "?" := by decide +kernel
  have succeeds : courteous.alone.ArgumentsSucceed ((splitRerun "t").1, courteousData) :=
    Environment.argumentsSucceed_of_chains (by decide +kernel) _
  obtain ⟨evaluated, -, expanded⟩ := evaluate_expand_ne_expression lenient written "t" courteousData {} []
  exact ⟨Collection.alone_eq (by decide +kernel), lenient, written, succeeds, by decide +kernel, evaluated, expanded succeeds⟩

/-- A template that passes on a difference which fails. -/
def blunt : Collection :=
  -- There is a placeholder for it.
  .ofText "> !# @replaceNull = ?\n# greet(n)\n- hi $\x7bn\x7d\n\n# t\n- $\x7bgreet(1 - 'x')\x7d"

/-- Expansion fails for an argument where evaluation has a placeholder. -/
theorem blunt_expand_fails :
    Environment.of blunt {} {} [] = .ok blunt.alone ∧ blunt.alone.options.isStrict = false ∧
      blunt.alone.options.placeholder = some "?" ∧
      ((evaluate blunt.alone "t" (.ofValue .null)).ending {} []).result.toOption.map Value.text = some "?" ∧
      ∃ place cause, ((expand blunt.alone "t" (.ofValue .null)).ending expansionStack []).result =
        .error (.expression place cause) := by
  have failed : (match ((expand blunt.alone "t" (.ofValue .null)).ending expansionStack []).result with
      | .ok _ => false
      | .error error => error.isExpression) = true := by
    decide +kernel
  refine ⟨Collection.alone_eq (by decide +kernel), by decide +kernel, by decide +kernel, by decide +kernel, ?_⟩
  generalize ((expand blunt.alone "t" (.ofValue .null)).ending expansionStack []).result = result at failed
  rcases result with error | values
  · cases error with
    | expression place cause => exact ⟨place, cause, rfl⟩
    | _ => cases failed
  · cases failed

end Phrasebook
