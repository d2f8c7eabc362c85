import Phrasebook.Proofs.Evaluation.Failures
import Phrasebook.Proofs.Evaluation.Termination

/-! Two evaluations can go hand in hand although the outermost template has another name in each of them. -/

namespace Phrasebook

/-- Whether an error is one of an expression, which lenient evaluation may pass over. -/
def TemplateError.isExpression : TemplateError → Bool
  -- All other errors end an evaluation.
  | .expression _ _ => true
  | _ => false

/-- An error stays what it is when it gets a place. -/
theorem TemplateError.isExpression_withPlace (error : TemplateError) (place : Place) :
    (error.withPlace place).isExpression = error.isExpression := by
  unfold withPlace
  split <;> rfl

/-- Results that match: values that agree, or two errors of which both or neither are of expressions. -/
inductive ResultsMatch {α β : Type} (Agree : α → β → Prop) : Except TemplateError α → Except TemplateError β → Prop where
  /-- Two values agree. -/
  | ok {value₁ : α} {value₂ : β} (agree : Agree value₁ value₂) : ResultsMatch Agree (.ok value₁) (.ok value₂)
  /-- Two errors are treated alike. -/
  | error {error₁ error₂ : TemplateError} (kind : error₁.isExpression = error₂.isExpression) :
    ResultsMatch Agree (.error error₁) (.error error₂)

/-- Results that match give the same value, if any. -/
theorem ResultsMatch.ok_iff {α : Type} {result₁ result₂ : Except TemplateError α}
    (same : ResultsMatch (· = ·) result₁ result₂) (value : α) : result₁ = .ok value ↔ result₂ = .ok value := by
  cases same with
  | ok agree => rw [agree]
  | error kind => exact ⟨nofun, nofun⟩

namespace CallStack

variable {name₁ name₂ : String} {first second : CallStack}

/-- Two stacks mirror each other if they differ in nothing but the name of the outermost template. -/
structure Mirrors (name₁ name₂ : String) (first second : CallStack) : Prop where
  /-- Both keep results, or neither does. -/
  memoized : first.memoized = second.memoized
  /-- The other templates are the same, and so are all results that are kept. -/
  frames : ∃ inner memo, first.frames = inner ++ [⟨name₁, memo⟩] ∧ second.frames = inner ++ [⟨name₂, memo⟩]

namespace Mirrors

variable (mirror : Mirrors name₁ name₂ first second)

include mirror

/-- The same results are found again. -/
theorem cached? (key : MemoKey) : first.cached? key = second.cached? key := by
  obtain ⟨inner, memo, frames₁, frames₂⟩ := mirror.frames
  simp only [CallStack.cached?, mirror.memoized, frames₁, frames₂]
  cases inner <;> rfl

/-- Other templates run on both stacks, or on neither. -/
theorem mem_names {name : String} (other : name ≠ name₁ ∧ name ≠ name₂) : name ∈ first.names ↔ name ∈ second.names := by
  obtain ⟨inner, memo, frames₁, frames₂⟩ := mirror.frames
  simp [names, frames₁, frames₂, other.1, other.2]

/-- A template may start to run on both. -/
theorem push (name : String) : Mirrors name₁ name₂ (first.push name) (second.push name) := by
  obtain ⟨inner, memo, frames₁, frames₂⟩ := mirror.frames
  exact ⟨mirror.memoized, ⟨name, []⟩ :: inner, memo, by simp [CallStack.push, frames₁], by simp [CallStack.push, frames₂]⟩

/-- A template that is not the outermost may end on both. -/
theorem pop (deep : 1 < first.names.length) : Mirrors name₁ name₂ first.pop second.pop := by
  obtain ⟨inner, memo, frames₁, frames₂⟩ := mirror.frames
  cases inner with
  | nil => simp [names, frames₁] at deep
  | cons top inner => exact ⟨mirror.memoized, inner, memo, by simp [CallStack.pop, frames₁], by simp [CallStack.pop, frames₂]⟩

/-- A result may be kept on both. -/
theorem store (key : MemoKey) (value : Value) : Mirrors name₁ name₂ (first.store key value) (second.store key value) := by
  obtain ⟨inner, memo, frames₁, frames₂⟩ := mirror.frames
  have memoized := mirror.memoized
  rw [CallStack.store, CallStack.store, memoized, frames₁, frames₂]
  split
  · cases inner with
    | nil => exact ⟨rfl, [], (key, value) :: memo, rfl, rfl⟩
    | cons top inner => exact ⟨rfl, { top with memo := (key, value) :: top.memo } :: inner, memo, rfl, rfl⟩
  · exact mirror

/-- Some template runs. -/
theorem length_pos : 0 < first.names.length := by
  obtain ⟨inner, memo, frames₁, _⟩ := mirror.frames
  simp [names, frames₁]

end Mirrors

end CallStack

section Mirroring

open Evaluation

variable {α β γ δ : Type} {name₁ name₂ : String}

/-- From stacks that mirror each other, two computations come to results that match, on stacks that mirror each other. -/
def RunsMatch (name₁ name₂ : String) (Agree : α → β → Prop) (first : Evaluation α) (second : Evaluation β) : Prop :=
  -- The same templates run afterwards, and the same picks are left over.
  ∀ start₁ start₂ picks, start₁.Mirrors name₁ name₂ start₂ → ∃ result₁ result₂ now₁ now₂ left,
    first.ending start₁ picks = ⟨result₁, now₁, left⟩ ∧ second.ending start₂ picks = ⟨result₂, now₂, left⟩ ∧
      ResultsMatch Agree result₁ result₂ ∧ now₁.names = start₁.names ∧ now₁.Mirrors name₁ name₂ now₂

/-- Running hand in hand is respected by doing one after another. -/
def mirroring (name₁ name₂ : String) : Congruence Evaluation Evaluation where
  Related := RunsMatch name₁ name₂
  done agree start₁ start₂ picks mirror := ⟨_, _, start₁, start₂, picks, rfl, rfl, .ok agree, rfl, mirror⟩
  andThen := by
    intro α β γ δ Agree Goal first₁ first₂ next₁ next₂ first next start₁ start₂ picks mirror
    obtain ⟨result₁, result₂, now₁, now₂, left, ends₁, ends₂, same, names, mirror⟩ := first start₁ start₂ picks mirror
    rw [ending_bind, ending_bind, ends₁, ends₂]
    cases same with
    | error kind => exact ⟨_, _, now₁, now₂, left, rfl, rfl, .error kind, names, mirror⟩
    | ok agree =>
      obtain ⟨result₁', result₂', later₁, later₂, left', ends₁', ends₂', same', names', mirror'⟩ :=
        next _ _ agree now₁ now₂ left mirror
      exact ⟨result₁', result₂', later₁, later₂, left', ends₁', ends₂', same', names'.trans names, mirror'⟩

/-- Errors that are treated alike match. -/
theorem mirroring_fails {Agree : α → β → Prop} {error₁ error₂ : TemplateError}
    (kind : error₁.isExpression = error₂.isExpression) :
    (mirroring name₁ name₂).Related Agree (Evaluating.fail error₁) (Evaluating.fail error₂) :=
  fun start₁ start₂ picks mirror => ⟨_, _, start₁, start₂, picks, rfl, rfl, .error kind, rfl, mirror⟩

/-- Results that match can be handed on as values. -/
theorem mirroring_attempts {first second : Evaluation α} (body : (mirroring name₁ name₂).Alike first second) :
    (mirroring name₁ name₂).Related (ResultsMatch (· = ·)) (Evaluating.attempt first) (Evaluating.attempt second) := by
  intro start₁ start₂ picks mirror
  obtain ⟨result₁, result₂, now₁, now₂, left, ends₁, ends₂, same, names, mirror⟩ := body start₁ start₂ picks mirror
  rw [ending_attempt, ending_attempt, ends₁, ends₂]
  exact ⟨_, _, now₁, now₂, left, rfl, rfl, .ok same, names, mirror⟩

/-- Failing with an error at a place matches failing with one of its kind, although the places have different names. -/
theorem mirroring_failsAt {Agree : α → β → Prop} (site : Site) (error₁ error₂ : Place → TemplateError)
    (kind : ∀ place₁ place₂, (error₁ place₁).isExpression = (error₂ place₂).isExpression) :
    (mirroring name₁ name₂).Related Agree (Evaluating.placeOf site >>= fun place => Evaluating.fail (error₁ place))
      (Evaluating.placeOf site >>= fun place => Evaluating.fail (error₂ place)) := by
  intro start₁ start₂ picks mirror
  exact ⟨_, _, start₁, start₂, picks, rfl, rfl, .error (kind _ _), rfl, mirror⟩

/-- Errors of expressions match when they get their places. -/
theorem mirroring_placed {Agree : α → β → Prop} (site : Site) (place₁ place₂ : Option Place) (cause₁ cause₂ : Cause) :
    (mirroring name₁ name₂).Related Agree
      (Evaluating.placeOf site >>= fun here => Evaluating.fail ((TemplateError.expression place₁ cause₁).withPlace here))
      (Evaluating.placeOf site >>= fun here => Evaluating.fail ((TemplateError.expression place₂ cause₂).withPlace here)) :=
  mirroring_failsAt site _ _ fun _ _ => by rw [TemplateError.isExpression_withPlace, TemplateError.isExpression_withPlace]; rfl

/-- The same picks take the same alternative. -/
theorem mirroring_picks (candidates : List TemplateText) : (mirroring name₁ name₂).PicksAlike candidates := by
  intro start₁ start₂ picks mirror
  rw [ending_pickOne, ending_pickOne]
  exact ⟨_, _, _, _, _, rfl, rfl, .ok ⟨rfl, fun text taken => mem_of_pickAmong taken⟩, rfl, mirror⟩

/-- Both stacks give the same results again. -/
theorem mirroring_stack : (mirroring name₁ name₂).Related (fun stack₁ stack₂ => ∀ key, stack₁.cached? key = stack₂.cached? key)
    (Evaluating.stack : Evaluation CallStack) (Evaluating.stack : Evaluation CallStack) :=
  fun start₁ start₂ picks mirror => ⟨_, _, start₁, start₂, picks, rfl, rfl, .ok mirror.cached?, rfl, mirror⟩

/-- A result is kept on both stacks. -/
theorem mirroring_store (key : MemoKey) (value : Value) : (mirroring name₁ name₂).Alike
    (Evaluating.change (·.store key value) : Evaluation Unit) (Evaluating.change (·.store key value)) :=
  fun _ _ _ mirror => ⟨_, _, _, _, _, rfl, rfl, .ok rfl, CallStack.names_store _ key value, mirror.store key value⟩

/-- Another template than the outermost runs on both stacks, or on neither. -/
theorem mirroring_checkLoop {name : String} (other : name ≠ name₁ ∧ name ≠ name₂) :
    (mirroring name₁ name₂).Alike (Evaluating.checkLoop name : Evaluation Unit) (Evaluating.checkLoop name) := by
  intro start₁ start₂ picks mirror
  rw [ending_checkLoop, ending_checkLoop]
  refine ⟨_, _, start₁, start₂, picks, rfl, rfl, ?_, rfl, mirror⟩
  simp only [mirror.mem_names other]
  split
  · exact .error rfl
  · exact .ok rfl

/-- Computations that run hand in hand do so inside a frame. -/
theorem mirroring_withFrame (name : String) {first second : Evaluation α} (body : (mirroring name₁ name₂).Alike first second) :
    (mirroring name₁ name₂).Alike (Evaluating.withFrame name first) (Evaluating.withFrame name second) := by
  intro start₁ start₂ picks mirror
  obtain ⟨result₁, result₂, now₁, now₂, left, ends₁, ends₂, same, names, mirror'⟩ :=
    body _ _ picks (mirror.push name)
  rw [ending_withFrame, ending_withFrame, ends₁, ends₂]
  have deep : 1 < now₁.names.length := by
    rw [names, CallStack.names_push, List.length_cons]
    exact Nat.succ_lt_succ mirror.length_pos
  refine ⟨result₁, result₂, now₁.pop, now₂.pop, left, rfl, rfl, same, ?_, mirror'.pop deep⟩
  -- The frame is the one that is taken off.
  have beneath : now₁.pop.names = now₁.names.tail := by simp [CallStack.pop, CallStack.names]
  rw [beneath, names, CallStack.names_push, List.tail_cons]

section Templates

variable {environment₁ environment₂ : Environment} {calls₁ calls₂ : Calls Evaluation} {scope₁ scope₂ scope : Scope}

/-- An expression that is evaluated hand in hand is embedded so, under the same options. -/
theorem mirroring_embeds (options : environment₁.options = environment₂.options) (embedded : Embedded)
    (evaluated : (mirroring name₁ name₂).Alike (embedded.expression.eval (hostOf environment₁ calls₁) scope₁)
      (embedded.expression.eval (hostOf environment₂ calls₂) scope₂)) :
    (mirroring name₁ name₂).EmbedsAlike environment₁ environment₂ calls₁ calls₂ scope₁ scope₂ embedded := by
  have substitute : environment₁.substitute? embedded = environment₂.substitute? embedded := by
    simp only [Environment.substitute?, options]
  -- Errors of expressions get their places, and all other errors are raised again.
  constructor <;> intro site <;> refine Congruence.andThen _ (mirroring_attempts evaluated) fun result₁ result₂ same => ?_
  · cases same with
    | @ok value _ agree =>
      subst agree
      cases value with
      | null =>
        dsimp only
        rw [options, substitute]
        split
        · exact mirroring_failsAt site _ _ fun _ _ => rfl
        · exact Congruence.alike_pure _ _
      | _ => exact Congruence.alike_pure _ _
    | @error error₁ error₂ kind =>
      cases error₁ with
      | expression place₁ cause₁ =>
        cases error₂ with
        | expression place₂ cause₂ =>
          dsimp only
          rw [options, substitute]
          split
          · exact Congruence.alike_pure _ _
          · exact mirroring_placed site place₁ place₂ cause₁ cause₂
        | _ => cases kind
      | _ =>
        cases error₂ with
        | expression => cases kind
        | _ => exact mirroring_fails rfl
  · cases same with
    | @ok value _ agree =>
      subst agree
      dsimp only
      rw [options]
      split
      · exact mirroring_failsAt site _ _ fun _ _ => rfl
      · exact Congruence.alike_pure _ _
    | @error error₁ error₂ kind =>
      cases error₁ with
      | expression place₁ cause₁ =>
        cases error₂ with
        | expression place₂ cause₂ =>
          dsimp only
          rw [options]
          split
          · exact mirroring_placed site place₁ place₂ cause₁ cause₂
          · exact Congruence.alike_pure _ _
        | _ => cases kind
      | _ =>
        cases error₂ with
        | expression => cases kind
        | _ => exact mirroring_fails rfl

/-- A name that both environments resolve alike is looked up alike. -/
theorem mirroring_lookup {name : String} (same : environment₁.registry.get? name = environment₂.registry.get? name) :
    (mirroring name₁ name₂).Related
      (fun template₁ template₂ => template₁ = template₂ ∧ environment₂.registry.get? name = some template₁)
      (Evaluating.ofExcept (environment₁.lookup name)) (Evaluating.ofExcept (environment₂.lookup name)) := by
  unfold Environment.lookup
  rw [same]
  cases environment₂.registry.get? name with
  | none => exact mirroring_fails rfl
  | some template => exact Congruence.done _ ⟨rfl, rfl⟩

/-- A result is taken over hand in hand. -/
theorem mirroring_ofExcept (result : Except TemplateError α) :
    (mirroring name₁ name₂).Alike (Evaluating.ofExcept result) (Evaluating.ofExcept result) := by
  cases result with
  | ok value => exact Congruence.alike_pure _ value
  | error error => exact mirroring_fails rfl

/-- A call of a template that both environments resolve alike runs hand in hand if the template does. -/
theorem mirroring_callTemplate {callee : String}
    (same : environment₁.registry.get? (splitRerun callee).1 = environment₂.registry.get? (splitRerun callee).1)
    (called : ∀ bound, (mirroring name₁ name₂).Alike (calls₁.template callee bound) (calls₂.template callee bound))
    (args : List Value) : (mirroring name₁ name₂).Alike (callTemplate environment₁ calls₁ callee args scope)
      (callTemplate environment₂ calls₂ callee args scope) := by
  refine Congruence.andThen _ (mirroring_lookup same) ?_
  rintro template _ ⟨rfl, _⟩
  exact Congruence.alike_bind _ (mirroring_ofExcept _) called

/-- Another template than the outermost, resolved alike, is evaluated hand in hand if its body is. -/
theorem mirroring_evalTemplate {callee : String} (other : (splitRerun callee).1 ≠ name₁ ∧ (splitRerun callee).1 ≠ name₂)
    (same : environment₁.registry.get? (splitRerun callee).1 = environment₂.registry.get? (splitRerun callee).1)
    (body : ∀ template, environment₂.registry.get? (splitRerun callee).1 = some template →
      (mirroring name₁ name₂).Alike (evalBody environment₁ calls₁ scope template.body)
        (evalBody environment₂ calls₂ scope template.body)) :
    (mirroring name₁ name₂).Alike (evalTemplate environment₁ calls₁ callee scope)
      (evalTemplate environment₂ calls₂ callee scope) := by
  unfold evalTemplate
  cases parts : splitRerun callee with | mk base rerun =>
  rw [parts] at other same body
  refine Congruence.andThen _ (mirroring_lookup same) ?_
  rintro template _ ⟨rfl, found⟩
  have framed := mirroring_withFrame base (body template found)
  refine Congruence.alike_bind _ (mirroring_checkLoop other) fun _ => ?_
  refine Congruence.andThen _ mirroring_stack fun stack₁ stack₂ kept => ?_
  rw [kept]
  cases rerun with
  | true => exact framed
  | false =>
    cases stack₂.cached? ⟨base, scope.fingerprint⟩ with
    | some value => exact Congruence.alike_pure _ value
    | none =>
      refine Congruence.alike_bind _ framed fun value => ?_
      exact Congruence.alike_bind _ (mirroring_store _ value) fun _ => Congruence.alike_pure _ value

end Templates

end Mirroring

/-- Whether a call of a function may ask for a template, to run it or to tell whether it is there. -/
def mayAsk (name : String) (args : List Expression) (callee : String) : Prop :=
  -- One function only tests for templates.
  mayCall name args callee ∨
    name = "isTemplate" ∧ ∃ target, List.Forall₂ Expression.CanBe args [.str target] ∧ callee = (splitRerun target).1

/-- Whether all that a template leads to stays among templates and built-in functions. -/
def Environment.ContainedFrom (environment : Environment) (root : String) : Prop :=
  -- Files are not included either.
  ∀ caller name args, Relation.ReflTransGen environment.Calls root caller → environment.Holds caller name args →
    environment.Contains name

/-- Whether what a template of one environment leads to is the same in another one, where the template has another name. -/
structure Environment.ResolvesLike (environment₁ environment₂ : Environment) (name₁ name₂ : String) : Prop where
  /-- Calls stay among templates and built-in functions. -/
  contained : environment₂.ContainedFrom name₂
  /-- Whatever is asked for is the same template in both, or missing in both. -/
  resolves : ∀ caller name args callee, Relation.ReflTransGen environment₂.Calls name₂ caller →
    environment₂.Holds caller name args → mayAsk name args callee →
      environment₁.registry.get? callee = environment₂.registry.get? callee
  /-- Neither of the two names is called. -/
  apart : ∀ caller callee, Relation.ReflTransGen environment₂.Calls name₂ caller → environment₂.Calls caller callee →
    callee ≠ name₁ ∧ callee ≠ name₂

/-- Evaluating a template that stays among templates and built-in functions ends long before the bound is reached. -/
theorem ending_evaluateWithin_depthLimit {environment : Environment} {name : String} (contained : environment.ContainedFrom name)
    (unmarked : splitRerun name = (name, false)) (more : Nat) (scope : Scope) (picks : List Nat) :
    Evaluation.ending (evaluateWithin (environment.depthLimit + more) environment name scope) {} picks =
      Evaluation.ending (evaluate environment name scope) {} picks := by
  have start : ({} : CallStack).Sound environment.registry := ⟨List.nodup_nil, by simp [CallStack.names]⟩
  have ample : environment.registry.length + 0 + 2 ≤ environment.depthLimit := by
    rw [Environment.depthLimit]
    omega
  refine (@evaluateWithin_complete environment 0 name ?_ ?_ _ ample more scope _ start picks).1
  · rw [unmarked]
    exact fun caller args reached holds => (contained caller _ args reached holds).1 rfl
  · rw [unmarked]
    rintro caller function reached ⟨other, unknown, args, holds⟩ exporter template ⟨owner, registered, _⟩
    have absent : environment.functions.get? function = none := by
      simpa [other, unknown] using (contained caller function args reached holds).2
    simp [absent] at registered

section Outermost

variable {environment : Environment} {name : String} (unmarked : splitRerun name = (name, false))

include unmarked

/-- Evaluating a template that is missing fails. -/
theorem result_evaluateWithin_of_missing (missing : environment.registry.get? name = none) (limit : Nat) (scope : Scope)
    (picks : List Nat) : (Evaluation.ending (evaluateWithin (limit + 1) environment name scope) {} picks).result =
      .error (environment.missing name) := by
  rw [evaluateWithin, Evaluation.ending_bind, template_callsWithin_succ, ending_evalTemplate, unmarked, Environment.lookup, missing]

/-- Evaluating a template runs its body as the outermost one. -/
theorem result_evaluateWithin_of_defined {template : Template} (defined : environment.registry.get? name = some template)
    (limit : Nat) (scope : Scope) (picks : List Nat) :
    (Evaluation.ending (evaluateWithin (limit + 1) environment name scope) {} picks).result =
      (Evaluation.ending (evalBody environment (callsWithin limit environment) scope template.body) ⟨[⟨name, []⟩], true⟩
        picks).result.map environment.applyLineBreaks := by
  have started : CallStack.push {} name = ⟨[⟨name, []⟩], true⟩ := rfl
  rw [evaluateWithin, Evaluation.ending_bind, template_callsWithin_succ, ending_evalTemplate, unmarked, Environment.lookup,
    defined]
  simp only [CallStack.names, List.map_nil, List.not_mem_nil, if_false, Evaluation.ending_withFrame, started]
  generalize Evaluation.ending (evalBody environment (callsWithin limit environment) scope template.body) _ picks = run
  -- Nothing is kept before the template runs.
  obtain ⟨result, now, left⟩ := run
  cases result <;> rfl

end Outermost

section Simulation

variable {environment₁ environment₂ : Environment} {name₁ name₂ : String}
  (resolves : environment₁.ResolvesLike environment₂ name₁ name₂)

include resolves

/-- What is reached under the one name is the same template as something that is reached under the other name. -/
theorem exists_reached_mirrors (root : environment₁.registry.get? name₁ = environment₂.registry.get? name₂) {caller : String}
    (reached : Relation.ReflTransGen environment₁.Calls name₁ caller) :
    ∃ caller', Relation.ReflTransGen environment₂.Calls name₂ caller' ∧
      environment₁.registry.get? caller = environment₂.registry.get? caller' := by
  induction reached with
  | refl => exact ⟨name₂, .refl, root⟩
  | @tail before callee _ calls ih =>
    obtain ⟨before', reached, same⟩ := ih
    obtain ⟨name, args, ⟨template, found, inside⟩, may⟩ := calls
    have holds : environment₂.Holds before' name args := ⟨template, same ▸ found, inside⟩
    exact ⟨callee, reached.tail ⟨name, args, holds, may⟩, resolves.resolves before' name args callee reached holds (.inl may)⟩

variable (functions : environment₁.functions = environment₂.functions)

include functions

/-- Calls stay among templates and built-in functions in both environments. -/
theorem contained_mirrors (root : environment₁.registry.get? name₁ = environment₂.registry.get? name₂) {caller name : String}
    {args : List Expression} (reached : Relation.ReflTransGen environment₁.Calls name₁ caller)
    (holds : environment₁.Holds caller name args) : environment₁.Contains name := by
  obtain ⟨caller', reached', same⟩ := exists_reached_mirrors resolves root reached
  obtain ⟨template, found, inside⟩ := holds
  have holds' : environment₂.Holds caller' name args := ⟨template, same ▸ found, inside⟩
  obtain ⟨noFile, contained⟩ := resolves.contained caller' name args reached' holds'
  refine ⟨noFile, ?_⟩
  by_cases own : name ∈ templateFunctions
  · exact .inl own
  · have asked : mayAsk name args (splitRerun name).1 := .inl (mayCall_of_not_mem own args)
    rw [Environment.hasTemplate, SortedMap.has_eq_isSome_get?, resolves.resolves caller' name args _ reached' holds' asked,
      ← SortedMap.has_eq_isSome_get?, functions]
    exact contained

variable (options : environment₁.options = environment₂.options)

include options

/-- The body of a template that is reached is evaluated hand in hand if the templates that it calls are. -/
theorem mirroring_body {calls₁ calls₂ : Calls Evaluation} {caller : String}
    (reached : Relation.ReflTransGen environment₂.Calls name₂ caller) {template : Template}
    (found : environment₂.registry.get? caller = some template)
    (called : ∀ callee bound, environment₂.Calls caller (splitRerun callee).1 →
      (mirroring name₁ name₂).Alike (calls₁.template callee bound) (calls₂.template callee bound)) (scope : Scope) :
    (mirroring name₁ name₂).Alike (evalBody environment₁ calls₁ scope template.body)
      (evalBody environment₂ calls₂ scope template.body) := by
  have raised (error : ExpressionError) : (mirroring name₁ name₂).Alike (Evaluating.raise error : Evaluation Value)
      (Evaluating.raise error) := mirroring_fails rfl
  refine evalBody_alike template.body (fun candidates _ => mirroring_picks candidates) fun embedded among => ?_
  refine mirroring_embeds options embedded ?_
  refine Expression.eval_alike _ raised embedded.expression (fun _ _ => rfl) fun name args node => ?_
  have holds : environment₂.Holds caller name args := ⟨template, found, embedded, among, node⟩
  have contained := resolves.contained caller name args reached holds
  -- What is asked for is found in both environments or in neither.
  have same {callee : String} (asked : mayAsk name args callee) :
      environment₁.registry.get? callee = environment₂.registry.get? callee :=
    resolves.resolves caller name args callee reached holds asked
  have has {callee : String} (asked : mayAsk name args (splitRerun callee).1) :
      environment₁.hasTemplate callee = environment₂.hasTemplate callee := by
    rw [Environment.hasTemplate, Environment.hasTemplate, SortedMap.has_eq_isSome_get?, SortedMap.has_eq_isSome_get?, same asked]
  have calling {callee : String} (may : mayCall name args (splitRerun callee).1) (values : List Value) :
      (mirroring name₁ name₂).Alike (callTemplate environment₁ calls₁ callee values scope)
        (callTemplate environment₂ calls₂ callee values scope) :=
    mirroring_callTemplate (same (.inl may)) (fun bound => called callee bound ⟨name, args, holds, may⟩) values
  refine ⟨fun lazy => isNone_own_if lazy (has (.inl ?_)), fun values fit => ?_⟩
  · exact mayCall_of_not_mem (by rw [lazy]; decide) args
  refine hostOf_call_alike (fun other => has (.inl (mayCall_of_not_mem other args))) (fun _ _ => by rw [functions]) ?_ raised ?_ ?_ ?_ ?_
  · rintro tests target rfl
    exact has (.inr ⟨tests, target, fit, rfl⟩)
  · rintro rfl target rest named
    exact calling (mayCall_of_templateTarget fit named) rest
  · rintro rfl
    exact absurd rfl contained.1
  · exact fun other _ => calling (mayCall_of_not_mem other args) values
  · -- No registered function is called.
    intro other unknown function₁ function₂ found₁ found₂
    rw [has (.inl (mayCall_of_not_mem other args))] at unknown
    exact absurd found₂ (not_registered contained.2 other unknown)

/-- Templates that are called by one that is reached run hand in hand within every bound. -/
theorem mirroring_callsWithin (limit : Nat) : ∀ caller callee scope, Relation.ReflTransGen environment₂.Calls name₂ caller →
    environment₂.Calls caller (splitRerun callee).1 →
      (mirroring name₁ name₂).Alike ((callsWithin limit environment₁).template callee scope)
        ((callsWithin limit environment₂).template callee scope) := by
  induction limit with
  | zero => exact fun _ _ _ _ _ => mirroring_fails rfl
  | succ limit deeper =>
    intro caller callee scope reached calls
    have next := reached.tail calls
    obtain ⟨name, args, holds, may⟩ := id calls
    refine mirroring_evalTemplate (resolves.apart caller _ reached calls)
      (resolves.resolves caller name args _ reached holds (.inl may)) fun template found => ?_
    exact mirroring_body resolves functions options next found
      (fun callee' bound calls' => deeper _ callee' bound next calls') scope

/-- Within every bound, a template comes to results that match under both of its names. -/
theorem evaluateWithin_mirrors (root : environment₁.registry.get? name₁ = environment₂.registry.get? name₂)
    (unmarked₁ : splitRerun name₁ = (name₁, false)) (unmarked₂ : splitRerun name₂ = (name₂, false)) (limit : Nat) (scope : Scope)
    (picks : List Nat) :
    ResultsMatch (· = ·) (Evaluation.ending (evaluateWithin limit environment₁ name₁ scope) {} picks).result
      (Evaluation.ending (evaluateWithin limit environment₂ name₂ scope) {} picks).result := by
  cases limit with
  | zero => exact .error rfl
  | succ limit =>
    cases found : environment₂.registry.get? name₂ with
    | none =>
      rw [result_evaluateWithin_of_missing unmarked₁ (root.trans found), result_evaluateWithin_of_missing unmarked₂ found]
      exact .error rfl
    | some template =>
      rw [result_evaluateWithin_of_defined unmarked₁ (root.trans found), result_evaluateWithin_of_defined unmarked₂ found]
      -- The template is the outermost one, and what it calls runs hand in hand.
      obtain ⟨result₁, result₂, _, _, _, ends₁, ends₂, same, -⟩ := mirroring_body resolves functions options .refl found
        (fun callee bound calls => mirroring_callsWithin resolves functions options limit name₂ callee bound .refl calls) scope
        ⟨[⟨name₁, []⟩], true⟩ ⟨[⟨name₂, []⟩], true⟩ picks ⟨rfl, [], [], rfl, rfl⟩
      rw [ends₁, ends₂]
      cases same with
      | error kind => exact .error kind
      | @ok value _ agree =>
        subst agree
        exact .ok (by simp only [Environment.applyLineBreaks, options])

/-- **A template does the same under another name.** Where all that it leads to is found alike in two environments, and nothing
    calls it, it gives the same values in both, and fails in both or in neither. -/
theorem evaluate_mirrors (root : environment₁.registry.get? name₁ = environment₂.registry.get? name₂)
    (unmarked₁ : splitRerun name₁ = (name₁, false)) (unmarked₂ : splitRerun name₂ = (name₂, false)) (scope : Scope)
    (picks : List Nat) :
    ResultsMatch (· = ·) ((evaluate environment₁ name₁ scope).ending {} picks).result
      ((evaluate environment₂ name₂ scope).ending {} picks).result := by
  have contained₁ : environment₁.ContainedFrom name₁ := fun _ _ _ => contained_mirrors resolves functions root
  have contained₂ : environment₂.ContainedFrom name₂ := resolves.contained
  -- The bounds differ, but both evaluations end long before.
  have ends₁ := ending_evaluateWithin_depthLimit contained₁ unmarked₁ environment₂.depthLimit scope picks
  have ends₂ := ending_evaluateWithin_depthLimit contained₂ unmarked₂ environment₁.depthLimit scope picks
  rw [← ends₁, ← ends₂, Nat.add_comm environment₂.depthLimit]
  exact evaluateWithin_mirrors resolves functions options root unmarked₁ unmarked₂ _ scope picks

end Simulation

end Phrasebook
