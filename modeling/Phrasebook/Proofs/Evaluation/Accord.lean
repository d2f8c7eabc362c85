import Phrasebook.Proofs.Evaluation.Expansions
import Phrasebook.Proofs.Evaluation.Runs

/-! Runs under different options are related as soon as the embedded expressions of their templates are. -/

namespace Phrasebook

open Evaluation

/-- The same surroundings with other options. -/
def Environment.withOptions (environment : Environment) (options : Options) : Environment :=
  { environment with options := options }

/-- Whether a computation never fails with the findings of a collection. -/
def Evaluation.PassesGate {α : Type} (body : Evaluation α) : Prop :=
  -- From no stack and under no picks does it end so.
  ∀ stack picks errors, (body.ending stack picks).result ≠ .error (.findings errors)

/-- A failure for another reason passes. -/
theorem Evaluation.passesGate_fail {α : Type} {error : TemplateError} (other : ∀ errors, error ≠ .findings errors) :
    (Evaluating.fail error : Evaluation α).PassesGate := by
  intro stack picks errors failed
  exact other errors (Except.error.inj failed)

/-- A value passes. -/
theorem Evaluation.passesGate_pure {α : Type} (value : α) : (pure value : Evaluation α).PassesGate := by
  intro stack picks errors failed
  cases failed

/-- An expression error passes. -/
theorem Evaluation.passesGate_raise {α : Type} (error : ExpressionError) :
    (Evaluating.raise error : Evaluation α).PassesGate :=
  passesGate_fail fun _ => TemplateError.noConfusion

/-- A result passes that does not tell of findings. -/
theorem Evaluation.passesGate_ofExcept {α : Type} {result : Except TemplateError α}
    (other : ∀ errors, result ≠ .error (.findings errors)) : (Evaluating.ofExcept result : Evaluation α).PassesGate := by
  intro stack picks errors failed
  rw [ending_ofExcept] at failed
  exact other errors failed

/-- A template that runs already is no finding. -/
theorem Evaluation.passesGate_checkLoop (name : String) : (Evaluating.checkLoop name : Evaluation Unit).PassesGate := by
  intro stack picks errors failed
  rw [ending_checkLoop] at failed
  dsimp only at failed
  split at failed <;> cases failed

/-- What is done with a failure that is handed on may pass although the failure does not. -/
theorem Evaluation.passesGate_attempt_bind {α β : Type} (body : Evaluation α) {next : Except TemplateError α → Evaluation β}
    (passes : ∀ result, (next result).PassesGate) : (Evaluating.attempt body >>= next : Evaluation β).PassesGate := by
  intro stack picks errors
  rw [ending_bind, ending_attempt]
  exact passes _ _ _ errors

/-- A relation that evaluation and expansion respect under two sets of options. -/
structure Congruence.Respects (relation : Congruence Evaluation Evaluation) (environment : Environment)
    (options₁ options₂ : Options) : Prop where
  /-- What does not depend on the options is alike. -/
  same : ∀ {α : Type} {body : Evaluation α}, body.PassesGate → relation.Alike body body
  /-- The same alternative is picked. -/
  picks : ∀ candidates, relation.PicksAlike candidates
  /-- Computations that are alike are so inside a frame. -/
  framed : ∀ {α : Type} (name : String) {first second : Evaluation α}, relation.Alike first second →
    relation.Alike (Evaluating.withFrame name first) (Evaluating.withFrame name second)
  /-- Expressions that are evaluated alike are embedded alike. -/
  embeds : ∀ {calls₁ calls₂ : Calls Evaluation} {scope : Scope} (embedded : Embedded),
    relation.Alike (embedded.expression.eval (hostOf (environment.withOptions options₁) calls₁) scope)
        (embedded.expression.eval (hostOf (environment.withOptions options₂) calls₂) scope) →
      relation.EmbedsAlike (environment.withOptions options₁) (environment.withOptions options₂) calls₁ calls₂ scope scope
        embedded
  /-- They are alike as arguments. -/
  arguments : ∀ {calls₁ calls₂ : Calls Evaluation} {scope : Scope} (expression : Expression) (site : Site),
    relation.Alike (expression.eval (hostOf (environment.withOptions options₁) calls₁) scope)
        (expression.eval (hostOf (environment.withOptions options₂) calls₂) scope) →
      relation.Alike (evalArgument (environment.withOptions options₁) calls₁ expression scope site)
        (evalArgument (environment.withOptions options₂) calls₂ expression scope site)

/-- Calls that are alike, those of exported templates being the same. -/
structure Congruence.CallsAlike (relation : Congruence Evaluation Evaluation) (calls₁ calls₂ : Calls Evaluation) : Prop where
  /-- Templates are called by name. -/
  template : ∀ name scope, relation.Alike (calls₁.template name scope) (calls₂.template name scope)
  /-- The text of a file is evaluated. -/
  text : ∀ text scope, relation.Alike (calls₁.text text scope) (calls₂.text text scope)
  /-- Exported templates have the options of their own files. -/
  exported : calls₁.exported = calls₂.exported

/-- An unknown template is no finding. -/
theorem Environment.lookup_ne_findings {environment : Environment} {name : String} (errors : List Finding) :
    environment.lookup name ≠ .error (.findings errors) := by
  unfold lookup
  split <;> nofun

/-- A wrong number of arguments is no finding. -/
theorem bindArguments_ne_findings {template : Template} {args : List Value} {scope : Scope} (errors : List Finding) :
    bindArguments template args scope ≠ .error (.findings errors) := by
  unfold bindArguments
  split
  · nofun
  · split <;> nofun

namespace Congruence.Respects

variable {relation : Congruence Evaluation Evaluation} {environment : Environment} {options₁ options₂ : Options}
  (respects : relation.Respects environment options₁ options₂) {calls₁ calls₂ : Calls Evaluation}

include respects

/-- Failures for another reason than findings are alike. -/
theorem fails {α : Type} {error : TemplateError} (other : ∀ errors, error ≠ .findings errors) :
    relation.Alike (Evaluating.fail error : Evaluation α) (Evaluating.fail error) :=
  respects.same (passesGate_fail other)

/-- Expression errors are raised alike. -/
theorem raises {α : Type} (error : ExpressionError) :
    relation.Alike (Evaluating.raise error : Evaluation α) (Evaluating.raise error) :=
  respects.same (passesGate_raise error)

/-- What is done with a template that is found, in the scope that binds its arguments, is done alike if it is for each. -/
theorem bound {α : Type} (name : String) (args : List Value) (scope : Scope) {next₁ next₂ : Scope → Evaluation α}
    (next : ∀ bound, relation.Alike (next₁ bound) (next₂ bound)) :
    relation.Alike
      (Evaluating.ofExcept (environment.lookup name) >>= fun template =>
        Evaluating.ofExcept (bindArguments template args scope) >>= next₁)
      (Evaluating.ofExcept (environment.lookup name) >>= fun template =>
        Evaluating.ofExcept (bindArguments template args scope) >>= next₂) :=
  relation.alike_bind (respects.same (passesGate_ofExcept Environment.lookup_ne_findings)) fun _ =>
    relation.alike_bind (respects.same (passesGate_ofExcept bindArguments_ne_findings)) next

/-- The inclusion of a file is alike if its text is evaluated alike. -/
theorem file (calls : relation.CallsAlike calls₁ calls₂) (args : List Value) (scope : Scope) :
    relation.Alike (includeFile (environment.withOptions options₁) calls₁ args scope)
      (includeFile (environment.withOptions options₂) calls₂ args scope) := by
  unfold includeFile
  cases includedFile args with
  | error error => exact respects.raises error
  | ok request =>
    refine relation.alike_bind (relation.alike_pure ()) fun _ => ?_
    refine relation.alike_bind (respects.same fun _ _ _ => nofun) fun stack => ?_
    -- Which file is included depends on the running template only.
    have source : currentSource (environment.withOptions options₁) stack = currentSource (environment.withOptions options₂) stack := rfl
    have files : (environment.withOptions options₁).files = (environment.withOptions options₂).files := rfl
    dsimp only
    rw [source, files]
    split
    · exact respects.fails nofun
    · split
      · exact relation.alike_pure _
      · split
        · exact respects.fails nofun
        · exact calls.text _ scope

/-- A registered function is the same, for it does not see the options. -/
theorem registered (calls : relation.CallsAlike calls₁ calls₂) (name : String) (args : List Value) (scope : Scope)
    {function₁ function₂ : HostFunction Evaluation}
    (found₁ : registeredFunction? (environment.withOptions options₁) calls₁ name = some function₁)
    (found₂ : registeredFunction? (environment.withOptions options₂) calls₂ name = some function₂) :
    relation.Alike (function₁ args scope) (function₂ args scope) := by
  simp only [registeredFunction?, Option.map_eq_some_iff] at found₁ found₂
  obtain ⟨function, here, rfl⟩ := found₁
  obtain ⟨_, there, rfl⟩ := found₂
  obtain rfl := Option.some.inj (here.symm.trans there)
  refine relation.alike_bind (relation.alike_pure ()) fun _ => ?_
  cases function with
  | native native =>
    dsimp only
    cases native args scope with
    | ok value => exact relation.alike_pure value
    | error error => exact respects.raises error
  | exported owner template =>
    -- An exported template may fail with findings, but the function that stands for it does not.
    rw [calls.exported]
    refine respects.same (passesGate_attempt_bind _ fun result => ?_)
    cases result with
    | ok value => exact passesGate_pure value
    | error error =>
      cases error with
      | unfinished => exact passesGate_fail fun _ => TemplateError.noConfusion
      | _ => exact passesGate_raise _

/-- Expressions are evaluated alike if templates are. -/
theorem eval (calls : relation.CallsAlike calls₁ calls₂) (expression : Expression) (scope : Scope) :
    relation.Alike (expression.eval (hostOf (environment.withOptions options₁) calls₁) scope)
      (expression.eval (hostOf (environment.withOptions options₂) calls₂) scope) := by
  have called (target : String) (values : List Value) :
      relation.Alike (callTemplate (environment.withOptions options₁) calls₁ target values scope)
        (callTemplate (environment.withOptions options₂) calls₂ target values scope) :=
    respects.bound (splitRerun target).1 values scope (calls.template target)
  refine Expression.eval_alike relation (fun error => respects.raises error) expression (fun _ _ => rfl)
    fun name args _ => ⟨fun lazy => isNone_own_if lazy rfl, fun values _ => ?_⟩
  exact hostOf_call_alike (fun _ => rfl) (fun _ _ => rfl) (fun _ _ _ => rfl) (fun error => respects.raises error)
    (fun _ target rest _ => called target rest) (fun _ => respects.file calls values scope) (fun _ _ => called name values)
    fun _ _ _ _ found₁ found₂ => respects.registered calls name values scope found₁ found₂

/-- What is embedded is evaluated alike if templates are. -/
theorem embedded (calls : relation.CallsAlike calls₁ calls₂) (scope : Scope) (embedded : Embedded) :
    relation.EmbedsAlike (environment.withOptions options₁) (environment.withOptions options₂) calls₁ calls₂ scope scope embedded :=
  respects.embeds embedded (respects.eval calls embedded.expression scope)

/-- A template that is found and does not run yet is treated alike if what is done with it is. -/
theorem entered {α : Type} (name : String) {next₁ next₂ : Template → Evaluation α}
    (next : ∀ template, relation.Alike (next₁ template) (next₂ template)) :
    relation.Alike
      (Evaluating.ofExcept (environment.lookup name) >>= fun template => Evaluating.checkLoop name >>= fun _ => next₁ template)
      (Evaluating.ofExcept (environment.lookup name) >>= fun template => Evaluating.checkLoop name >>= fun _ => next₂ template) :=
  relation.alike_bind (respects.same (passesGate_ofExcept Environment.lookup_ne_findings)) fun template =>
    relation.alike_bind (respects.same (passesGate_checkLoop name)) fun _ => next template

/-- A template is evaluated alike if those that it calls are. -/
theorem template (calls : relation.CallsAlike calls₁ calls₂) (name : String) (scope : Scope) :
    relation.Alike (evalTemplate (environment.withOptions options₁) calls₁ name scope)
      (evalTemplate (environment.withOptions options₂) calls₂ name scope) := by
  unfold evalTemplate
  obtain ⟨base, rerun⟩ := splitRerun name
  refine respects.entered base fun template => ?_
  have framed := respects.framed base (evalBody_alike template.body (fun candidates _ => respects.picks candidates)
    fun embedded _ => respects.embedded calls scope embedded)
  refine relation.alike_bind (respects.same fun _ _ _ => nofun) fun stack => ?_
  cases rerun with
  | true => exact framed
  | false =>
    cases stack.cached? ⟨base, scope.fingerprint⟩ with
    | some value => exact relation.alike_pure value
    | none =>
      refine relation.alike_bind framed fun value => ?_
      exact relation.alike_bind (respects.same fun _ _ _ => nofun) fun _ => relation.alike_pure value

/-- All calls within a bound are alike. -/
theorem callsWithin (limit : Nat) : relation.CallsAlike (Phrasebook.callsWithin limit (environment.withOptions options₁))
    (Phrasebook.callsWithin limit (environment.withOptions options₂)) := by
  induction limit with
  | zero => exact ⟨fun _ _ => respects.fails nofun, fun _ _ => respects.fails nofun, rfl⟩
  | succ limit calls =>
    refine ⟨fun name scope => respects.template calls name scope, fun text scope => ?_, rfl⟩
    exact evalText_alike .text text fun embedded _ => respects.embedded calls scope embedded

/-- All expansions within a bound are alike. -/
theorem expansionWithin (limit : Nat) (name : String) (scope : Scope) :
    relation.Alike (Phrasebook.expansionWithin (environment.withOptions options₁) limit name scope)
      (Phrasebook.expansionWithin (environment.withOptions options₂) limit name scope) := by
  induction limit generalizing name scope with
  | zero => exact respects.fails nofun
  | succ limit expanded =>
    have calls := respects.callsWithin limit
    have called (target : String) (values : List Value) := respects.bound (splitRerun target).1 values scope (expanded target)
    refine respects.entered (splitRerun name).1 fun template => respects.framed _ ?_
    have delegates : relation.DelegatesAlike (environment.withOptions options₁) (environment.withOptions options₂)
        (Phrasebook.callsWithin limit (environment.withOptions options₁))
        (Phrasebook.callsWithin limit (environment.withOptions options₂))
        (Phrasebook.expansionWithin (environment.withOptions options₁) limit)
        (Phrasebook.expansionWithin (environment.withOptions options₂) limit) scope (fun _ _ => True) fun _ _ => True := by
      refine ⟨rfl, fun embedded _ => respects.embedded calls scope embedded, fun _ _ _ _ _ _ copy site _ _ => ?_,
        fun _ _ _ error _ _ _ => respects.raises error, fun name _ values _ _ => called name values,
        fun _ _ _ target rest _ _ _ => called target rest⟩
      exact relation.weaken (respects.arguments copy site (respects.eval calls copy scope)) fun _ _ same => ⟨same, trivial⟩
    exact expandBody_alike delegates template.body (Expression.allCalls_of_calls fun _ _ _ _ _ => trivial)
      fun guard _ => respects.embedded calls scope guard

end Congruence.Respects

end Phrasebook
