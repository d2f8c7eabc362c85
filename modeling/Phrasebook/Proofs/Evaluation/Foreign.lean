import Phrasebook.Proofs.Evaluation.Completion
import Phrasebook.Proofs.Evaluation.Variants

/-! An expression that calls no template has a result of its own, whatever stack it is evaluated on. -/

namespace Phrasebook

open Evaluation

/-- Results alone: nothing is picked at random, and there is no stack to speak of. -/
instance : Evaluating (Except TemplateError) where
  fail error := .error error
  attempt result := .ok result
  stack := .ok {}
  change _ := .ok ()
  -- The first alternative is as good as any other.
  pickOne alternatives := .ok alternatives.head?
  isolated result := .ok result
  outside := .ok ()
  refuse := .error .unfinished

/-- The host of expressions that call no templates. -/
def Environment.foreignHost (environment : Environment) : Host (Except TemplateError) :=
  -- There is nothing that a template could be called by.
  hostOf environment (callsWithin 0 environment)

/-- The result of an expression that calls no template. -/
def Environment.outcome (environment : Environment) (scope : Scope) (expression : Expression) : Except TemplateError Value :=
  -- It does not depend on the stack.
  expression.eval environment.foreignHost scope

/-- A result, and a computation that does nothing but give it. -/
def telling : Congruence (Except TemplateError) Evaluation where
  Related Agree result body := ∃ told, body = Evaluating.ofExcept told ∧ ResultsAgree Agree result told
  done agree := ⟨.ok _, rfl, .ok agree⟩
  andThen := by
    rintro α β γ δ Agree Goal result _ next₁ next₂ ⟨told, rfl, agree⟩ next
    cases agree with
    | error error => exact ⟨.error error, rfl, .error error⟩
    | ok agree => exact next _ _ agree

/-- A computation that is like a result gives this result. -/
theorem eq_ofExcept_of_telling {α : Type} {result : Except TemplateError α} {body : Evaluation α}
    (alike : telling.Alike result body) : body = Evaluating.ofExcept result := by
  obtain ⟨told, same, agree⟩ := alike
  rw [same, agree.eq]

section Foreign

variable {environment : Environment}

/-- A call that leads neither to templates nor to what is registered gives a result at once. -/
theorem telling_call {name : String} (plain : environment.Contains name) (foreign : isTemplateCall environment name = false)
    (calls : Calls Evaluation) (args : List Value) (scope : Scope) :
    telling.Alike (environment.foreignHost.call name args scope)
      ((hostOf environment calls).call name args scope) := by
  simp only [isTemplateCall, Bool.or_eq_false_iff, beq_eq_false_iff_ne] at foreign
  obtain ⟨noFunction, noTemplate⟩ := foreign
  refine hostOf_call_alike (fun _ => rfl) (fun _ _ => rfl) (fun _ _ _ => rfl) (fun error => ⟨_, rfl, .error _⟩) ?_
    (fun file => absurd file plain.1) (fun _ known => ?_)
    fun other unknown _ _ _ found => absurd found (not_registered plain.2 other unknown)
  · rintro rfl
    have bare : splitRerun "template" = ("template", false) := splitRerun_of_getLast? (by decide)
    rw [bare] at noFunction
    exact absurd rfl noFunction
  · rw [noTemplate] at known
    cases known

/-- Whether the calls of an expression lead neither to templates nor to what is registered. -/
def Environment.Foreign (environment : Environment) (expression : Expression) : Prop :=
  -- Calls may stand anywhere in an expression.
  ∀ name args, .call name args ∈ expression.nodes → environment.Contains name ∧ isTemplateCall environment name = false

/-- An expression that calls no template gives its result at once. -/
theorem eval_of_foreign {expression : Expression} (foreign : environment.Foreign expression) (calls : Calls Evaluation)
    (scope : Scope) :
    expression.eval (hostOf environment calls) scope = Evaluating.ofExcept (environment.outcome scope expression) := by
  refine eq_ofExcept_of_telling (Expression.eval_alike telling (fun error => ⟨_, rfl, .error _⟩) expression (fun _ _ => rfl)
    fun name args node => ⟨fun lazy => isNone_own_if lazy rfl, fun values _ => ?_⟩)
  exact telling_call (foreign name args node).1 (foreign name args node).2 calls values scope

/-- Several expressions that call no templates give their results at once. -/
theorem evalItems_of_foreign {items : List Expression} (foreign : ∀ item ∈ items, environment.Foreign item)
    {calls : Calls Evaluation} {scope : Scope} :
    Expression.evalItems (hostOf environment calls) scope items =
      Evaluating.ofExcept (Expression.evalItems environment.foreignHost scope items) := by
  induction items with
  | nil => rfl
  | cons item rest later =>
    obtain ⟨here, others⟩ := List.forall_mem_cons.mp foreign
    rw [Expression.evalItems, Expression.evalItems, eval_of_foreign here, later others, Environment.outcome]
    -- A failure stops both sides.
    cases item.eval environment.foreignHost scope with
    | error error => rfl
    | ok value => cases Expression.evalItems environment.foreignHost scope rest <;> rfl

/-- A value that an expression gives at once is one that it can come to. -/
theorem yields_of_outcome {expression : Expression} (foreign : environment.Foreign expression) {scope : Scope} {value : Value}
    (given : environment.outcome scope expression = .ok value) : environment.Yields scope expression (.ok value) := by
  refine ⟨0, {}, [], ?_⟩
  rw [eval_of_foreign foreign, given]
  rfl

/-- Several expressions that have values together have them one by one. -/
theorem forall₂_of_evalItems {items : List Expression} {values : List Value} {scope : Scope}
    (given : Expression.evalItems environment.foreignHost scope items = .ok values) :
    List.Forall₂ (fun item value => environment.outcome scope item = .ok value) items values := by
  rw [evalItems_eq_mapM] at given
  have each := List.forall₂_eq_eq_eq ▸ mapM_eq_ok.mp given
  rwa [List.forall₂_map_left_iff, List.forall₂_map_right_iff] at each

/-- Among calls that are contained, what calls no template is foreign. -/
theorem foreign_of_callsTemplate {expression : Expression}
    (contained : ∀ name args, .call name args ∈ expression.nodes → environment.Contains name)
    (none : callsTemplate environment expression = false) : environment.Foreign expression := by
  intro name args node
  have other := List.any_eq_false.mp none _ node
  exact ⟨contained name args node, by simpa using other⟩

/-- What is left of an expression when values take the place of its calls of templates is foreign. -/
theorem foreign_of_leftOver {known : String → List Expression → Prop}
    (contained : ∀ name args, known name args → environment.Contains name) {copy : Expression}
    (left : copy.Everywhere (Expression.CopiesCall (Expression.LeftOver environment known))) : environment.Foreign copy := by
  intro name args node
  obtain ⟨originals, ⟨knows, other⟩, _⟩ := left _ node
  exact ⟨contained name originals knows, other⟩

/-- A value that the result of an embedded expression is settled to is given at once. -/
theorem settleEmbedded_eq_pure {stack : CallStack} {source : String} {site : Site} {result : Except TemplateError Value}
    {value : Value} (given : (settleEmbedded environment source site result).firstResult stack = .ok value) :
    settleEmbedded environment source site result = pure value := by
  unfold settleEmbedded at given ⊢
  -- Either the value is given, or an error is raised at a place.
  split at given
  · split at given
    · cases given
    · cases given
      simp_all
  · cases given
    rfl
  · split at given
    · cases given
      simp_all
    · cases given
  · cases given

/-- An embedded expression that calls no template is settled at once. -/
theorem evalEmbedded_of_foreign {embedded : Embedded} (foreign : environment.Foreign embedded.expression)
    (calls : Calls Evaluation) (scope : Scope) (site : Site) :
    evalEmbedded environment calls embedded scope site =
      settleEmbedded environment embedded.source site (environment.outcome scope embedded.expression) := by
  obtain ⟨source, expression⟩ := embedded
  rw [evalEmbedded_eq, eval_of_foreign foreign]
  cases environment.outcome scope expression <;> rfl

/-- An embedded expression that calls no template and has a value has it at once. -/
theorem evalEmbedded_eq_pure {embedded : Embedded} (foreign : environment.Foreign embedded.expression)
    {calls : Calls Evaluation} {scope : Scope} {site : Site} {stack : CallStack} {value : Value}
    (given : (evalEmbedded environment calls embedded scope site).firstResult stack = .ok value) (calls' : Calls Evaluation) :
    evalEmbedded environment calls' embedded scope site = pure value := by
  rw [evalEmbedded_of_foreign foreign] at given ⊢
  exact settleEmbedded_eq_pure given

/-- A condition that calls no template and holds, or does not, is decided at once. -/
theorem evalCondition_eq_pure {condition : Embedded} (foreign : environment.Foreign condition.expression)
    {calls : Calls Evaluation} {scope : Scope} {site : Site} {stack : CallStack} {truth : Bool}
    (given : (evalCondition environment calls condition scope site).firstResult stack = .ok truth) (calls' : Calls Evaluation) :
    evalCondition environment calls' condition scope site = pure truth := by
  have attempted {α : Type} (result : Except TemplateError Value) (next : Except TemplateError Value → Evaluation α) :
      (Evaluating.attempt (Evaluating.ofExcept result) >>= next : Evaluation α) = next result := by
    cases result <;> rfl
  rw [evalCondition, eval_of_foreign foreign, attempted] at given ⊢
  split at given
  · split at given
    · cases given
    · cases given
      simp_all
  · split at given
    · cases given
    · cases given
      simp_all
  · cases given

end Foreign

end Phrasebook
