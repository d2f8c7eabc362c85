import Phrasebook.Proofs.Evaluation.Expansions
import Phrasebook.Proofs.Evaluation.Listings

/-! Expressions that call no templates are evaluated without a pick, and so are all results settled. -/

namespace Phrasebook

/-- An expression evaluates all its operands, and calls nothing but templates and built-in functions. -/
def Environment.Unconditional (environment : Environment) : Expression → Prop
  -- The logical operators and the lazy conditional may leave operands out.
  | .binary op _ _ => op ≠ .and ∧ op ≠ .or
  | .call name _ =>
    (name = "if" → environment.hasTemplate name = true) ∧ name ≠ "template!" ∧ environment.Contains name
  | _ => True

instance (environment : Environment) : DecidablePred environment.Unconditional
  | .binary _ _ _ => inferInstanceAs (Decidable (_ ∧ _))
  | .call _ _ => inferInstanceAs (Decidable (_ ∧ _ ∧ _))
  | .literal _ | .variable _ | .member _ _ | .index _ _ | .array _ | .object _ | .unary _ _ => .isTrue trivial

/-- No template is named like one of the four functions. -/
def Environment.Unshadowed (environment : Environment) : Prop :=
  -- The functions would come before it.
  ∀ name ∈ templateFunctions, environment.registry.has name = false

instance (environment : Environment) : Decidable environment.Unshadowed :=
  inferInstanceAs (Decidable (∀ name ∈ templateFunctions, environment.registry.has name = false))

/-- Every failure of an expression is a failure of the text around it, as the options say. -/
def Environment.ShowsFailures (environment : Environment) : Prop :=
  -- Nothing else is written in place of a failing expression.
  environment.options.isStrict = true ∨ environment.options.placeholder = none

/-- What becomes of the result of an embedded expression, of which nothing but its source matters any more. -/
def settleEmbedded (environment : Environment) (source : String) (site : Site) :
    Except TemplateError Value → Evaluation Value
  -- Without a placeholder null stays null, and a failure is raised.
  | .ok .null =>
    if environment.options.isStrict then do
      let place ← Evaluating.placeOf site
      Evaluating.fail (.expression (some place) (.null source))
    else return (environment.substitute? (.unreadable source)).getD .null
  | .ok value => return value
  | .error (.expression place cause) =>
    match environment.options.isStrict, environment.substitute? (.unreadable source) with
    | false, some value => return value
    | _, _ => do
      let here ← Evaluating.placeOf site
      Evaluating.fail ((TemplateError.expression place cause).withPlace here)
  | .error error => Evaluating.fail error

/-- An embedded expression is evaluated, and its result is settled. -/
theorem evalEmbedded_eq (environment : Environment) (calls : Calls Evaluation) (source : String)
    (expression : Expression) (scope : Scope) (site : Site) :
    evalEmbedded environment calls ⟨source, expression⟩ scope site =
      Evaluating.attempt (expression.eval (hostOf environment calls) scope) >>= settleEmbedded environment source site :=
  -- A placeholder quotes the source and nothing else.
  rfl

namespace Evaluation

variable {α β γ δ : Type} {exact : Prop} {stack : CallStack}

/-- Both of two computations settle, with results that agree. -/
def settling (stack : CallStack) : Congruence Evaluation Evaluation where
  Related Agree first second :=
    first.Settles stack ∧ second.Settles stack ∧ ResultsAgree Agree (first.firstResult stack) (second.firstResult stack)
  done agree := ⟨settles_pure _, settles_pure _, .ok agree⟩
  andThen := by
    intro α β γ δ Agree Goal first₁ first₂ next₁ next₂ first next
    obtain ⟨settled₁, settled₂, agree⟩ := first
    rw [firstResult_bind settled₁, firstResult_bind settled₂]
    generalize result₁ : first₁.firstResult stack = one at agree
    generalize result₂ : first₂.firstResult stack = two at agree
    cases agree with
    | error error =>
      -- The second computations never start.
      refine ⟨settles_bind settled₁ fun value given => ?_, settles_bind settled₂ fun value given => ?_, .error error⟩
      · rw [result₁] at given
        cases given
      · rw [result₂] at given
        cases given
    | ok agree =>
      obtain ⟨onward₁, onward₂, goal⟩ := next _ _ agree
      refine ⟨settles_bind settled₁ fun value given => ?_, settles_bind settled₂ fun value given => ?_, goal⟩
      · rw [result₁] at given
        cases given
        exact onward₁
      · rw [result₂] at given
        cases given
        exact onward₂

/-- A computation that is like itself in settling settles. -/
theorem settles_of_alike {body : Evaluation α} (alike : (settling stack).Alike body body) : body.Settles stack :=
  alike.1

/-- A computation that settles is like itself in settling. -/
theorem alike_of_settles {body : Evaluation α} (settled : body.Settles stack) : (settling stack).Alike body body :=
  -- A result agrees with itself.
  ⟨settled, settled, .refl _⟩

end Evaluation

open Evaluation

section Settling

variable {exact : Prop} {stack : CallStack} {environment : Environment} {calls : Calls Evaluation}
  {template : Expansion Evaluation} {scope : Scope}

/-- A call that names no template settles. -/
theorem settles_call {name : String} (plain : environment.Contains name)
    (foreign : isTemplateCall environment name = false) (args : List Value) :
    ((hostOf environment calls).call name args scope).Settles stack := by
  simp only [isTemplateCall, Bool.or_eq_false_iff, beq_eq_false_iff_ne] at foreign
  obtain ⟨noFunction, noTemplate⟩ := foreign
  refine settles_of_alike (hostOf_call_alike (fun _ => rfl) (fun _ _ => rfl) (fun _ _ _ => rfl)
    (fun error => alike_of_settles (settles_fail _)) ?_ ?_ ?_ ?_)
  · rintro rfl
    have bare : splitRerun "template" = ("template", false) := splitRerun_of_getLast? (by decide)
    rw [bare] at noFunction
    exact absurd rfl noFunction
  · exact fun file => absurd file plain.1
  · intro _ known
    rw [noTemplate] at known
    cases known
  · exact fun other unknown _ _ found _ => absurd found (not_registered plain.2 other unknown)

/-- An expression settles if all its calls do. -/
theorem settles_eval (expression : Expression)
    (called : ∀ name args, .call name args ∈ expression.nodes → ∀ values,
      ((hostOf environment calls).call name values scope).Settles stack) :
    (expression.eval (hostOf environment calls) scope).Settles stack := by
  refine settles_of_alike (Expression.eval_alike (settling stack) ?_ expression (fun _ _ => rfl) ?_)
  · exact fun error => alike_of_settles (settles_fail _)
  · exact fun name args inside => ⟨fun _ => rfl, fun values _ => alike_of_settles (called name args inside values)⟩

/-- An expression without calls of templates settles. -/
theorem settles_eval_of_foreign {expression : Expression}
    (plain : ∀ node ∈ expression.nodes, environment.Unconditional node)
    (foreign : callsTemplate environment expression = false) :
    (expression.eval (hostOf environment calls) scope).Settles stack := by
  refine settles_eval expression fun name args inside values => ?_
  have other := List.any_eq_false.mp foreign (.call name args) inside
  exact settles_call (plain _ inside).2.2 (by simpa using other) values

/-- The result of an embedded expression is settled without a pick. -/
theorem settles_settleEmbedded (source : String) (site : Site) (result : Except TemplateError Value) :
    (settleEmbedded environment source site result).Settles stack := by
  have placed (error : Place → TemplateError) :
      (Evaluating.placeOf site >>= fun place => Evaluating.fail (error place) : Evaluation Value).Settles stack :=
    settles_bind (settles_placeOf site) fun place _ => settles_fail _
  unfold settleEmbedded
  split
  · split
    · exact placed _
    · exact settles_pure _
  · exact settles_pure _
  · split
    · exact settles_pure _
    · exact placed _
  · exact settles_fail _

/-- A failure is raised again where failures are shown, and if it is none of an expression. -/
theorem settleEmbedded_error {error : TemplateError}
    (shown : environment.ShowsFailures ∨ ∀ place cause, error ≠ .expression place cause) (source : String) (site : Site) :
    ∃ raised, (settleEmbedded environment source site (.error error)).firstResult stack = .error raised := by
  have placed (error : Place → TemplateError) :
      ∃ raised, (Evaluating.placeOf site >>= fun place => Evaluating.fail (error place) : Evaluation Value).firstResult
        stack = .error raised := by
    rw [firstResult_bind (settles_placeOf site)]
    exact ⟨_, rfl⟩
  cases error with
  | expression place cause =>
    rw [settleEmbedded]
    split
    · -- There is no placeholder, or it is not used.
      rename_i lenient substituted
      rcases shown with (strict | none) | other
      · rw [strict] at lenient
        cases lenient
      · rw [Environment.substitute?, none] at substituted
        cases substituted
      · exact absurd rfl (other place cause)
    · exact placed _
  | _ => exact ⟨_, rfl⟩

/-- An embedded expression settles if the expression does. -/
theorem settles_evalEmbedded {expression : Expression}
    (settled : (expression.eval (hostOf environment calls) scope).Settles stack) (source : String) (site : Site) :
    (evalEmbedded environment calls ⟨source, expression⟩ scope site).Settles stack := by
  rw [evalEmbedded_eq]
  exact settles_bind (settles_attempt settled).1 fun result _ => settles_settleEmbedded source site result

/-- The result of an embedded expression is what the result of the expression is settled to. -/
theorem firstResult_evalEmbedded {expression : Expression}
    (settled : (expression.eval (hostOf environment calls) scope).Settles stack) (source : String) (site : Site) :
    (evalEmbedded environment calls ⟨source, expression⟩ scope site).firstResult stack =
      (settleEmbedded environment source site
        ((expression.eval (hostOf environment calls) scope).firstResult stack)).firstResult stack := by
  obtain ⟨attempted, result⟩ := settles_attempt settled
  rw [evalEmbedded_eq, firstResult_bind attempted, result]
  rfl

/-- An argument settles if its expression does, and has the value of the expression unless it fails. -/
theorem settles_evalArgument {expression : Expression}
    (settled : (expression.eval (hostOf environment calls) scope).Settles stack) (site : Site) :
    (evalArgument environment calls expression scope site).Settles stack ∧
      ∀ value, (evalArgument environment calls expression scope site).firstResult stack = .ok value →
        (expression.eval (hostOf environment calls) scope).firstResult stack = .ok value := by
  obtain ⟨attempted, result⟩ := settles_attempt settled
  unfold evalArgument
  constructor
  · refine settles_bind attempted fun result _ => ?_
    cases result with
    | ok value => exact settles_pure _
    | error error => exact settles_bind (settles_placeOf site) fun place _ => settles_fail _
  · intro value given
    rw [firstResult_bind attempted, result] at given
    -- A failure is placed and raised again.
    cases outcome : (expression.eval (hostOf environment calls) scope).firstResult stack with
    | ok other =>
      rw [outcome] at given
      exact given
    | error error =>
      rw [outcome] at given
      cases given

end Settling

end Phrasebook
