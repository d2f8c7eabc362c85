import Phrasebook.Proofs.Evaluation.Expansions
import Phrasebook.Proofs.Evaluation.Runs

/-! Two evaluations that do the same fail with the same errors, all of which are among those that may occur. -/

namespace Phrasebook

namespace Evaluation

variable {α β γ δ : Type}

/-- From every stack and under all picks, two computations end in the same way, and fail only as they may. -/
def EndsAmong (may : TemplateError → Prop) (Agree : α → β → Prop) (first : Evaluation α) (second : Evaluation β) : Prop :=
  -- They leave the same stack behind and the same picks over.
  ∀ stack picks, ∃ result₁ result₂ now left, first.ending stack picks = ⟨result₁, now, left⟩ ∧
    second.ending stack picks = ⟨result₂, now, left⟩ ∧ ResultsAgree Agree result₁ result₂ ∧
      ∀ error, result₁ = .error error → may error

/-- Failing only with errors that may occur is respected by doing one after another. -/
def endsAmong (may : TemplateError → Prop) : Congruence Evaluation Evaluation where
  Related := EndsAmong may
  done agree stack picks := ⟨_, _, stack, picks, rfl, rfl, .ok agree, by rintro _ ⟨⟩⟩
  andThen := by
    intro α β γ δ Agree Goal first₁ first₂ next₁ next₂ first next stack picks
    obtain ⟨result₁, result₂, now, left, ends₁, ends₂, agree, occurs⟩ := first stack picks
    rw [ending_bind, ending_bind, ends₁, ends₂]
    cases agree with
    | error error =>
      refine ⟨_, _, now, left, rfl, rfl, .error error, ?_⟩
      rintro _ ⟨rfl⟩
      exact occurs error rfl
    | ok agree => exact next _ _ agree now left

variable {may : TemplateError → Prop}

/-- Computations that end alike come to the same. -/
theorem ending_eq_of_alike {first second : Evaluation α} (alike : (endsAmong may).Alike first second) (stack : CallStack)
    (picks : List Nat) : first.ending stack picks = second.ending stack picks := by
  obtain ⟨result₁, result₂, now, left, ends₁, ends₂, agree, _⟩ := alike stack picks
  rw [ends₁, ends₂, agree.eq]

/-- A computation that ends like itself fails only as it may. -/
theorem may_of_alike {body : Evaluation α} (alike : (endsAmong may).Alike body body) {stack : CallStack}
    {picks : List Nat} {error : TemplateError} (failed : (body.ending stack picks).result = .error error) : may error := by
  obtain ⟨result₁, result₂, now, left, ends₁, _, _, occurs⟩ := alike stack picks
  rw [ends₁] at failed
  exact occurs error failed

/-- A computation that fails only as it may ends like itself. -/
theorem endsAmong_refl {body : Evaluation α}
    (succeeds : ∀ stack picks error, (body.ending stack picks).result = .error error → may error) :
    (endsAmong may).Alike body body :=
  fun stack picks => ⟨_, _, _, _, rfl, rfl, .refl _, succeeds stack picks⟩

/-- Computations that end alike hand on the same result, which fails only as it may. -/
theorem endsAmong_attempt {first second : Evaluation α} (body : (endsAmong may).Alike first second) :
    (endsAmong may).Related (fun result₁ result₂ => result₁ = result₂ ∧ ∀ error, result₁ = .error error → may error)
      (Evaluating.attempt first) (Evaluating.attempt second) := by
  intro stack picks
  obtain ⟨result₁, result₂, now, left, ends₁, ends₂, agree, occurs⟩ := body stack picks
  rw [ending_attempt, ending_attempt, ends₁, ends₂]
  exact ⟨_, _, now, left, rfl, rfl, .ok ⟨agree.eq, occurs⟩, by simp⟩

/-- Failures, their handling and the places of errors are alike. -/
theorem endsAmong_handles (others : ∀ error, (∀ chain, error ≠ .loop chain) → error ≠ .unfinished →
    (∀ template expected got, error ≠ .argumentCount template expected got) → may error) :
    (endsAmong may).Handles may where
  fails error occurs stack picks := by
    refine ⟨_, _, stack, picks, rfl, rfl, .error error, ?_⟩
    rintro _ ⟨rfl⟩
    exact occurs
  attempts := endsAmong_attempt
  places site := by
    refine endsAmong_refl fun stack picks error failed => ?_
    rw [Evaluating.placeOf, ending_bind, ending_stack] at failed
    cases failed
  others := others

/-- The same picks take the same alternative. -/
theorem endsAmong_picks (candidates : List TemplateText) : (endsAmong may).PicksAlike candidates := by
  intro stack picks
  rw [ending_pickOne]
  exact ⟨_, _, _, _, rfl, rfl, .ok ⟨rfl, fun text taken => mem_of_pickAmong taken⟩, by simp⟩

/-- A change of the stack never fails. -/
theorem endsAmong_change (update : CallStack → CallStack) :
    (endsAmong may).Alike (Evaluating.change update : Evaluation Unit) (Evaluating.change update) :=
  endsAmong_refl (by simp)

/-- Computations that end alike do so inside a frame. -/
theorem endsAmong_withFrame (name : String) {first second : Evaluation α} (body : (endsAmong may).Alike first second) :
    (endsAmong may).Alike (Evaluating.withFrame name first) (Evaluating.withFrame name second) := by
  refine Congruence.alike_bind _ (endsAmong_change _) fun _ => ?_
  refine Congruence.andThen _ (endsAmong_attempt body) ?_
  rintro result _ ⟨rfl, occurs⟩
  refine Congruence.alike_bind _ (endsAmong_change _) fun _ => endsAmong_refl fun stack picks error failed => ?_
  rw [ending_ofExcept] at failed
  exact occurs error failed

section Templates

variable (handles : (endsAmong may).Handles may) (loops : ∀ chain, may (.loop chain))
  {environment : Environment} {calls₁ calls₂ : Calls Evaluation} {scope₁ scope₂ : Scope}

include handles loops

/-- What is done with a template that is found and does not run yet is done alike if it is for that template. -/
theorem endsAmong_entered (name : String) {next₁ : Template → Evaluation α} {next₂ : Template → Evaluation α}
    (next : ∀ template, environment.lookup name = .ok template → (endsAmong may).Alike (next₁ template) (next₂ template)) :
    (endsAmong may).Alike
      (Evaluating.ofExcept (environment.lookup name) >>= fun template =>
        Evaluating.checkLoop name >>= fun _ => next₁ template)
      (Evaluating.ofExcept (environment.lookup name) >>= fun template =>
        Evaluating.checkLoop name >>= fun _ => next₂ template) := by
  refine Congruence.andThen _ (lookup_alike handles environment name) ?_
  rintro template _ ⟨rfl, found⟩
  refine Congruence.alike_bind _ (endsAmong_refl fun stack picks error failed => ?_) fun _ => next template found
  rw [ending_checkLoop] at failed
  split at failed
  · obtain rfl := Except.error.inj failed
    exact loops _
  · cases failed

/-- A template that is found alike is evaluated alike if its body is, in scopes with the same local layer. -/
theorem endsAmong_evalTemplate {environment' : Environment} (finds : environment.lookup = environment'.lookup) (name : String)
    (layer : scope₁.fingerprint = scope₂.fingerprint)
    (body : ∀ template, environment.lookup (splitRerun name).1 = .ok template →
      (endsAmong may).Alike (evalBody environment calls₁ scope₁ template.body)
        (evalBody environment' calls₂ scope₂ template.body)) :
    (endsAmong may).Alike (evalTemplate environment calls₁ name scope₁ : Evaluation Value)
      (evalTemplate environment' calls₂ name scope₂) := by
  unfold evalTemplate
  rw [← finds]
  cases parts : splitRerun name with | mk base rerun =>
  rw [parts] at body
  refine endsAmong_entered handles loops base fun template found => ?_
  have framed := endsAmong_withFrame base (body template found)
  refine Congruence.alike_bind _ (endsAmong_refl (by simp)) fun stack => ?_
  -- Calls have the same key in both scopes, so the same results are kept.
  rw [layer]
  cases rerun with
  | true => exact framed
  | false =>
    cases stack.cached? ⟨base, scope₂.fingerprint⟩ with
    | some value => exact Congruence.alike_pure _ value
    | none =>
      refine Congruence.alike_bind _ framed fun value => ?_
      exact Congruence.alike_bind _ (endsAmong_change _) fun _ => Congruence.alike_pure _ value

/-- A template is expanded alike if its body is. -/
theorem endsAmong_expandTemplate {template₁ template₂ : Expansion Evaluation} (name : String) (scope : Scope)
    (body : ∀ template, environment.lookup (splitRerun name).1 = .ok template →
      (endsAmong may).Alike (expandBody ⟨environment, calls₁, template₁⟩ scope template.body)
        (expandBody ⟨environment, calls₂, template₂⟩ scope template.body)) :
    (endsAmong may).Alike (expandTemplate ⟨environment, calls₁, template₁⟩ name scope)
      (expandTemplate ⟨environment, calls₂, template₂⟩ name scope) :=
  endsAmong_entered handles loops (splitRerun name).1 fun template found =>
    endsAmong_withFrame (splitRerun name).1 (body template found)

end Templates

/-- Two computations end alike if they end in the same way, however they fail. -/
abbrev endsAlike : Congruence Evaluation Evaluation :=
  -- Every error may occur.
  endsAmong fun _ => True

/-- Every computation ends like itself. -/
theorem endsAlike_refl {α : Type} (body : Evaluation α) : endsAlike.Alike body body :=
  endsAmong_refl fun _ _ _ _ => trivial

/-- Failures, their handling and the places of errors are alike. -/
theorem endsAlike_handles : endsAlike.Handles fun _ => True :=
  endsAmong_handles fun _ _ _ _ => trivial

/-- Computations that end alike on an empty stack do so on a stack of their own. -/
theorem endsAlike_isolated {first second : Evaluation α} (body : endsAlike.Alike first second) :
    endsAlike.Alike (Evaluating.isolated first) (Evaluating.isolated second) := by
  intro stack picks
  obtain ⟨result₁, result₂, now, left, ends₁, ends₂, agree, _⟩ := body {} picks
  rw [ending_isolated, ending_isolated, ends₁, ends₂]
  exact ⟨_, _, stack, left, rfl, rfl, .ok agree.eq, fun _ _ => trivial⟩

end Evaluation

end Phrasebook
