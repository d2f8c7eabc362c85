import Phrasebook.Proofs.Evaluation.Accord
import Phrasebook.Proofs.Evaluation.Failures

/-! A collection is checked for errors before it is evaluated, and never again while it is. -/

namespace Phrasebook

open Evaluation

/-- Whether an error does not tell of the findings of a collection. -/
def TemplateError.PassesGate (error : TemplateError) : Prop :=
  -- Findings are told before anything is evaluated.
  ∀ errors, error ≠ .findings errors

/-- An error passes at a place just if it does anywhere. -/
theorem TemplateError.PassesGate.withPlace {error : TemplateError} (passes : error.PassesGate) (place : Place) :
    (error.withPlace place).PassesGate := by
  unfold TemplateError.withPlace
  split
  · exact nofun
  · exact passes

/-- Two computations that end alike and never with findings. -/
abbrev passing : Congruence Evaluation Evaluation :=
  -- Every other error may occur.
  endsAmong TemplateError.PassesGate

namespace Evaluation

variable {α β : Type}

/-- A computation that passes ends like itself. -/
theorem PassesGate.passing {body : Evaluation α} (passes : body.PassesGate) : passing.Alike body body :=
  endsAmong_refl fun stack picks _ failed errors same => passes stack picks errors (same ▸ failed)

/-- A failure at a place passes if its error does. -/
theorem passesGate_failsAt {site : Site} {error : Place → TemplateError} (passes : ∀ place, (error place).PassesGate) :
    (Evaluating.placeOf site >>= fun place => (Evaluating.fail (error place) : Evaluation α)).PassesGate := by
  intro stack picks errors failed
  rw [Evaluating.placeOf, ending_bind, ending_bind, ending_stack] at failed
  exact passes _ errors (Except.error.inj failed)

/-- What is done with the result of a computation is done alike if it passes for each result that passes. -/
theorem passing_attempt_bind {first second : Evaluation α} (body : passing.Alike first second)
    {next : Except TemplateError α → Evaluation β}
    (passes : ∀ result, (∀ error, result = .error error → error.PassesGate) → (next result).PassesGate) :
    passing.Alike (Evaluating.attempt first >>= next) (Evaluating.attempt second >>= next) := by
  refine Congruence.andThen _ (endsAmong_attempt body) ?_
  rintro result _ ⟨rfl, occurs⟩
  exact (passes result occurs).passing

end Evaluation

/-- Evaluation and expansion never end with findings. -/
theorem passing_respects (environment : Environment) (options : Options) : passing.Respects environment options options where
  same := Evaluation.PassesGate.passing
  picks := endsAmong_picks
  framed := endsAmong_withFrame
  embeds embedded evaluated := by
    refine ⟨fun site => passing_attempt_bind evaluated fun result occurs => ?_,
      fun site => passing_attempt_bind evaluated fun result occurs => ?_⟩
    · split
      · split
        · exact passesGate_failsAt fun _ => nofun
        · exact passesGate_pure _
      · exact passesGate_pure _
      · split
        · exact passesGate_pure _
        · exact passesGate_failsAt fun place => TemplateError.PassesGate.withPlace (by nofun) place
      · exact passesGate_fail (occurs _ rfl)
    · split
      · split
        · exact passesGate_failsAt fun _ => nofun
        · exact passesGate_pure _
      · split
        · exact passesGate_failsAt fun place => TemplateError.PassesGate.withPlace (by nofun) place
        · exact passesGate_pure _
      · exact passesGate_fail (occurs _ rfl)
  arguments expression site evaluated := by
    refine passing_attempt_bind evaluated fun result occurs => ?_
    split
    · exact passesGate_pure _
    · exact passesGate_failsAt fun place => (occurs _ rfl).withPlace place

/-- No evaluation and no expansion of a template ends with findings. -/
theorem passesGate_within (limit : Nat) (environment : Environment) (name : String) (scope : Scope) :
    (evaluateWithin limit environment name scope : Evaluation Value).PassesGate ∧
      (expandWithin limit environment name scope : Evaluation (List Value)).PassesGate := by
  have respects := passing_respects environment environment.options
  have evaluated := Congruence.alike_bind _ ((respects.callsWithin limit).template name scope) fun value =>
    Congruence.alike_pure _ (environment.applyLineBreaks value)
  have expanded := Congruence.alike_bind _ (respects.expansionWithin limit name scope) fun values =>
    Congruence.alike_pure _ (values.map environment.applyLineBreaks)
  exact ⟨fun stack picks errors failed => may_of_alike evaluated failed errors rfl,
    fun stack picks errors failed => may_of_alike expanded failed errors rfl⟩

end Phrasebook
