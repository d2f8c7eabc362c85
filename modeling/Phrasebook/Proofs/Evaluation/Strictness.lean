import Phrasebook.Proofs.Collection.Loaded
import Phrasebook.Proofs.Evaluation.Accord

/-! Strict evaluation only adds failures: where it gives a value, lenient evaluation gives the same one. -/

namespace Phrasebook

open Evaluation

section Strictness

variable {α β γ δ : Type}

/-- Wherever one computation gives a value, another one ends in the same way with a value that agrees. -/
def SucceedsLike (Agree : α → β → Prop) (first : Evaluation α) (second : Evaluation β) : Prop :=
  -- Nothing is asked where the first one fails.
  ∀ stack picks value₁ now left, first.ending stack picks = ⟨.ok value₁, now, left⟩ →
    ∃ value₂, second.ending stack picks = ⟨.ok value₂, now, left⟩ ∧ Agree value₁ value₂

/-- What a computation in two steps gives is given by the second step, after the first has given a value. -/
theorem exists_of_ending_bind {first : Evaluation α} {next : α → Evaluation β} {stack now : CallStack} {picks left : List Nat}
    {value : β} (succeeds : (first >>= next).ending stack picks = ⟨.ok value, now, left⟩) :
    ∃ value' now' left', first.ending stack picks = ⟨.ok value', now', left'⟩ ∧
      (next value').ending now' left' = ⟨.ok value, now, left⟩ := by
  rw [ending_bind] at succeeds
  split at succeeds
  · rename_i value' now' left' ends
    exact ⟨value', now', left', ends, succeeds⟩
  · cases succeeds

/-- Succeeding alike is respected by doing one after another. -/
def succeeding : Congruence Evaluation Evaluation where
  Related := SucceedsLike
  done := by
    rintro α β Agree value₁ value₂ agree stack picks _ now left ⟨⟩
    exact ⟨value₂, rfl, agree⟩
  andThen := by
    intro α β γ δ Agree Goal first₁ first₂ next₁ next₂ first next stack picks value now left succeeds
    obtain ⟨value₁, now', left', ends₁, succeeds'⟩ := exists_of_ending_bind succeeds
    obtain ⟨value₂, ends₂, agree⟩ := first stack picks value₁ now' left' ends₁
    rw [ending_bind, ends₂]
    exact next value₁ value₂ agree now' left' value now left succeeds'

/-- What succeeds like a computation gives the same value. -/
theorem ending_of_succeeding {first second : Evaluation α} (alike : succeeding.Alike first second) {stack now : CallStack}
    {picks left : List Nat} {value : α} (succeeds : first.ending stack picks = ⟨.ok value, now, left⟩) :
    second.ending stack picks = ⟨.ok value, now, left⟩ := by
  obtain ⟨_, ends, rfl⟩ := alike stack picks value now left succeeds
  exact ends

/-- What has been attempted has ended in some way, and the computation goes on with its result. -/
theorem exists_of_ending_attempt_bind {body : Evaluation α} {next : Except TemplateError α → Evaluation β}
    {stack now : CallStack} {picks left : List Nat} {value : β}
    (succeeds : (Evaluating.attempt body >>= next : Evaluation β).ending stack picks = ⟨.ok value, now, left⟩) :
    ∃ result now' left', body.ending stack picks = ⟨result, now', left'⟩ ∧
      (next result).ending now' left' = ⟨.ok value, now, left⟩ := by
  rw [ending_bind, ending_attempt] at succeeds
  exact ⟨_, _, _, rfl, succeeds⟩

/-- A failure at a place gives no value. -/
theorem ending_failsAt_ne_ok {site : Site} {error : Place → TemplateError} {stack now : CallStack} {picks left : List Nat}
    {value : α} : (Evaluating.placeOf site >>= fun place => (Evaluating.fail (error place) : Evaluation α)).ending stack picks ≠
      ⟨.ok value, now, left⟩ := by
  intro succeeds
  obtain ⟨_, _, _, _, failed⟩ := exists_of_ending_bind succeeds
  cases failed

variable {environment : Environment} {strict lenient : Options} (isStrict : strict.isStrict = true)
  (isLenient : lenient.isStrict = false)

section Embedded

variable {calls₁ calls₂ : Calls Evaluation} {scope : Scope} {embedded : Embedded} {site : Site} {stack now : CallStack}
  {picks left : List Nat}

include isStrict

/-- Strict evaluation gives a value for an expression only if the expression has it and it is not null. -/
theorem strict_evalEmbedded {value : Value}
    (succeeds : (evalEmbedded (environment.withOptions strict) calls₁ embedded scope site).ending stack picks =
      ⟨.ok value, now, left⟩) :
    value ≠ .null ∧ (embedded.expression.eval (hostOf (environment.withOptions strict) calls₁) scope).ending stack picks =
      ⟨.ok value, now, left⟩ := by
  obtain ⟨result, now', left', ends, succeeds⟩ := exists_of_ending_attempt_bind succeeds
  have strictly : (environment.withOptions strict).options.isStrict = true := isStrict
  rw [ends]
  rcases result with error | found
  · -- Every failure is raised again.
    cases error with
    | expression place cause =>
      simp only [strictly] at succeeds
      exact absurd succeeds ending_failsAt_ne_ok
    | _ => cases succeeds
  · cases found with
    | null =>
      simp only [strictly, if_true] at succeeds
      exact absurd succeeds ending_failsAt_ne_ok
    | _ =>
      cases succeeds
      exact ⟨nofun, rfl⟩

/-- Strict evaluation decides a condition only if its expression has a value, which is not null. -/
theorem strict_evalCondition {holds : Bool}
    (succeeds : (evalCondition (environment.withOptions strict) calls₁ embedded scope site).ending stack picks =
      ⟨.ok holds, now, left⟩) :
    ∃ value : Value, value.truthy = holds ∧
      (embedded.expression.eval (hostOf (environment.withOptions strict) calls₁) scope).ending stack picks =
        ⟨.ok value, now, left⟩ := by
  obtain ⟨result, now', left', ends, succeeds⟩ := exists_of_ending_attempt_bind succeeds
  have strictly : (environment.withOptions strict).options.isStrict = true := isStrict
  rw [ends]
  rcases result with error | found
  · cases error with
    | expression place cause =>
      simp only [strictly, if_true] at succeeds
      exact absurd succeeds ending_failsAt_ne_ok
    | _ => cases succeeds
  · dsimp only at succeeds
    split at succeeds
    · exact absurd succeeds ending_failsAt_ne_ok
    · cases succeeds
      exact ⟨found, rfl, rfl⟩

omit isStrict

/-- Evaluation gives the value of an expression that is not null, under all options. -/
theorem ending_evalEmbedded_of_ok {options : Options} {value : Value} (given : value ≠ .null)
    (evaluated : (embedded.expression.eval (hostOf (environment.withOptions options) calls₂) scope).ending stack picks =
      ⟨.ok value, now, left⟩) :
    (evalEmbedded (environment.withOptions options) calls₂ embedded scope site).ending stack picks =
      ⟨.ok value, now, left⟩ := by
  rw [evalEmbedded, ending_bind, ending_attempt, evaluated]
  cases value with
  | null => exact absurd rfl given
  | _ => rfl

include isLenient

/-- Lenient evaluation takes a condition as its value says. -/
theorem lenient_evalCondition {value : Value}
    (evaluated : (embedded.expression.eval (hostOf (environment.withOptions lenient) calls₂) scope).ending stack picks =
      ⟨.ok value, now, left⟩) :
    (evalCondition (environment.withOptions lenient) calls₂ embedded scope site).ending stack picks =
      ⟨.ok value.truthy, now, left⟩ := by
  have leniently : (environment.withOptions lenient).options.isStrict = false := isLenient
  rw [evalCondition, ending_bind, ending_attempt, evaluated]
  simp [leniently]

end Embedded

include isStrict isLenient

/-- All of evaluation and expansion respects that lenience succeeds where strictness does. -/
theorem succeeding_respects : succeeding.Respects environment strict lenient where
  same _ stack picks value now left succeeds := ⟨value, succeeds, rfl⟩
  picks candidates stack picks pick now left succeeds := by
    rw [ending_pickOne] at succeeds ⊢
    obtain ⟨rfl, rfl, rfl⟩ : (pickAmong candidates picks).1 = pick ∧ stack = now ∧ (pickAmong candidates picks).2 = left := by
      simpa using succeeds
    exact ⟨_, rfl, rfl, fun text taken => mem_of_pickAmong taken⟩
  framed name first second alike stack picks value now left succeeds := by
    rw [ending_withFrame] at succeeds ⊢
    cases ends : first.ending (stack.push name) picks with | mk result now' left' =>
    rw [ends] at succeeds
    cases succeeds
    rw [ending_of_succeeding alike ends]
    exact ⟨value, rfl, rfl⟩
  embeds embedded alike := by
    constructor <;> intro site stack picks value now left succeeds
    · obtain ⟨given, evaluated⟩ := strict_evalEmbedded isStrict succeeds
      exact ⟨value, ending_evalEmbedded_of_ok given (ending_of_succeeding alike evaluated), rfl⟩
    · obtain ⟨found, rfl, evaluated⟩ := strict_evalCondition isStrict succeeds
      exact ⟨_, lenient_evalCondition isLenient (ending_of_succeeding alike evaluated), rfl⟩
  arguments expression site alike stack picks value now left succeeds := by
    obtain ⟨result, now', left', ends, succeeds⟩ := exists_of_ending_attempt_bind succeeds
    cases result with
    | error error => exact absurd succeeds ending_failsAt_ne_ok
    | ok found =>
      cases succeeds
      refine ⟨value, ?_, rfl⟩
      rw [evalArgument, ending_bind, ending_attempt, ending_of_succeeding alike ends]
      rfl

/-- Within whatever bound, what strict options let succeed, lenient ones that write line breaks alike let succeed. -/
theorem succeeding_within (breaks : strict.breaks = lenient.breaks) (limit : Nat) (name : String) (scope : Scope) :
    succeeding.Alike (evaluateWithin limit (environment.withOptions strict) name scope)
        (evaluateWithin limit (environment.withOptions lenient) name scope) ∧
      succeeding.Alike (expandWithin limit (environment.withOptions strict) name scope)
        (expandWithin limit (environment.withOptions lenient) name scope) := by
  have respects : succeeding.Respects environment strict lenient := succeeding_respects isStrict isLenient
  have written : (environment.withOptions strict).applyLineBreaks = (environment.withOptions lenient).applyLineBreaks := by
    funext value
    simp only [Environment.applyLineBreaks, Environment.withOptions, breaks]
  rw [evaluateWithin, evaluateWithin, expandWithin, expandWithin, written]
  exact ⟨Congruence.alike_bind _ ((respects.callsWithin limit).template name scope) fun value => Congruence.alike_pure _ _,
    Congruence.alike_bind _ (respects.expansionWithin limit name scope) fun values => Congruence.alike_pure _ _⟩

end Strictness

/--
Strict mode only adds failures.

What evaluation or expansion gives under strict options it gives under lenient ones, with whatever placeholder.
-/
theorem evaluate_expand_of_strict {collection : Collection} {options : Options} {files : FileTree}
    {functions : FunctionTable} {strict : Environment}
    (given : Environment.of collection { options with strict := some true } files functions = .ok strict)
    (placeholder : Option String) :
    ∃ lenient, Environment.of collection { options with strict := some false, placeholder := placeholder } files functions =
        .ok lenient ∧ ∀ name scope stack picks,
      (∀ value now left, (evaluate strict name scope).ending stack picks = ⟨.ok value, now, left⟩ →
        (evaluate lenient name scope).ending stack picks = ⟨.ok value, now, left⟩) ∧
      ∀ values now left, (expand strict name scope).ending stack picks = ⟨.ok values, now, left⟩ →
        (expand lenient name scope).ending stack picks = ⟨.ok values, now, left⟩ := by
  unfold Environment.of at given ⊢
  split at given
  · cases given
    refine ⟨_, rfl, fun name scope stack picks => ?_⟩
    -- The two environments differ in nothing but their options, which write line breaks alike.
    let environment : Environment := ⟨collection.registry, {}, collection.id, files, functions⟩
    let strict : Options := Options.orElse { options with strict := some true } collection.file.evaluationOptions
    let lenient : Options :=
      Options.orElse { options with strict := some false, placeholder := placeholder } collection.file.evaluationOptions
    obtain ⟨evaluated, expanded⟩ := @succeeding_within environment strict lenient rfl rfl rfl
      (environment.withOptions strict).depthLimit name scope
    exact ⟨fun value now left => ending_of_succeeding evaluated, fun values now left => ending_of_succeeding expanded⟩
  · cases given

/-- A template that greets a guest in one of two ways if there is one. -/
def guestbook : Collection :=
  -- Nothing in it is null when there is a guest.
  .ofText "# t\n- IF: $\x7bguest != ''\x7d\n  - $\x7bgreet(guest)\x7d!\n- ELSE:\n  - nobody\n\n# greet(n)\n- hi $\x7bn\x7d\n- hello $\x7bn\x7d"

/-- The surroundings of the guest book under strict options. -/
def guestbookStrictly : Environment :=
  -- The file has no options of its own.
  guestbook.alone.withOptions (Options.orElse { strict := some true } guestbook.file.evaluationOptions)

/-- A guest who is greeted strictly is greeted alike leniently, although there is a placeholder. -/
theorem guestbook_of_strict :
    let guest : Scope := .ofValue (.obj [("guest", .str "Ana")])
    Environment.of guestbook { strict := some true } {} [] = .ok guestbookStrictly ∧
      ∃ value now left, value.text = "hello Ana!" ∧
        (evaluate guestbookStrictly "t" guest).ending {} [1] = ⟨.ok value, now, left⟩ ∧
        ∃ lenient, Environment.of guestbook { strict := some false, placeholder := some "?" } {} [] = .ok lenient ∧
          (evaluate lenient "t" guest).ending {} [1] = ⟨.ok value, now, left⟩ := by
  intro guest
  have sound : guestbook.errors = [] := List.eq_nil_of_length_eq_zero (by decide +kernel)
  have given : Environment.of guestbook { strict := some true } {} [] = .ok guestbookStrictly := by
    rw [Environment.of, sound, guestbookStrictly, Environment.withOptions, Collection.alone]
  have greeted : ((evaluate guestbookStrictly "t" guest).ending {} [1]).result.toOption.map Value.text = some "hello Ana!" := by
    decide +kernel
  obtain ⟨lenient, leniently, succeeds⟩ := @evaluate_expand_of_strict _ {} _ _ _ given (some "?")
  cases ends : (evaluate guestbookStrictly "t" guest).ending {} [1] with | mk result now left =>
  rw [ends] at greeted
  obtain ⟨value, succeeded, text⟩ := Option.map_eq_some_iff.mp greeted
  obtain rfl : result = .ok value := eq_ok_of_toOption succeeded
  exact ⟨given, value, now, left, text, rfl, lenient, leniently, (succeeds "t" guest {} [1]).1 value now left ends⟩

end Phrasebook
