import Phrasebook.Proofs.Analysis.Soundness
import Phrasebook.Proofs.Evaluation.Completion

/-! Where every call passes as many arguments as its template has parameters, no run fails for their number. -/

namespace Phrasebook

/-- How many arguments a call passes to the template that it names. -/
def passedCount (name : String) (args : List Expression) : Nat :=
  -- The function that takes a template's name keeps the name for itself.
  if (splitRerun name).1 == "template" then args.length - 1 else args.length

/-- Whether the calls in the templates of an environment are ones that its templates can answer. -/
structure Environment.CountsFit (environment : Environment) : Prop where
  /-- A call with arguments passes one for each parameter. -/
  counts : ∀ caller name args, environment.Holds caller name args → ∀ target callee, callTarget? name args = some target →
    environment.registry.get? target = some callee →
      passedCount name args = 0 ∨ passedCount name args = callee.parameters.length
  /-- No call leads to files or to registered functions. -/
  contained : ∀ caller name args, environment.Holds caller name args → environment.Contains name
  /-- The function that takes a template's name is told a literal one. -/
  literal : ∀ caller name args, environment.Holds caller name args → (splitRerun name).1 = "template" →
    namesLiterally args = true
  /-- The literal has no exclamation mark. -/
  unmarked : ∀ caller name target rest, environment.Holds caller name (.literal (.str target) :: rest) →
    (splitRerun name).1 = "template" → splitRerun target = (target, false)
  /-- No template that is named like the function is called with an exclamation mark. -/
  unshadowed : environment.registry.has "template" = true → ∀ caller args, ¬ environment.Holds caller "template!" args

namespace Environment.CountsFit

variable {environment : Environment} (fit : environment.CountsFit) {caller name : String} {args : List Expression}
  (holds : environment.Holds caller name args) {values : List Value} (shape : List.Forall₂ Expression.CanBe args values)

include fit holds shape

/-- A call by name passes its template no arguments, or one for each parameter. -/
theorem named (other : (splitRerun name).1 ≠ "template") {callee : Template}
    (found : environment.lookup (splitRerun name).1 = .ok callee) :
    values = [] ∨ values.length = callee.parameters.length := by
  have target : callTarget? name args = some (splitRerun name).1 := by simp [callTarget?, other]
  have counted := fit.counts caller name args holds _ callee target (get?_of_lookup found)
  simpa [passedCount, other, shape.length_eq] using counted

/-- A call through the function that takes a template's name passes no arguments, or one for each parameter. -/
theorem targeted (function : (splitRerun name).1 = "template") {target : String} {rest : List Value}
    (names : templateTarget values = .ok (target, rest)) {callee : Template}
    (found : environment.lookup (splitRerun target).1 = .ok callee) :
    rest = [] ∨ rest.length = callee.parameters.length := by
  obtain ⟨more, rfl, others⟩ := literal_of_templateTarget (fit.literal caller name args holds function) shape names
  rw [fit.unmarked caller name target more holds function] at found
  have told : callTarget? name (.literal (.str target) :: more) = some target := by simp [callTarget?, function]
  have counted := fit.counts caller name _ holds _ callee told (get?_of_lookup found)
  simpa [passedCount, function, others.length_eq] using counted

end Environment.CountsFit

/-- Evaluations that end alike, and never fail for the number of arguments. -/
abbrev counting : Congruence Evaluation Evaluation :=
  -- All other errors may occur.
  Evaluation.endsAmong fun error => ∀ template expected got, error ≠ .argumentCount template expected got

/-- Failures, their handling and the places of errors are alike. -/
theorem counting_handles : counting.Handles fun error => ∀ template expected got, error ≠ .argumentCount template expected got :=
  Evaluation.endsAmong_handles fun _ _ _ others => others

/-- No loop is about the number of arguments. -/
theorem counting_loops (chain : List String) (template : String) (expected got : Nat) :
    TemplateError.loop chain ≠ .argumentCount template expected got := by simp

section Runs

variable {environment : Environment} {calls : Calls Evaluation} (fit : environment.CountsFit)
  (evaluates : ∀ callee scope, counting.Alike (calls.template callee scope) (calls.template callee scope))

include evaluates

/-- A call with the right number of arguments never fails for it. -/
theorem counting_callTemplate (name : String) {values : List Value} (scope : Scope)
    (counts : ∀ callee, environment.lookup (splitRerun name).1 = .ok callee →
      values = [] ∨ values.length = callee.parameters.length) :
    counting.Alike (callTemplate environment calls name values scope) (callTemplate environment calls name values scope) := by
  refine callee_alike counting_handles environment (fun callee found passed differ => ?_)
    fun callee bound _ _ => evaluates name bound
  exact absurd (counts callee found) (not_or.mpr ⟨passed, differ⟩)

include fit

/-- An expression whose calls are copies of those in a template never fails for the number of arguments. -/
theorem counting_eval {caller : String} (scope : Scope) (expression : Expression)
    (copied : expression.Everywhere (Expression.CopiesCall (environment.Holds caller))) :
    counting.Alike (expression.eval (hostOf environment calls) scope) (expression.eval (hostOf environment calls) scope) := by
  refine Expression.eval_alike counting (fun error => counting_handles.raises error) expression (fun _ _ => rfl)
    fun name args node => ⟨fun lazy => isNone_own_if lazy rfl, fun values shape => ?_⟩
  obtain ⟨originals, holds, same⟩ := copied _ node
  have shape := Expression.forall₂_canBe same shape
  have contained := fit.contained caller name originals holds
  refine hostOf_call_alike (fun _ => rfl) (fun _ _ => rfl) (fun _ _ _ => rfl) (fun error => counting_handles.raises error) ?_ ?_ ?_ ?_
  · rintro rfl target rest names
    exact counting_callTemplate evaluates target scope fun callee found =>
      fit.targeted holds shape (by decide +kernel) names found
  · rintro rfl
    exact absurd rfl contained.1
  · intro other has
    refine counting_callTemplate evaluates name scope fun callee found => fit.named holds shape (fun function => ?_) found
    -- The function has another name, and its name is not called with an exclamation mark.
    rw [Environment.hasTemplate, function] at has
    rcases eq_or_eq_append_of_splitRerun function with rfl | rfl
    · exact other List.mem_cons_self
    · exact fit.unshadowed has caller originals holds
  · exact fun other unknown _ _ found _ => absurd found (not_registered contained.2 other unknown)

/-- An embedded expression whose calls are copies of those in a template never fails for the number of arguments. -/
theorem counting_embeds {caller : String} (scope : Scope) (embedded : Embedded)
    (copied : embedded.expression.Everywhere (Expression.CopiesCall (environment.Holds caller))) :
    counting.EmbedsAlike environment environment calls calls scope scope embedded :=
  embedsAlike_of_eval counting_handles rfl embedded (counting_eval fit evaluates scope embedded.expression copied)

omit evaluates

/-- No call within a bound fails for the number of arguments of the calls that it makes. -/
theorem counting_callsWithin (limit : Nat) (callee : String) (scope : Scope) :
    counting.Alike ((callsWithin limit environment).template callee scope)
      ((callsWithin limit environment).template callee scope) := by
  induction limit generalizing callee scope with
  | zero => exact counting_handles.fails _ (by simp)
  | succ limit evaluates =>
    refine Evaluation.endsAmong_evalTemplate counting_handles counting_loops rfl callee rfl fun template found => ?_
    refine evalBody_alike template.body (fun candidates _ => Evaluation.endsAmong_picks candidates) fun embedded among => ?_
    have known := Expression.allCalls_of_calls fun embedded inside name args node =>
      (⟨template, get?_of_lookup found, embedded, inside, node⟩ : environment.Holds (splitRerun callee).1 name args)
    exact counting_embeds fit evaluates scope embedded (Expression.everywhere_copiesCall (known embedded among))

/-- No expansion within a bound fails for the number of arguments of the calls that it makes. -/
theorem counting_expansionWithin (limit : Nat) (callee : String) (scope : Scope) :
    counting.Alike (expansionWithin environment limit callee scope) (expansionWithin environment limit callee scope) := by
  induction limit generalizing callee scope with
  | zero => exact counting_handles.fails _ (by simp)
  | succ limit expands =>
    have evaluates := counting_callsWithin fit limit
    refine Evaluation.endsAmong_expandTemplate counting_handles counting_loops callee scope fun template found => ?_
    have known := Expression.allCalls_of_calls fun embedded inside name args node =>
      (⟨template, get?_of_lookup found, embedded, inside, node⟩ : environment.Holds (splitRerun callee).1 name args)
    -- A call is expanded with the values of its arguments.
    have called (target : String) (values : List Value) (counts : ∀ callee, environment.lookup (splitRerun target).1 = .ok callee →
        values = [] ∨ values.length = callee.parameters.length) :
        counting.Alike (expandCall ⟨environment, callsWithin limit environment, expansionWithin environment limit⟩ target values scope)
          (expandCall ⟨environment, callsWithin limit environment, expansionWithin environment limit⟩ target values scope) := by
      refine callee_alike counting_handles environment (fun callee found passed differ => ?_)
        fun callee bound _ _ => expands target bound
      exact absurd (counts callee found) (not_or.mpr ⟨passed, differ⟩)
    have delegates : counting.DelegatesAlike environment environment (callsWithin limit environment) (callsWithin limit environment)
        (expansionWithin environment limit) (expansionWithin environment limit) scope
        (environment.Holds (splitRerun callee).1) Expression.CanBe := by
      refine ⟨rfl, fun embedded copied => ?_, fun _ _ _ _ _ _ copy site _ copied => ?_,
        fun _ _ _ error _ _ _ => counting_handles.raises error, fun name args values passes other => ?_,
        fun name args values target rest passes function names => ?_⟩
      · exact counting_embeds fit evaluates scope embedded (copied.copiesCall_mono fun _ _ left => left.1)
      · exact evalArgument_canBe counting_handles (fun _ => rfl) (fun _ => rfl) copy site
          (counting_eval fit evaluates scope copy (copied.copiesCall_mono fun _ _ left => left.1))
      · exact called name values fun callee found => fit.named passes.1 passes.canBe other found
      · exact called target rest fun callee found => fit.targeted passes.1 passes.canBe function names found
    refine expandBody_alike delegates template.body known fun guard inside => ?_
    exact counting_embeds fit evaluates scope guard
      (Expression.everywhere_copiesCall (known guard (template.body.guards_subset inside)))

/-- Neither evaluation nor expansion fails for the number of arguments, within whatever bound. -/
theorem ne_argumentCount_of_countsFit (limit : Nat) (name : String) (scope : Scope) (stack : CallStack) (picks : List Nat)
    (template : String) (expected got : Nat) :
    (Evaluation.ending (evaluateWithin limit environment name scope) stack picks).result ≠
        .error (.argumentCount template expected got) ∧
      (Evaluation.ending (expandWithin limit environment name scope) stack picks).result ≠
        .error (.argumentCount template expected got) := by
  -- Line breaks are written without failing.
  have evaluated : counting.Alike (evaluateWithin limit environment name scope) (evaluateWithin limit environment name scope) :=
    Congruence.alike_bind _ (counting_callsWithin fit limit name scope) fun value => Congruence.alike_pure _ _
  have expanded : counting.Alike (expandWithin limit environment name scope) (expandWithin limit environment name scope) :=
    Congruence.alike_bind _ (counting_expansionWithin fit limit name scope) fun values => Congruence.alike_pure _ _
  exact ⟨fun failed => Evaluation.may_of_alike evaluated failed _ _ _ rfl,
    fun failed => Evaluation.may_of_alike expanded failed _ _ _ rfl⟩

end Runs

end Phrasebook
