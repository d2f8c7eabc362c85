import Phrasebook.Proofs.Evaluation.Memo

/-! What a run comes to depends on what the innermost template keeps of its calls, but not on what those beneath it keep. -/

namespace Phrasebook

namespace CallStack

/-- What is found for a call is the newest entry that the innermost running template keeps for it. -/
theorem cached?_eq (stack : CallStack) (key : MemoKey) :
    stack.cached? key = if stack.memoized then (stack.memo.find? (·.1 == key)).map (·.2) else none := by
  obtain ⟨frames, memoized⟩ := stack
  cases frames <;> rfl

/-- Keeping the result of one call changes nothing that is found for others. -/
theorem cached?_store_of_ne (stack : CallStack) {key other : MemoKey} (value : Value) (differ : other ≠ key) :
    (stack.store key value).cached? other = stack.cached? other := by
  obtain ⟨frames, memoized⟩ := stack
  have passed : (key == other) = false := beq_false_of_ne differ.symm
  cases memoized with
  | false => rfl
  | true =>
    cases frames with
    | nil => rfl
    | cons frame rest =>
      simp only [store, cached?, if_true, List.find?_cons, passed]

/-- A stack that has come from another one by keeping results of calls for which nothing was found. -/
inductive Grows (before : CallStack) : CallStack → Prop where
  /-- Nothing more is kept. -/
  | same : Grows before before
  /-- One more result is kept. -/
  | store {after : CallStack} {key : MemoKey} (earlier : Grows before after) (new : after.cached? key = none)
    (value : Value) : Grows before (after.store key value)

/-- Stacks grow further. -/
theorem Grows.trans {first second third : CallStack} (earlier : first.Grows second) (later : second.Grows third) :
    first.Grows third := by
  induction later with
  | same => exact earlier
  | store _ new value ih => exact .store ih new value

/-- A stack that grows keeps its frames. -/
theorem Grows.keptIn {before after : CallStack} (grows : before.Grows after) : before.KeptIn after := by
  induction grows with
  | same => exact .refl before
  | store _ _ value ih => exact ih.trans (keptIn_store _ _ value)

/-- What is found on a stack is found on every stack that it grows into. -/
theorem Grows.cached? {before after : CallStack} (grows : before.Grows after) {key : MemoKey} {value : Value}
    (found : before.cached? key = some value) : after.cached? key = some value := by
  induction grows with
  | same => exact found
  | @store after other earlier new value' ih =>
    -- Nothing was found for the call whose result has been added.
    have differ : key ≠ other := by
      rintro rfl
      rw [ih] at new
      cases new
    rw [cached?_store_of_ne after value' differ, ih]

/-- The same templates run on two stacks, and the innermost one has kept the same; what the others keep may differ. -/
structure Peers (first second : CallStack) : Prop where
  /-- The same templates run. -/
  names : first.names = second.names
  /-- Results are kept on both stacks or on neither. -/
  memoized : first.memoized = second.memoized
  /-- The innermost running template has kept the same. -/
  memo : first.memo = second.memo

/-- The same is found on both of two peers. -/
theorem Peers.cached? {first second : CallStack} (peers : first.Peers second) (key : MemoKey) :
    first.cached? key = second.cached? key := by
  rw [cached?_eq, cached?_eq, peers.memoized, peers.memo]

/-- The same template is the innermost one. -/
theorem Peers.current? {first second : CallStack} (peers : first.Peers second) : first.current? = second.current? := by
  simp only [CallStack.current?, ← List.head?_map]
  exact congrArg List.head? peers.names

/-- Peers stay peers where the same result is kept. -/
theorem Peers.store {first second : CallStack} (peers : first.Peers second) (key : MemoKey) (value : Value) :
    (first.store key value).Peers (second.store key value) := by
  obtain ⟨frames₁, memoized⟩ := first
  obtain ⟨frames₂, _⟩ := second
  obtain ⟨names, rfl, memo⟩ := peers
  cases memoized with
  | false => exact ⟨names, rfl, memo⟩
  | true =>
    cases frames₁ with
    | nil =>
      cases frames₂ with
      | nil => exact ⟨rfl, rfl, rfl⟩
      | cons frame rest => cases names
    | cons frame₁ rest₁ =>
      cases frames₂ with
      | nil => cases names
      | cons frame₂ rest₂ => exact ⟨names, rfl, congrArg (List.cons (key, value)) memo⟩

/-- A template that starts to run has kept nothing, whatever the templates beneath it keep. -/
theorem peers_push {first second : CallStack} (names : first.names = second.names)
    (memoized : first.memoized = second.memoized) (name : String) : (first.push name).Peers (second.push name) :=
  ⟨congrArg (List.cons name) names, memoized, rfl⟩

end CallStack

namespace Evaluation

variable {α β γ δ : Type}

/-- From peers and under all picks, two computations come to the same, and both stacks grow alike. -/
def Abreast (Agree : α → β → Prop) (first : Evaluation α) (second : Evaluation β) : Prop :=
  -- What the templates beneath the innermost one keep has no part in it.
  ∀ stack₁ stack₂ picks, stack₁.Peers stack₂ → ∃ result₁ result₂ now₁ now₂ left,
    first.ending stack₁ picks = ⟨result₁, now₁, left⟩ ∧ second.ending stack₂ picks = ⟨result₂, now₂, left⟩ ∧
      ResultsAgree Agree result₁ result₂ ∧ stack₁.Grows now₁ ∧ stack₂.Grows now₂ ∧ now₁.Peers now₂

/-- Growing alike is respected by doing one after another. -/
def abreast : Congruence Evaluation Evaluation where
  Related := Abreast
  done agree stack₁ stack₂ picks peers := ⟨_, _, stack₁, stack₂, picks, rfl, rfl, .ok agree, .same, .same, peers⟩
  andThen := by
    intro α β γ δ Agree Goal first₁ first₂ next₁ next₂ first next stack₁ stack₂ picks peers
    obtain ⟨result₁, result₂, now₁, now₂, left, ends₁, ends₂, agree, grows₁, grows₂, peers'⟩ := first stack₁ stack₂ picks peers
    rw [ending_bind, ending_bind, ends₁, ends₂]
    cases agree with
    | error error => exact ⟨_, _, now₁, now₂, left, rfl, rfl, .error error, grows₁, grows₂, peers'⟩
    | ok agree =>
      obtain ⟨result₁', result₂', later₁, later₂, left', ends₁', ends₂', agree', grows₁', grows₂', peers''⟩ :=
        next _ _ agree now₁ now₂ left peers'
      exact ⟨result₁', result₂', later₁, later₂, left', ends₁', ends₂', agree', grows₁.trans grows₁', grows₂.trans grows₂',
        peers''⟩

/-- Failures, their handling and the places of errors are the same on peers. -/
theorem abreast_handles : abreast.Handles fun _ => True where
  fails error _ stack₁ stack₂ picks peers := ⟨_, _, stack₁, stack₂, picks, rfl, rfl, .error error, .same, .same, peers⟩
  attempts body stack₁ stack₂ picks peers := by
    obtain ⟨result₁, result₂, now₁, now₂, left, ends₁, ends₂, agree, grows₁, grows₂, peers'⟩ := body stack₁ stack₂ picks peers
    rw [ending_attempt, ending_attempt, ends₁, ends₂]
    exact ⟨_, _, now₁, now₂, left, rfl, rfl, .ok ⟨agree.eq, fun _ _ => trivial⟩, grows₁, grows₂, peers'⟩
  places site stack₁ stack₂ picks peers := by
    refine ⟨_, _, stack₁, stack₂, picks, rfl, rfl, .ok ?_, .same, .same, peers⟩
    rw [peers.current?]
  others _ _ _ _ := trivial

/-- The same picks take the same alternative. -/
theorem abreast_picks (candidates : List TemplateText) : abreast.PicksAlike candidates := by
  intro stack₁ stack₂ picks peers
  rw [ending_pickOne, ending_pickOne]
  exact ⟨_, _, stack₁, stack₂, _, rfl, rfl, .ok ⟨rfl, fun text taken => mem_of_pickAmong taken⟩, .same, .same, peers⟩

/-- A computation on a stack of its own leaves peers as they are. -/
theorem abreast_isolated {first second : Evaluation α} (body : abreast.Alike first second) :
    abreast.Alike (Evaluating.isolated first) (Evaluating.isolated second) := by
  intro stack₁ stack₂ picks peers
  obtain ⟨result₁, result₂, now₁, now₂, left, ends₁, ends₂, agree, -⟩ := body {} {} picks ⟨rfl, rfl, rfl⟩
  rw [ending_isolated, ending_isolated, ends₁, ends₂]
  exact ⟨_, _, stack₁, stack₂, left, rfl, rfl, .ok agree.eq, .same, .same, peers⟩

/-- What runs inside a frame leaves every stack as it is, and comes to the same wherever the same templates run. -/
theorem exists_ending_withFrame {body : Evaluation α} (alike : abreast.Alike body body) (name : String) (stack : CallStack)
    (picks : List Nat) : ∃ result left, ∀ other : CallStack, other.names = stack.names → other.memoized = stack.memoized →
      (Evaluating.withFrame name body : Evaluation α).ending other picks = ⟨result, other, left⟩ := by
  refine ⟨(body.ending (stack.push name) picks).result, (body.ending (stack.push name) picks).left, ?_⟩
  intro other names memoized
  have peers := CallStack.peers_push names memoized name
  obtain ⟨result₁, result₂, now₁, now₂, left, ends₁, ends₂, agree, grows, -, -⟩ := alike _ _ picks peers
  -- The frame that has been pushed is all that has changed.
  have popped := CallStack.pop_eq_of_keptIn_push grows.keptIn
  rw [ending_withFrame, ends₁, ends₂, popped, agree.eq]

end Evaluation

open Evaluation

/-- What a call of a template does to its caller's stack, given what the template comes to if it has to run. -/
def CallStack.settleCall (stack : CallStack) (key : MemoKey) (rerun : Bool) (picks : List Nat)
    (entered : Except TemplateError Value × List Nat) : Ending Value :=
  -- An exclamation mark neither uses nor keeps a result.
  match rerun, stack.cached? key with
  | false, some value => ⟨.ok value, stack, picks⟩
  | true, _ => ⟨entered.1, stack, entered.2⟩
  | false, none =>
    match entered.1 with
    | .ok value => ⟨.ok value, stack.store key value, entered.2⟩
    | .error error => ⟨.error error, stack, entered.2⟩

/-- All three kinds of calls come to the same on peers. -/
structure CallsAbreast (calls : Calls Evaluation) : Prop where
  /-- Templates are called by name. -/
  template : ∀ name scope, abreast.Alike (calls.template name scope) (calls.template name scope)
  /-- The texts of files are evaluated. -/
  text : ∀ text scope, abreast.Alike (calls.text text scope) (calls.text text scope)
  /-- Exported templates are called. -/
  exported : ∀ owner name args scope,
    abreast.Alike (calls.exported owner name args scope) (calls.exported owner name args scope)

section Walk

variable {environment : Environment} {calls : Calls Evaluation}

/-- A call of a template with arguments comes to the same on peers. -/
theorem CallsAbreast.called (alike : CallsAbreast calls) (name : String) (args : List Value) (scope : Scope) :
    abreast.Alike (callTemplate environment calls name args scope) (callTemplate environment calls name args scope) := by
  exact callee_alike abreast_handles environment (fun _ _ _ _ => trivial) fun _ bound _ _ => alike.template name bound

/-- A file is included alike on peers. -/
theorem CallsAbreast.included (alike : CallsAbreast calls) (args : List Value) (scope : Scope) :
    abreast.Alike (includeFile environment calls args scope) (includeFile environment calls args scope) := by
  -- It is looked for from the file of the innermost template.
  have places : abreast.Related (fun stack₁ stack₂ =>
      currentSource environment stack₁ = currentSource environment stack₂ ∧ True)
      (Evaluating.stack : Evaluation CallStack) Evaluating.stack := by
    intro stack₁ stack₂ picks peers
    refine ⟨_, _, stack₁, stack₂, picks, rfl, rfl, .ok ⟨?_, trivial⟩, .same, .same, peers⟩
    rw [currentSource, currentSource, peers.current?]
  exact includeFile_alike abreast_handles rfl (abreast.alike_pure ()) (fun _ => True) places
    fun _ _ _ text _ _ _ _ => alike.text text scope

/-- Every embedded expression comes to the same on peers. -/
theorem CallsAbreast.embeds (alike : CallsAbreast calls) (scope : Scope) (embedded : Embedded) :
    abreast.EmbedsAlike environment environment calls calls scope scope embedded := by
  refine embedsAlike_of_eval abreast_handles rfl embedded ?_
  refine Expression.eval_alike abreast (fun error => abreast_handles.raises error) embedded.expression (fun _ _ => rfl)
    fun name args _ => ⟨fun lazy => isNone_own_if lazy rfl, fun values _ => ?_⟩
  exact hostOf_call_alike (fun _ => rfl) (fun _ _ => rfl) (fun _ _ _ => rfl) (fun error => abreast_handles.raises error)
    (fun _ target rest _ => alike.called target rest scope) (fun _ => alike.included values scope)
    (fun _ _ => alike.called name values scope)
    fun _ _ _ _ found₁ found₂ => registered_alike abreast_handles rfl (abreast.alike_pure ())
      (fun owner template _ => alike.exported owner template values scope) found₁ found₂

/-- Every body comes to the same on peers. -/
theorem CallsAbreast.body (alike : CallsAbreast calls) (scope : Scope) (body : Body) :
    abreast.Alike (evalBody environment calls scope body) (evalBody environment calls scope body) :=
  evalBody_alike body (fun candidates _ => abreast_picks candidates) fun embedded _ => alike.embeds scope embedded

variable (environment) in
/--
What a call of a template comes to, wherever the same templates run.

Either it is refused, or what it comes to is told by what the template comes to if it has to run, which is always the same.
-/
theorem CallsAbreast.exists_ending (alike : CallsAbreast calls) (name : String) (scope : Scope) (stack : CallStack)
    (picks : List Nat) :
    (∃ error, ∀ other : CallStack, other.names = stack.names →
      (evalTemplate environment calls name scope).ending other picks = ⟨.error error, other, picks⟩) ∨
    ∃ entered, ∀ other : CallStack, other.names = stack.names → other.memoized = stack.memoized →
      (evalTemplate environment calls name scope).ending other picks =
        other.settleCall ⟨(splitRerun name).1, scope.fingerprint⟩ (splitRerun name).2 picks entered := by
  cases looked : environment.lookup (splitRerun name).1 with
  | error error =>
    refine .inl ⟨error, fun other _ => ?_⟩
    rw [ending_evalTemplate, looked]
  | ok template =>
    by_cases running : (splitRerun name).1 ∈ stack.names
    · refine .inl ⟨.loop (stack.names.reverse ++ [(splitRerun name).1]), fun other names => ?_⟩
      simp only [ending_evalTemplate, looked, names, if_pos running]
    · have body : abreast.Alike (evalBody environment calls scope template.body) _ := alike.body scope template.body
      obtain ⟨result, left, framed⟩ := exists_ending_withFrame body (splitRerun name).1 stack picks
      refine .inr ⟨(result, left), fun other names memoized => ?_⟩
      simp only [ending_evalTemplate, looked, names, if_neg running, framed other names memoized, CallStack.settleCall]
      cases (splitRerun name).2 with
      | true => rfl
      | false => cases other.cached? ⟨(splitRerun name).1, scope.fingerprint⟩ <;> cases result <;> rfl

/-- A template that is evaluated by name comes to the same on peers, and both of them grow alike. -/
theorem CallsAbreast.evalTemplate (alike : CallsAbreast calls) (name : String) (scope : Scope) :
    abreast.Alike (evalTemplate environment calls name scope : Evaluation Value)
      (Phrasebook.evalTemplate environment calls name scope) := by
  intro stack₁ stack₂ picks peers
  rcases alike.exists_ending environment name scope stack₂ picks with ⟨error, ends⟩ | ⟨entered, ends⟩
  · rw [ends stack₁ peers.names, ends stack₂ rfl]
    exact ⟨_, _, stack₁, stack₂, picks, rfl, rfl, .error error, .same, .same, peers⟩
  · rw [ends stack₁ peers.names peers.memoized, ends stack₂ rfl rfl]
    obtain ⟨result, left⟩ := entered
    unfold CallStack.settleCall
    rw [peers.cached?]
    cases (splitRerun name).2 with
    | true => exact ⟨_, _, stack₁, stack₂, left, rfl, rfl, .refl result, .same, .same, peers⟩
    | false =>
      cases found : stack₂.cached? ⟨(splitRerun name).1, scope.fingerprint⟩ with
      | some value => exact ⟨_, _, stack₁, stack₂, picks, rfl, rfl, .ok rfl, .same, .same, peers⟩
      | none =>
        cases result with
        | error error => exact ⟨_, _, stack₁, stack₂, left, rfl, rfl, .error error, .same, .same, peers⟩
        | ok value =>
          exact ⟨_, _, _, _, left, rfl, rfl, .ok rfl, .store .same ((peers.cached? _).trans found) value,
            .store .same found value, peers.store _ value⟩

end Walk

/-- All calls within a bound come to the same on peers. -/
theorem callsAbreast_callsWithin (limit : Nat) : ∀ environment, CallsAbreast (callsWithin limit environment) := by
  have refused {α : Type} : abreast.Alike (Evaluating.refuse : Evaluation α) Evaluating.refuse :=
    abreast_handles.fails .unfinished trivial
  induction limit with
  | zero => exact fun _ => ⟨fun _ _ => refused, fun _ _ => refused, fun _ _ _ _ => refused⟩
  | succ limit calls =>
    intro environment
    refine ⟨(calls environment).evalTemplate, fun text scope => ?_, fun owner name args scope => ?_⟩
    · exact evalText_alike .text text fun embedded _ => (calls environment).embeds scope embedded
    · -- The exporting file has an environment of its own.
      change abreast.Alike (callExported (callsWithin limit) environment owner name args scope)
        (callExported (callsWithin limit) environment owner name args scope)
      unfold callExported
      refine abreast.alike_bind (abreast_handles.ofExcept _ fun _ _ => trivial) fun exporter => ?_
      refine abreast.alike_bind (abreast_isolated ((calls exporter).called name args scope)) fun result => ?_
      exact abreast_handles.ofExcept result fun _ _ => trivial

/-- What comes to the same on peers lets every stack grow. -/
theorem Evaluation.grows_of_alike {α : Type} {body : Evaluation α} (alike : abreast.Alike body body) (stack : CallStack)
    (picks : List Nat) : stack.Grows (body.ending stack picks).stack := by
  obtain ⟨_, _, now, _, left, ends, -, -, grows, -⟩ := alike stack stack picks ⟨rfl, rfl, rfl⟩
  rw [ends]
  exact grows

end Phrasebook
