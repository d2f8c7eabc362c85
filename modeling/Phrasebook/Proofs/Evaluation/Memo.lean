import Phrasebook.Proofs.Evaluation.Discipline
import Phrasebook.Proofs.Value.Compact

/-! Where nothing is picked at random, keeping results of calls changes no result. -/

namespace Phrasebook

/-- Nothing is picked at random, and neither files nor registered functions are used. -/
structure ChoiceFree (environment : Environment) : Prop where
  /-- There is at most one alternative everywhere. -/
  single : ∀ entry ∈ environment.registry, ∀ candidates ∈ entry.2.body.alternatives, candidates.length ≤ 1
  /-- No call leads out of the templates. -/
  contained : ∀ entry ∈ environment.registry, ∀ embedded ∈ entry.2.expressions, ∀ name args,
    .call name args ∈ embedded.expression.nodes → environment.Contains name

/-- Scopes over one global layer that have the same fingerprint are the same. -/
theorem Scope.eq_of_fingerprint {scope₁ scope₂ : Scope} (globals : scope₁.globals = scope₂.globals)
    (same : scope₁.fingerprint = scope₂.fingerprint) : scope₁ = scope₂ := by
  -- JSON texts of different layers differ.
  obtain ⟨globals₁, locals₁⟩ := scope₁
  obtain ⟨globals₂, locals₂⟩ := scope₂
  obtain rfl : globals₁ = globals₂ := globals
  simp only [fingerprint] at same
  cases locals₁ with
  | none => cases locals₂ with
    | none => rfl
    | some fields => cases same
  | some fields₁ => cases locals₂ with
    | none => cases same
    | some fields₂ =>
      have layers := Value.compact_injective (Option.some.inj same)
      rw [Value.obj.inj layers]

/-- One alternative is taken without a pick. -/
theorem pickAmong_of_length_le {α : Type} {alternatives : List α} (single : alternatives.length ≤ 1)
    (picks : List Nat) : pickAmong alternatives picks = (alternatives.head?, picks) := by
  rcases alternatives with _ | ⟨only, _ | ⟨second, rest⟩⟩
  · rfl
  · rfl
  · simp at single

/-- The run of a template that is evaluated by name, told by the run of its body inside a frame. -/
theorem ending_evalTemplate (environment : Environment) (calls : Calls Evaluation) (name : String) (scope : Scope)
    (stack : CallStack) (picks : List Nat) :
    (evalTemplate environment calls name scope).ending stack picks =
      match environment.lookup (splitRerun name).1 with
      | .error error => ⟨.error error, stack, picks⟩
      | .ok template =>
        if (splitRerun name).1 ∈ stack.names then
          ⟨.error (.loop (stack.names.reverse ++ [(splitRerun name).1])), stack, picks⟩
        else
          match (splitRerun name).2, stack.cached? ⟨(splitRerun name).1, scope.fingerprint⟩,
            Evaluation.ending (Evaluating.withFrame (splitRerun name).1 (evalBody environment calls scope template.body))
              stack picks with
          | false, some value, _ => ⟨.ok value, stack, picks⟩
          | true, _, entered => entered
          | false, none, ⟨.ok value, now, left⟩ =>
            ⟨.ok value, now.store ⟨(splitRerun name).1, scope.fingerprint⟩ value, left⟩
          | false, none, ⟨.error error, now, left⟩ => ⟨.error error, now, left⟩ := by
  unfold evalTemplate
  cases splitRerun name with | mk base rerun =>
  dsimp only
  cases environment.lookup base with
  | error error => rfl
  | ok template =>
    simp only [Evaluating.ofExcept, pure_bind, Evaluation.ending_bind, Evaluation.ending_checkLoop,
      Evaluation.ending_stack]
    by_cases running : base ∈ stack.names
    · simp only [running, if_true]
    · simp only [running, if_false]
      cases rerun with
      | true => rfl
      | false =>
        cases stack.cached? ⟨base, scope.fingerprint⟩ with
        | some value => rfl
        | none =>
          simp only [Evaluation.ending_bind, Evaluation.ending_change, Evaluation.ending_pure]
          cases Evaluation.ending (Evaluating.withFrame base (evalBody environment calls scope template.body)) stack
            picks with | mk result now left =>
          cases result <;> rfl

/-- What is found is kept by the innermost running template. -/
theorem mem_memo_of_cached? {stack : CallStack} {key : MemoKey} {value : Value}
    (hit : stack.cached? key = some value) : (key, value) ∈ stack.memo := by
  unfold CallStack.cached? at hit
  split at hit
  · unfold CallStack.memo
    split at hit
    · simp only [Option.map_eq_some_iff] at hit
      obtain ⟨entry, first, rfl⟩ := hit
      obtain rfl : entry.1 = key := by simpa using List.find?_some first
      simpa [*] using List.mem_of_find?_eq_some first
    · cases hit
  · cases hit

/-- Keeping one more result adds nothing else to what is kept. -/
theorem mem_memo_store {stack : CallStack} {key : MemoKey} {value : Value} {entry : MemoKey × Value}
    (inside : entry ∈ (stack.store key value).memo) : entry = (key, value) ∨ entry ∈ stack.memo := by
  unfold CallStack.store at inside
  split at inside
  · split at inside
    · simpa [CallStack.memo, *] using inside
    · exact .inr inside
  · exact .inr inside

/-- What is kept, and what evaluating it afresh takes. -/
structure Afresh where
  /-- The environment. -/
  environment : Environment
  /-- How deeply calls may nest. -/
  limit : Nat
  /-- The layer that all calls share. -/
  globals : Value
  /-- The picks, none of which is ever made. -/
  picks : List Nat

namespace Afresh

variable {α β γ δ : Type} (afresh : Afresh)

/-- Every result that is kept is what evaluating the call afresh on a stack without results gives. -/
def Sound (bare : CallStack) (memo : Memo) : Prop :=
  -- A call is told by its template and by the local layer of its scope.
  ∀ key value, (key, value) ∈ memo → ∀ name scope, splitRerun name = (key.name, false) →
    scope.globals = afresh.globals → scope.fingerprint = key.locals →
      Evaluation.ending ((callsWithin afresh.limit afresh.environment).template name scope) bare afresh.picks =
        ⟨.ok value, bare, afresh.picks⟩

/-- The same templates run on two stacks, of which only the first keeps results, and those are sound. -/
structure Twins (kept bare : CallStack) : Prop where
  /-- The same templates run. -/
  names : kept.names = bare.names
  /-- The first stack keeps results. -/
  memoized : kept.memoized = true
  /-- The second stack keeps none. -/
  unmemoized : bare.memoized = false
  /-- What is kept is sound. -/
  sound : afresh.Sound bare kept.memo

variable {afresh} in
/-- What evaluating a call afresh gives can be kept. -/
theorem Twins.store {kept bare : CallStack} (twins : afresh.Twins kept bare) {name base : String} {scope : Scope}
    {value : Value} (parts : splitRerun name = (base, false)) (globals : scope.globals = afresh.globals)
    (plain : Evaluation.ending ((callsWithin afresh.limit afresh.environment).template name scope) bare afresh.picks =
      ⟨.ok value, bare, afresh.picks⟩) :
    afresh.Twins (kept.store ⟨base, scope.fingerprint⟩ value) bare := by
  have stored := kept.keptIn_store ⟨base, scope.fingerprint⟩ value
  refine ⟨stored.names.trans twins.names, stored.memoized.trans twins.memoized, twins.unmemoized, ?_⟩
  intro key other inside name' scope' parts' globals' same
  rcases mem_memo_store inside with new | old
  · -- The new result is told by the template and by what is bound, and so is the call.
    obtain ⟨rfl, rfl⟩ := Prod.mk.inj new
    obtain rfl := (eq_of_splitRerun parts').trans (eq_of_splitRerun parts).symm
    obtain rfl := Scope.eq_of_fingerprint (globals'.trans globals.symm) same
    exact plain
  · exact twins.sound key other old name' scope' parts' globals' same

/-- From twin stacks, two computations come to the same, and end on twin stacks again. -/
def Transparent (Agree : α → β → Prop) (memoized : Evaluation α) (plain : Evaluation β) : Prop :=
  -- The stack without results is not changed at all, and no pick is made.
  ∀ kept bare, afresh.Twins kept bare → ∃ result₁ result₂ now,
    memoized.ending kept afresh.picks = ⟨result₁, now, afresh.picks⟩ ∧
    plain.ending bare afresh.picks = ⟨result₂, bare, afresh.picks⟩ ∧
    ResultsAgree Agree result₁ result₂ ∧ now.frames.tail = kept.frames.tail ∧ afresh.Twins now bare

/-- Coming to the same with and without kept results is respected by doing one after another. -/
def congruence : Congruence Evaluation Evaluation where
  Related := afresh.Transparent
  done agree kept bare twins := ⟨_, _, kept, rfl, rfl, .ok agree, rfl, twins⟩
  andThen := by
    intro α β γ δ Agree Goal first₁ first₂ next₁ next₂ first next kept bare twins
    obtain ⟨result₁, result₂, now, ends₁, ends₂, agree, beneath, twins'⟩ := first kept bare twins
    rw [Evaluation.ending_bind, Evaluation.ending_bind, ends₁, ends₂]
    cases agree with
    | error error => exact ⟨_, _, now, rfl, rfl, .error error, beneath, twins'⟩
    | ok agree =>
      obtain ⟨result₁', result₂', later, ends₁', ends₂', agree', beneath', twins''⟩ := next _ _ agree now bare twins'
      exact ⟨result₁', result₂', later, ends₁', ends₂', agree', beneath'.trans beneath, twins''⟩

/-- Failures, their handling and the places of errors are the same with and without kept results. -/
theorem handles : afresh.congruence.Handles fun _ => True where
  fails error _ kept bare twins := ⟨_, _, kept, rfl, rfl, .error error, rfl, twins⟩
  attempts body kept bare twins := by
    obtain ⟨result₁, result₂, now, ends₁, ends₂, agree, beneath, twins'⟩ := body kept bare twins
    rw [Evaluation.ending_attempt, Evaluation.ending_attempt, ends₁, ends₂]
    exact ⟨_, _, now, rfl, rfl, .ok ⟨agree.eq, fun _ _ => trivial⟩, beneath, twins'⟩
  places site kept bare twins := by
    refine ⟨_, _, kept, rfl, rfl, .ok ?_, rfl, twins⟩
    have same : kept.current? = bare.current? := by
      simp only [CallStack.current?, ← List.head?_map]
      exact congrArg List.head? twins.names
    rw [same]
  others _ _ _ _ := trivial

/-- A single alternative is the same with and without kept results. -/
theorem picksAlike {candidates : List TemplateText} (single : candidates.length ≤ 1) :
    afresh.congruence.PicksAlike candidates := by
  intro kept bare twins
  rw [Evaluation.ending_pickOne, Evaluation.ending_pickOne, pickAmong_of_length_le single]
  exact ⟨_, _, kept, rfl, rfl, .ok ⟨rfl, fun text taken => List.mem_of_mem_head? taken⟩, rfl, twins⟩

variable {afresh}

/-- The calls of templates come to the same with and without kept results. -/
def CallsTransparent (afresh : Afresh) : Prop :=
  -- All calls share one global layer.
  ∀ name scope, scope.globals = afresh.globals →
    afresh.congruence.Alike ((callsWithin afresh.limit afresh.environment).template name scope)
      ((callsWithin afresh.limit afresh.environment).template name scope)

/-- Binding arguments leaves the global layer as it is. -/
theorem globals_of_bindArguments {template : Template} {args : List Value} {scope bound : Scope}
    (binds : bindArguments template args scope = .ok bound) : bound.globals = scope.globals := by
  unfold bindArguments at binds
  split at binds
  · cases binds
    rfl
  · split at binds
    · cases binds
    · cases binds
      rfl

/-- An expression whose calls stay among templates comes to the same with and without kept results. -/
theorem embedsAlike (calls : afresh.CallsTransparent) {scope : Scope} (globals : scope.globals = afresh.globals)
    (embedded : Embedded)
    (contained : ∀ name args, .call name args ∈ embedded.expression.nodes → afresh.environment.Contains name) :
    afresh.congruence.EmbedsAlike afresh.environment afresh.environment
      (callsWithin afresh.limit afresh.environment) (callsWithin afresh.limit afresh.environment) scope scope embedded := by
  have called (name : String) (values : List Value) : afresh.congruence.Alike
      (callTemplate afresh.environment (callsWithin afresh.limit afresh.environment) name values scope)
      (callTemplate afresh.environment (callsWithin afresh.limit afresh.environment) name values scope) := by
    exact callee_alike afresh.handles afresh.environment (fun _ _ _ _ => trivial) fun callee bound _ binds =>
      calls name bound ((globals_of_bindArguments binds).trans globals)
  refine embedsAlike_of_eval afresh.handles rfl embedded ?_
  refine Expression.eval_alike afresh.congruence (fun error => afresh.handles.raises error) embedded.expression (fun _ _ => rfl)
    fun name args inside => ⟨fun lazy => isNone_own_if lazy rfl, fun values _ => ?_⟩
  obtain ⟨noFile, known⟩ := contained name args inside
  refine hostOf_call_alike (fun _ => rfl) (fun _ _ => rfl) (fun _ _ _ => rfl) (fun error => afresh.handles.raises error)
    (fun _ target rest _ => called target rest) (fun file => absurd file noFile) (fun _ _ => called name values)
    fun other unknown _ _ found _ => absurd found (not_registered known other unknown)

/-- A template of the registry comes to the same with and without kept results. -/
theorem body_alike (free : ChoiceFree afresh.environment) (calls : afresh.CallsTransparent) {scope : Scope}
    (globals : scope.globals = afresh.globals) {name : String} {template : Template}
    (found : afresh.environment.lookup name = .ok template) :
    afresh.congruence.Alike
      (evalBody afresh.environment (callsWithin afresh.limit afresh.environment) scope template.body)
      (evalBody afresh.environment (callsWithin afresh.limit afresh.environment) scope template.body) := by
  have inside := mem_of_lookup found
  refine evalBody_alike template.body (fun candidates among => ?_) fun embedded among => ?_
  · exact afresh.picksAlike (free.single _ inside candidates among)
  · exact embedsAlike calls globals embedded (free.contained _ inside embedded among)

/-- The same calls, made from a template that has one level more. -/
def deeper (afresh : Afresh) : Afresh :=
  -- Running the template takes up one level.
  { afresh with limit := afresh.limit + 1 }

/-- A template runs alike on twin stacks, which it leaves as they are. -/
theorem ending_withFrame {kept bare : CallStack} (twins : afresh.deeper.Twins kept bare) (name : String)
    {body : Evaluation Value} (alike : afresh.congruence.Alike body body) :
    ∃ result, (Evaluating.withFrame name body : Evaluation Value).ending kept afresh.picks = ⟨result, kept, afresh.picks⟩ ∧
      (Evaluating.withFrame name body : Evaluation Value).ending bare afresh.picks = ⟨result, bare, afresh.picks⟩ := by
  have pushed : afresh.Twins (kept.push name) (bare.push name) := by
    refine ⟨?_, twins.memoized, twins.unmemoized, nofun⟩
    simp only [CallStack.names_push, twins.names]
  obtain ⟨result₁, result₂, now, ends₁, ends₂, agree, beneath, twins'⟩ := alike _ _ pushed
  -- The frame that has been pushed is all that has changed.
  have popped : now.pop = kept := by
    obtain ⟨frames, memoized⟩ := now
    obtain ⟨frames', memoized'⟩ := kept
    have same := twins'.memoized.trans twins.memoized.symm
    simp_all [CallStack.pop, CallStack.push]
  refine ⟨result₁, ?_, ?_⟩
  · rw [Evaluation.ending_withFrame, ends₁, popped]
  · rw [Evaluation.ending_withFrame, ends₂, CallStack.pop_push, agree.eq]

/-- A template that is evaluated by name comes to the same with and without kept results. -/
theorem evalTemplate_alike (free : ChoiceFree afresh.environment) (calls : afresh.CallsTransparent) (name : String)
    {scope : Scope} (globals : scope.globals = afresh.globals) :
    afresh.deeper.congruence.Alike
      (evalTemplate afresh.environment (callsWithin afresh.limit afresh.environment) name scope : Evaluation Value)
      (evalTemplate afresh.environment (callsWithin afresh.limit afresh.environment) name scope) := by
  intro kept bare twins
  have plain := ending_evalTemplate afresh.environment (callsWithin afresh.limit afresh.environment) name scope bare
    afresh.picks
  rw [ending_evalTemplate]
  cases parts : splitRerun name with | mk base rerun =>
  rw [parts] at plain
  dsimp only at plain ⊢
  cases found : afresh.environment.lookup base with
  | error error =>
    rw [found] at plain
    exact ⟨_, _, kept, rfl, plain, .error error, rfl, twins⟩
  | ok template =>
    rw [found] at plain
    dsimp only at plain ⊢
    by_cases running : base ∈ bare.names
    · rw [if_pos running] at plain
      rw [twins.names, if_pos running]
      exact ⟨_, _, kept, rfl, plain, .error _, rfl, twins⟩
    · rw [if_neg running] at plain
      rw [twins.names, if_neg running]
      obtain ⟨result, enters₁, enters₂⟩ := ending_withFrame twins base (body_alike free calls globals found)
      have forgotten : bare.cached? ⟨base, scope.fingerprint⟩ = none := by
        simp [CallStack.cached?, twins.unmemoized]
      rw [forgotten, enters₂] at plain
      rw [show afresh.deeper.picks = afresh.picks from rfl, enters₁]
      cases rerun with
      | true => exact ⟨_, _, kept, rfl, plain, .refl result, rfl, twins⟩
      | false =>
        cases hit : kept.cached? ⟨base, scope.fingerprint⟩ with
        | some value =>
          -- What is kept is what evaluating the template afresh gives.
          have fresh := twins.sound _ value (mem_memo_of_cached? hit) name scope parts globals rfl
          exact ⟨_, _, kept, rfl, fresh, .ok rfl, rfl, twins⟩
        | none =>
          cases result with
          | error error => exact ⟨_, _, kept, rfl, plain, .error error, rfl, twins⟩
          | ok value =>
            -- The new result is that of the run which has just been made.
            have still : bare.store ⟨base, scope.fingerprint⟩ value = bare := by
              simp [CallStack.store, twins.unmemoized]
            dsimp only at plain
            rw [still] at plain
            exact ⟨_, _, kept.store ⟨base, scope.fingerprint⟩ value, rfl, plain, .ok rfl,
              (kept.keptIn_store ⟨base, scope.fingerprint⟩ value).beneath, twins.store parts globals plain⟩

/-- All calls within a bound come to the same with and without kept results. -/
theorem callsWithin_transparent {environment : Environment} (free : ChoiceFree environment) (globals : Value)
    (picks : List Nat) : ∀ limit : Nat, (⟨environment, limit, globals, picks⟩ : Afresh).CallsTransparent := by
  intro limit
  induction limit with
  | zero => exact fun name scope _ kept bare twins => ⟨_, _, kept, rfl, rfl, .error .unfinished, rfl, twins⟩
  | succ limit calls =>
    intro name scope shared
    exact evalTemplate_alike free calls name shared

end Afresh

/-- Within every bound, evaluation comes to the same with and without kept results. -/
theorem evaluateWithin_memoized_eq {environment : Environment} (free : ChoiceFree environment) (limit : Nat)
    (name : String) (scope : Scope) (picks : List Nat) :
    (Evaluation.ending (evaluateWithin limit environment name scope) ⟨[], true⟩ picks).result =
      (Evaluation.ending (evaluateWithin limit environment name scope) ⟨[], false⟩ picks).result := by
  -- Nothing is kept at first.
  let afresh : Afresh := ⟨environment, limit, scope.globals, picks⟩
  have twins : afresh.Twins ⟨[], true⟩ ⟨[], false⟩ := ⟨rfl, rfl, rfl, nofun⟩
  have calls : afresh.CallsTransparent := Afresh.callsWithin_transparent free scope.globals picks limit
  have whole : afresh.congruence.Alike (evaluateWithin limit environment name scope)
      (evaluateWithin limit environment name scope) :=
    afresh.congruence.alike_bind (calls name scope rfl) fun value => afresh.congruence.alike_pure _
  obtain ⟨result₁, result₂, now, ends₁, ends₂, agree, _, _⟩ := whole _ _ twins
  rw [show picks = afresh.picks from rfl, ends₁, ends₂]
  exact agree.eq

/--
Keeping results is transparent.

Where nothing is picked at random and calls stay among templates, evaluation gives the same value or the same error.
-/
theorem evaluate_memoized_eq {environment : Environment} (free : ChoiceFree environment) (name : String) (scope : Scope)
    (picks : List Nat) :
    ((evaluate environment name scope).ending ⟨[], true⟩ picks).result =
      ((evaluate environment name scope).ending ⟨[], false⟩ picks).result :=
  -- The bound does not matter.
  evaluateWithin_memoized_eq free environment.depthLimit name scope picks

/-- A template that calls another one twice with the same argument. -/
def repeated : Environment where
  registry :=
    [("once", ⟨"once", ["x"], .normal [[.literal "<", .expression ⟨"x", .variable "x"⟩, .literal ">"]], "", .single 1⟩),
      ("twice", ⟨"twice", [], .normal [[.expression ⟨"once(1)", .call "once" [.literal (.int 1)]⟩,
        .expression ⟨"once(1)", .call "once" [.literal (.int 1)]⟩]], "", .single 4⟩)]
  options := {}
  id := ""
  files := {}
  functions := []

/-- A template that calls another one twice gives the same with and without kept results. -/
theorem repeated_memoized_eq :
    ChoiceFree repeated ∧
      ((evaluate repeated "twice" (.ofValue .null)).ending ⟨[], true⟩ []).result =
        ((evaluate repeated "twice" (.ofValue .null)).ending ⟨[], false⟩ []).result := by
  have free : ChoiceFree repeated := by
    constructor
    · intro entry inside candidates among
      simp only [repeated, List.mem_cons, List.not_mem_nil, or_false] at inside
      rcases inside with rfl | rfl <;> simp_all [Body.alternatives]
    · intro entry inside embedded among name args node
      simp only [repeated, List.mem_cons, List.not_mem_nil, or_false] at inside
      rcases inside with rfl | rfl
      · -- The first template has no calls.
        simp [Template.expressions, Body.expressions, textsExpressions, TemplateText.expressions] at among
        subst among
        simp [Expression.nodes] at node
      · -- The second one calls the first.
        simp [Template.expressions, Body.expressions, textsExpressions, TemplateText.expressions] at among
        subst among
        simp [Expression.nodes, Expression.nodesOfItems] at node
        obtain ⟨rfl, _⟩ := node
        exact ⟨by decide, .inr (.inl rfl)⟩
  exact ⟨free, evaluate_memoized_eq free "twice" (.ofValue .null) []⟩

end Phrasebook
