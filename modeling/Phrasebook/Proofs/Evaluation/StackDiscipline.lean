import Phrasebook.Proofs.Evaluation.Discipline

/-! Evaluation and expansion keep to the discipline of the call stack. -/

namespace Phrasebook

namespace Discipline

/-- A discipline under which only refusals are watched, and calls need not finish. -/
def loose (discipline : Discipline) : Discipline where
  registry := discipline.registry
  limit := 0
  exact := discipline.exact
  may error := error = .unfinished → discipline.may .unfinished
  others _ _ finished same := absurd same finished

/-- Failures, their handling and the places of errors keep to a discipline. -/
theorem handles (discipline : Discipline) : discipline.congruence.Handles discipline.may where
  fails error occurs start sound := keeps_fail occurs
  attempts body start sound := keeps_attempt (fun _ admits => admits) (body start sound)
  places site start sound := keeps_bind keeps_stack fun now stack₁ stack₂ kept same => by
    obtain ⟨rfl, rfl⟩ := same
    exact keeps_pure rfl
  others error loops finished _ := discipline.others error loops finished

/-- The calls of templates keep to a discipline, those from outside only to a loose one. -/
structure CallsKeep (discipline : Discipline) (environment : Environment) (calls₁ : Calls Recorded)
    (calls₂ : Calls Evaluation) : Prop where
  /-- The templates that may run are those of the environment. -/
  registry : discipline.registry = environment.registry
  /-- Templates are called by name. -/
  template : ∀ name scope, discipline.congruence.Alike (calls₁.template name scope) (calls₂.template name scope)
  /-- The text of a file is evaluated. -/
  text : ∀ text scope, discipline.relaxed.congruence.Alike (calls₁.text text scope) (calls₂.text text scope)
  /-- Exported templates are called. -/
  exported : ∀ owner name args scope,
    discipline.loose.congruence.Alike (calls₁.exported owner name args scope) (calls₂.exported owner name args scope)

variable {discipline : Discipline} {environment : Environment} {calls₁ : Calls Recorded} {calls₂ : Calls Evaluation}

/-- A call of a template with arguments keeps to a discipline if templates do. -/
theorem called_alike
    (template : ∀ name scope, discipline.congruence.Alike (calls₁.template name scope) (calls₂.template name scope))
    (name : String) (args : List Value) (scope : Scope) :
    discipline.congruence.Alike (callTemplate environment calls₁ name args scope)
      (callTemplate environment calls₂ name args scope) := by
  exact callee_alike discipline.handles environment (fun callee _ _ _ => discipline.others _ (by simp) (by simp))
    fun callee bound _ _ => template name bound

/-- The inclusion of a file keeps to a discipline. -/
theorem includeFile_alike (calls : discipline.CallsKeep environment calls₁ calls₂) (args : List Value) (scope : Scope) :
    discipline.congruence.Alike (includeFile environment calls₁ args scope) (includeFile environment calls₂ args scope) := by
  unfold includeFile
  cases includedFile args with
  | error error => exact discipline.handles.raises error
  | ok request =>
    obtain ⟨path, bare⟩ := request
    intro start sound
    refine keeps_outside (keeps_bind keeps_stack fun now stack₁ stack₂ kept same => ?_)
    obtain ⟨rfl, rfl⟩ := same
    dsimp only
    cases environment.files.read (resolvePath (currentSource environment stack₂) path) with
    | error fault =>
      refine keeps_fail ?_
      exact discipline.others _ (by simp) (by simp)
    | ok content =>
      cases bare with
      | true => exact keeps_pure rfl
      | false =>
        simp only [Bool.false_eq_true, if_false]
        cases TemplateText.parse content with
        | error error =>
          refine keeps_fail ?_
          exact discipline.others _ (by simp) (by simp)
        | ok text => exact calls.text text scope now (sound.keptIn kept)

/-- A registered function keeps to a discipline. -/
theorem registeredFunction?_alike (calls : discipline.CallsKeep environment calls₁ calls₂) (name : String)
    (args : List Value) (scope : Scope) {function₁ : HostFunction Recorded} {function₂ : HostFunction Evaluation}
    (found₁ : registeredFunction? environment calls₁ name = some function₁)
    (found₂ : registeredFunction? environment calls₂ name = some function₂) :
    discipline.congruence.Alike (function₁ args scope) (function₂ args scope) := by
  simp only [registeredFunction?, Option.map_eq_some_iff] at found₁ found₂
  obtain ⟨function, here, rfl⟩ := found₁
  obtain ⟨_, there, rfl⟩ := found₂
  obtain rfl := Option.some.inj (here.symm.trans there)
  intro start sound
  refine keeps_outside ?_
  cases function with
  | native function =>
    dsimp only
    cases function args scope with
    | ok value => exact keeps_pure rfl
    | error error => exact discipline.relaxed.handles.raises error start sound
  | exported owner template =>
    refine keeps_bind (keeps_attempt (fun events admits => ?_) (calls.exported owner template args scope start sound)) ?_
    · exact ⟨fun _ _ _ _ same => (by cases same), fun refused _ => admits.refusals refused⟩
    · rintro now result _ kept ⟨rfl, occurs⟩
      split
      · exact keeps_pure rfl
      · exact keeps_fail (occurs _ rfl rfl)
      · exact discipline.relaxed.handles.raises _ now (sound.keptIn kept)

/-- Every expression keeps to a discipline if the calls of templates do. -/
theorem eval_alike (calls : discipline.CallsKeep environment calls₁ calls₂) (expression : Expression) (scope : Scope) :
    discipline.congruence.Alike (expression.eval (hostOf environment calls₁) scope)
      (expression.eval (hostOf environment calls₂) scope) := by
  refine Expression.eval_alike discipline.congruence (fun error => discipline.handles.raises error) expression (fun _ _ => rfl)
    fun name args _ => ⟨fun lazy => isNone_own_if lazy rfl, fun values _ => ?_⟩
  exact hostOf_call_alike (fun _ => rfl) (fun _ _ => rfl) (fun _ _ _ => rfl) (fun error => discipline.handles.raises error)
    (fun _ target rest _ => called_alike calls.template target rest scope)
    (fun _ => includeFile_alike calls values scope)
    (fun _ _ => called_alike calls.template name values scope)
    fun _ _ function₁ function₂ found₁ found₂ => registeredFunction?_alike calls name values scope found₁ found₂

/-- Every embedded expression keeps to a discipline if the calls of templates do. -/
theorem embedsAlike (calls : discipline.CallsKeep environment calls₁ calls₂) (scope : Scope) (embedded : Embedded) :
    discipline.congruence.EmbedsAlike environment environment calls₁ calls₂ scope scope embedded :=
  embedsAlike_of_eval discipline.handles rfl embedded (eval_alike calls embedded.expression scope)

/-- Every text keeps to a discipline if the calls of templates do. -/
theorem text_alike (calls : discipline.CallsKeep environment calls₁ calls₂) (text : TemplateText) (scope : Scope)
    (site : Site) :
    discipline.congruence.Alike (evalText environment calls₁ text scope site) (evalText environment calls₂ text scope site) :=
  evalText_alike site text fun embedded _ => embedsAlike calls scope embedded

/-- Every body keeps to a discipline if the calls of templates do. -/
theorem body_alike (calls : discipline.CallsKeep environment calls₁ calls₂) (body : Body) (scope : Scope) :
    discipline.congruence.Alike (evalBody environment calls₁ scope body) (evalBody environment calls₂ scope body) :=
  evalBody_alike body (fun candidates _ _ _ => keeps_pickOne candidates) fun embedded _ => embedsAlike calls scope embedded

/-- A template runs one level deeper than its own calls allow for. -/
theorem evalTemplate_alike (calls : discipline.CallsKeep environment calls₁ calls₂) (name : String) (scope : Scope) :
    discipline.deeper.congruence.Alike (evalTemplate environment calls₁ name scope)
      (evalTemplate environment calls₂ name scope) := by
  intro start sound
  unfold evalTemplate
  obtain ⟨base, rerun⟩ := splitRerun name
  dsimp only
  cases found : environment.lookup base with
  | error error =>
    refine keeps_fail_bind ?_
    exact discipline.handles.missing found
  | ok template =>
    simp only [Evaluating.ofExcept, pure_bind]
    refine keeps_bind (keeps_checkLoop base) fun now _ _ kept fresh => ?_
    refine keeps_bind keeps_stack fun later stack₁ stack₂ kept' same => ?_
    obtain ⟨rfl, rfl⟩ := same
    -- Whatever happens, the frame is entered from a stack that does not hold the template.
    have still : CallStack.Sound discipline.deeper.registry later := (sound.keptIn kept).keptIn kept'
    have enters : discipline.deeper.Keeps later (· = ·)
        (Evaluating.withFrame base (evalBody environment calls₁ scope template.body))
        (Evaluating.withFrame base (evalBody environment calls₂ scope template.body)) := by
      have fresh' : base ∉ later.names := by rwa [kept'.names, kept.names]
      have known : base ∈ SortedMap.keys discipline.registry := by
        rw [calls.registry]
        exact List.mem_map_of_mem (mem_of_lookup found)
      exact keeps_withFrame still fresh' known (body_alike calls template.body scope _ (still.push fresh' known))
    split
    · exact keeps_pure rfl
    · exact enters
    · refine keeps_bind enters fun last value _ kept'' same => ?_
      obtain rfl := same
      refine keeps_bind (keeps_change (still.keptIn kept'') ?_) fun _ _ _ _ _ => keeps_pure rfl
      exact last.keptIn_store _ value

/-- An exported template runs on a stack of its own. -/
theorem callExported_alike {inner₁ : Environment → Calls Recorded} {inner₂ : Environment → Calls Evaluation}
    (owner : Collection) (name : String) (args : List Value) (scope : Scope)
    (calls : ∀ exporter : Environment, ∀ inner : Discipline, inner.registry = exporter.registry →
      inner.exact = discipline.exact → inner.limit = discipline.limit →
        ∀ name scope, inner.congruence.Alike ((inner₁ exporter).template name scope) ((inner₂ exporter).template name scope)) :
    discipline.loose.congruence.Alike (callExported inner₁ environment owner name args scope)
      (callExported inner₂ environment owner name args scope) := by
  intro start sound
  unfold callExported
  cases allowed : Environment.of owner {} environment.files environment.functions with
  | error error =>
    refine keeps_fail_bind ?_
    rintro rfl
    unfold Environment.of at allowed
    split at allowed <;> cases allowed
  | ok exporter =>
    simp only [Evaluating.ofExcept, pure_bind]
    let inner : Discipline := { discipline.loose with registry := exporter.registry, limit := discipline.limit }
    have called : inner.Keeps {} (· = ·) (callTemplate exporter (inner₁ exporter) name args scope)
        (callTemplate exporter (inner₂ exporter) name args scope) :=
      called_alike (calls exporter inner rfl rfl rfl) name args scope {} ⟨List.nodup_nil, nofun⟩
    refine keeps_bind (keeps_isolated ?_ ?_ called) ?_
    · rfl
    · rintro error (occurs | ⟨chain, rfl⟩)
      · exact occurs
      · exact nofun
    · rintro last result _ kept ⟨rfl, occurs⟩
      exact discipline.loose.handles.ofExcept result occurs last (sound.keptIn kept)

/-- Whatever keeps to a discipline keeps to it without having to finish. -/
theorem Keeps.loosen {α β : Type} {Agree : α → β → Prop} {start : CallStack} {recorded : Recorded α}
    {plain : Evaluation β} (sound : start.Sound discipline.registry)
    (keeps : discipline.Keeps start Agree recorded plain) :
    discipline.relaxed.Keeps start Agree recorded plain := by
  intro picks admits
  obtain ⟨frames, reached, moments, agreed, errors, _, same⟩ := keeps picks ⟨admits.loops, admits.refusals⟩
  refine ⟨frames, reached, moments, agreed, errors, fun room => ?_, same⟩
  -- The stack is no higher than the registry is long.
  have height := sound.length_le
  have roomy : discipline.registry.length < 0 + start.names.length := room
  omega

/-- Calls that keep to a discipline keep to it without having to finish. -/
theorem CallsKeep.loosen (calls : discipline.CallsKeep environment calls₁ calls₂) :
    discipline.relaxed.CallsKeep environment calls₁ calls₂ where
  registry := calls.registry
  template name scope start sound := (calls.template name scope start sound).loosen sound
  text := calls.text
  exported := calls.exported

/-- Calls within a bound keep to every discipline with this bound, compared with calls within a larger one. -/
theorem callsWithin_keep (more : Nat) : ∀ (limit : Nat) (environment : Environment) (discipline : Discipline),
    discipline.registry = environment.registry → discipline.limit = limit → (discipline.exact → more = 0) →
      discipline.CallsKeep environment (callsWithin limit environment) (callsWithin (limit + more) environment) := by
  intro limit
  induction limit with
  | zero =>
    intro environment discipline registry depth same
    have refused (exact : discipline.exact) : (0 + more) = 0 := by
      rw [same exact]
    refine ⟨registry, fun name scope start sound => ?_, fun text scope start sound => ?_,
      fun owner name args scope start sound => ?_⟩
    · exact keeps_refuse sound depth fun exact => by rw [refused exact]; rfl
    · exact keeps_refuse sound rfl fun exact => by rw [refused exact]; rfl
    · exact keeps_refuse sound rfl fun exact => by rw [refused exact]; rfl
  | succ limit kept =>
    intro environment discipline registry depth same
    obtain ⟨templates, bound, exact, may, others⟩ := discipline
    obtain rfl : bound = limit + 1 := depth
    -- The calls of a template that runs are held to the same discipline with one level less.
    let inner : Discipline := ⟨templates, limit, exact, may, others⟩
    have calls : inner.CallsKeep environment (callsWithin limit environment) (callsWithin (limit + more) environment) :=
      kept environment inner registry rfl same
    rw [Nat.add_right_comm]
    refine ⟨registry, fun name scope => ?_, fun text scope => ?_, fun owner name args scope => ?_⟩
    · exact evalTemplate_alike calls name scope
    · exact text_alike calls.loosen text scope .text
    · have outside : inner.loose.congruence.Alike
          (callExported (callsWithin limit) environment owner name args scope)
          (callExported (callsWithin (limit + more)) environment owner name args scope) :=
        callExported_alike owner name args scope fun exporter other registry bound depth =>
          (kept exporter other registry depth fun exact => same (bound ▸ exact)).template
      exact outside

/-- A template is expanded one level deeper than its own calls allow for. -/
theorem expandTemplate_alike (calls : discipline.CallsKeep environment calls₁ calls₂)
    {template₁ : Expansion Recorded} {template₂ : Expansion Evaluation}
    (expanded : ∀ name scope, discipline.congruence.Alike (template₁ name scope) (template₂ name scope))
    (name : String) (scope : Scope) :
    discipline.deeper.congruence.Alike (expandTemplate ⟨environment, calls₁, template₁⟩ name scope)
      (expandTemplate ⟨environment, calls₂, template₂⟩ name scope) := by
  have called (scope : Scope) (name : String) (args : List Value) :
      discipline.congruence.Alike (expandCall ⟨environment, calls₁, template₁⟩ name args scope)
        (expandCall ⟨environment, calls₂, template₂⟩ name args scope) := by
    exact callee_alike discipline.handles environment (fun callee _ _ _ => discipline.others _ (by simp) (by simp))
      fun callee bound _ _ => expanded name bound
  have alike (scope : Scope) :
      discipline.congruence.DelegatesAlike environment environment calls₁ calls₂ template₁ template₂ scope (fun _ _ => True)
        Expression.CanBe := by
    refine ⟨rfl, fun embedded _ => embedsAlike calls scope embedded, fun _ _ _ _ _ _ copy site _ _ => ?_,
      fun _ _ _ error _ _ _ => discipline.handles.raises error, fun name _ values _ _ => called scope name values,
      fun _ _ _ target rest _ _ _ => called scope target rest⟩
    exact evalArgument_canBe discipline.handles (fun _ => rfl) (fun _ => rfl) copy site (eval_alike calls copy scope)
  intro start sound
  unfold expandTemplate
  dsimp only
  cases found : environment.lookup (splitRerun name).1 with
  | error error =>
    refine keeps_fail_bind ?_
    exact discipline.handles.missing found
  | ok template =>
    simp only [Evaluating.ofExcept, pure_bind]
    refine keeps_bind (keeps_checkLoop (splitRerun name).1) fun now _ _ kept fresh => ?_
    -- The frame is entered from a stack that does not hold the template.
    have still : CallStack.Sound discipline.registry now := sound.keptIn kept
    have fresh' : (splitRerun name).1 ∉ now.names := by rwa [kept.names]
    have known : (splitRerun name).1 ∈ SortedMap.keys discipline.registry := by
      rw [calls.registry]
      exact List.mem_map_of_mem (mem_of_lookup found)
    have body := expandBody_alike (alike scope) template.body (Expression.allCalls_of_calls fun _ _ _ _ _ => trivial)
      fun guard _ => embedsAlike calls scope guard
    exact keeps_withFrame still fresh' known (body _ (still.push fresh' known))

/-- Expansion within a bound keeps to every discipline with this bound, compared with one within a larger bound. -/
theorem expansionWithin_keep (more : Nat) (environment : Environment) :
    ∀ (limit : Nat) (discipline : Discipline), discipline.registry = environment.registry →
      discipline.limit = limit → (discipline.exact → more = 0) → ∀ name scope,
        discipline.congruence.Alike (expansionWithin environment limit name scope)
          (expansionWithin environment (limit + more) name scope) := by
  intro limit
  induction limit with
  | zero =>
    intro discipline registry depth same name scope start sound
    refine keeps_refuse sound depth fun exact => ?_
    rw [same exact]
    rfl
  | succ limit kept =>
    intro discipline registry depth same name scope
    obtain ⟨templates, bound, exact, may, others⟩ := discipline
    obtain rfl : bound = limit + 1 := depth
    let inner : Discipline := ⟨templates, limit, exact, may, others⟩
    have calls : inner.CallsKeep environment (callsWithin limit environment) (callsWithin (limit + more) environment) :=
      callsWithin_keep more limit environment inner registry rfl same
    rw [Nat.add_right_comm]
    exact expandTemplate_alike calls (kept inner registry rfl same) name scope

end Discipline

/-- The stacks that an evaluator or an expander can have: the empty one, and those of runs. -/
inductive Reachable (environment : Environment) : CallStack → Prop where
  /-- Nothing runs at first. -/
  | fresh (memoized : Bool) : Reachable environment ⟨[], memoized⟩
  /-- A template is evaluated by name. -/
  | evaluating {start now : CallStack} (limit : Nat) (name : String) (scope : Scope) (picks : List Nat)
    (earlier : Reachable environment start)
    (moment : now ∈ Recorded.moments ((callsWithin limit environment).template name scope) start picks) :
    Reachable environment now
  /-- A template is expanded by name. -/
  | expanding {start now : CallStack} (limit : Nat) (name : String) (scope : Scope) (picks : List Nat)
    (earlier : Reachable environment start)
    (moment : now ∈ Recorded.moments (expansionWithin environment limit name scope) start picks) :
    Reachable environment now
  /-- A text is evaluated. -/
  | reading {start now : CallStack} (limit : Nat) (text : TemplateText) (scope : Scope) (picks : List Nat)
    (earlier : Reachable environment start)
    (moment : now ∈ Recorded.moments ((callsWithin limit environment).text text scope) start picks) :
    Reachable environment now

/-- How a run within a bound treats the stack that it starts from, told by its record. -/
structure KeepsStack {α : Type} (environment : Environment) (start : CallStack) (picks : List Nat) (limit : Nat)
    (recorded : Recorded α) (plain : Nat → Evaluation α) : Prop where
  /-- The record is one of the run itself. -/
  faithful : (recorded.trace start picks).toEnding = (plain limit).ending start picks
  /-- However the run ends, the frames are those that it has found, in the same order. -/
  frames : start.KeptIn ((plain limit).ending start picks).stack
  /-- At every moment different templates of the registry run, above those that have run at first. -/
  moments : ∀ now ∈ recorded.moments start picks,
    now.names.Nodup ∧ (∀ name ∈ now.names, name ∈ SortedMap.keys environment.registry) ∧ start.names <:+ now.names
  /-- At every moment no more templates run than there are. -/
  depth : ∀ now ∈ recorded.moments start picks, now.frames.length ≤ environment.registry.length
  /-- A loop is told as the running templates from the outermost on, and one of them. -/
  loops : ∀ chain, ((plain limit).ending start picks).result = .error (.loop chain) →
    ∃ now ∈ recorded.moments start picks, ∃ name ∈ now.names, chain = now.names.reverse ++ [name]
  /-- With nothing used from outside, the bound only has to leave room for the templates that do not run yet. -/
  terminates : environment.registry.length < limit + start.frames.length →
    .outside ∉ (recorded.trace start picks).events →
      ((plain limit).ending start picks).result ≠ .error .unfinished ∧
        ∀ larger, limit ≤ larger → (plain larger).ending start picks = (plain limit).ending start picks

/-- Endings are the same if their results agree by being the same and all else is the same. -/
theorem Ending.eq_of_agree {α : Type} {recorded plain : Ending α}
    (same : ResultsAgree (· = ·) recorded.result plain.result ∧ plain.stack = recorded.stack ∧ plain.left = recorded.left) :
    recorded = plain := by
  obtain ⟨agree, stack, left⟩ := same
  obtain ⟨result, stack', left'⟩ := recorded
  obtain ⟨result', stack'', left''⟩ := plain
  obtain rfl : result = result' := agree.eq
  obtain rfl : stack'' = stack' := stack
  obtain rfl : left'' = left' := left
  rfl

/-- The errors that a run may end with, as its record tells. -/
def Recorded.MayRaise {α : Type} (recorded : Recorded α) (start : CallStack) (picks : List Nat) : TemplateError → Prop
  -- All errors but loops and refusals may occur anywhere.
  | .loop chain => ∃ now ∈ recorded.moments start picks, ∃ name ∈ now.names, chain = now.names.reverse ++ [name]
  | .unfinished => .exhausted ∈ (recorded.trace start picks).events
  | _ => True

/-- A computation that keeps to every discipline treats the stack well. -/
theorem keepsStack_of_keeps {α : Type} {environment : Environment} {start : CallStack} {limit : Nat}
    {recorded : Recorded α} {plain : Nat → Evaluation α} (sound : start.Sound environment.registry)
    (keeps : ∀ (more : Nat) (discipline : Discipline), discipline.registry = environment.registry →
      discipline.limit = limit → (discipline.exact → more = 0) →
        discipline.Keeps start (· = ·) recorded (plain (limit + more))) (picks : List Nat) :
    KeepsStack environment start picks limit recorded plain := by
  let may := recorded.MayRaise start picks
  have others : ∀ error, (∀ chain, error ≠ .loop chain) → error ≠ .unfinished → may error := by
    intro error loops finished
    cases error <;> simp_all [may, Recorded.MayRaise]
  have loops : ∀ now, now = start ∨ .moment now ∈ (recorded.trace start picks).events → ∀ name ∈ now.names,
      may (.loop (now.names.reverse ++ [name])) :=
    fun now later name inside => ⟨now, Recorded.mem_moments.mpr later, name, inside, rfl⟩
  let exact : Discipline := ⟨environment.registry, limit, True, may, others⟩
  have done := keeps 0 exact rfl rfl (fun _ => rfl) picks ⟨loops, fun refused => refused⟩
  have faithful : (recorded.trace start picks).toEnding = (plain limit).ending start picks :=
    Ending.eq_of_agree (done.same (.inl trivial))
  have moments : ∀ now ∈ recorded.moments start picks, now.Sound environment.registry ∧ start.names <:+ now.names := by
    intro now inside
    rcases Recorded.mem_moments.mp inside with rfl | later
    · exact ⟨sound, List.suffix_rfl⟩
    · exact done.moments now later
  refine ⟨faithful, faithful ▸ done.frames, ?_, ?_, ?_, ?_⟩
  · intro now inside
    obtain ⟨sound', stands⟩ := moments now inside
    exact ⟨sound'.distinct, sound'.known, stands⟩
  · intro now inside
    simpa [CallStack.names] using (moments now inside).1.length_le
  · intro chain looped
    exact done.errors _ (faithful ▸ looped)
  · intro room quiet
    have finished : .exhausted ∉ (recorded.trace start picks).events :=
      fun refused => quiet (done.finishes (by simpa [CallStack.names] using room) refused)
    refine ⟨fun unfinished => finished (done.errors .unfinished (faithful ▸ unfinished)), fun larger wider => ?_⟩
    -- A larger bound changes nothing about a run that has refused no call.
    obtain ⟨more, rfl⟩ := Nat.exists_eq_add_of_le wider
    let watched : Discipline := ⟨environment.registry, limit, False, may, others⟩
    have done' := keeps more watched rfl rfl False.elim picks ⟨loops, fun refused => refused⟩
    rw [← faithful]
    exact (Ending.eq_of_agree (done'.same (.inr finished))).symm

/-- The evaluation of a template by name treats every sound stack well. -/
theorem keepsStack_template {environment : Environment} {start : CallStack} (sound : start.Sound environment.registry)
    (limit : Nat) (name : String) (scope : Scope) (picks : List Nat) :
    KeepsStack environment start picks limit ((callsWithin limit environment).template name scope)
      fun limit => (callsWithin limit environment).template name scope := by
  refine keepsStack_of_keeps sound (fun more discipline registry depth same => ?_) picks
  have calls := Discipline.callsWithin_keep more limit environment discipline registry depth same
  exact calls.template name scope start (registry ▸ sound)

/-- The expansion of a template by name treats every sound stack well. -/
theorem keepsStack_expansion {environment : Environment} {start : CallStack} (sound : start.Sound environment.registry)
    (limit : Nat) (name : String) (scope : Scope) (picks : List Nat) :
    KeepsStack environment start picks limit (expansionWithin environment limit name scope)
      fun limit => expansionWithin environment limit name scope := by
  refine keepsStack_of_keeps sound (fun more discipline registry depth same => ?_) picks
  exact Discipline.expansionWithin_keep more environment limit discipline registry depth same name scope start
    (registry ▸ sound)

/-- On every stack that can be reached, different templates of the registry run. -/
theorem Reachable.sound {environment : Environment} {stack : CallStack} (reachable : Reachable environment stack) :
    stack.Sound environment.registry := by
  induction reachable with
  | fresh memoized => exact ⟨List.nodup_nil, nofun⟩
  | evaluating limit name scope picks earlier moment sound =>
    obtain ⟨distinct, known, _⟩ := (keepsStack_template sound limit name scope picks).moments _ moment
    exact ⟨distinct, known⟩
  | expanding limit name scope picks earlier moment sound =>
    obtain ⟨distinct, known, _⟩ := (keepsStack_expansion sound limit name scope picks).moments _ moment
    exact ⟨distinct, known⟩
  | @reading start now limit text scope picks earlier moment sound =>
    -- A text outside any template is only held to a discipline that need not finish.
    rcases Recorded.mem_moments.mp moment with rfl | later
    · exact sound
    · let free : Discipline := ⟨environment.registry, limit, True, fun _ => True, fun _ _ _ => trivial⟩
      have calls := Discipline.callsWithin_keep 0 limit environment free rfl rfl fun _ => rfl
      have done := calls.text text scope start sound picks ⟨fun _ _ _ _ => trivial, fun _ => trivial⟩
      exact (done.moments now later).1

/--
The discipline of the call stack.

From every stack that can be reached, evaluating or expanding a template by name keeps the stack, however it ends.
-/
theorem evaluate_expand_keepsStack {environment : Environment} {start : CallStack}
    (reachable : Reachable environment start) (limit : Nat) (name : String) (scope : Scope) (picks : List Nat) :
    KeepsStack environment start picks limit ((callsWithin limit environment).template name scope)
        (fun limit => (callsWithin limit environment).template name scope) ∧
      KeepsStack environment start picks limit (expansionWithin environment limit name scope)
        (fun limit => expansionWithin environment limit name scope) :=
  -- Stacks that can be reached are sound.
  ⟨keepsStack_template reachable.sound limit name scope picks, keepsStack_expansion reachable.sound limit name scope picks⟩

/-- Two templates that call each other. -/
def roundabout : Environment where
  registry :=
    [("a", ⟨"a", [], .normal [[.expression ⟨"b()", .call "b" []⟩]], "", .single 1⟩),
      ("b", ⟨"b", [], .normal [[.expression ⟨"a()", .call "a" []⟩]], "", .single 4⟩)]
  options := {}
  id := ""
  files := {}
  functions := []

/-- With one of two templates running that call each other, calling the other one reports the whole circle. -/
theorem roundabout_keepsStack :
    Reachable roundabout ⟨[⟨"a", []⟩], true⟩ ∧
      Evaluation.ending ((callsWithin 2 roundabout).template "b" (.ofValue .null)) ⟨[⟨"a", []⟩], true⟩ [] =
        ⟨.error (.loop ["a", "b", "a"]), ⟨[⟨"a", []⟩], true⟩, []⟩ ∧
      KeepsStack roundabout ⟨[⟨"a", []⟩], true⟩ [] 2 ((callsWithin 2 roundabout).template "b" (.ofValue .null))
          (fun limit => (callsWithin limit roundabout).template "b" (.ofValue .null)) ∧
        KeepsStack roundabout ⟨[⟨"a", []⟩], true⟩ [] 2 (expansionWithin roundabout 2 "b" (.ofValue .null))
          (fun limit => expansionWithin roundabout limit "b" (.ofValue .null)) := by
  have reachable : Reachable roundabout ⟨[⟨"a", []⟩], true⟩ := by
    refine .evaluating 1 "a" (.ofValue .null) [] (.fresh true) (Recorded.mem_moments.mpr (.inr ?_))
    exact .head _
  exact ⟨reachable, rfl, evaluate_expand_keepsStack reachable 2 "b" (.ofValue .null) []⟩

end Phrasebook
