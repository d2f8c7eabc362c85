import Mathlib.Logic.Relation
import Phrasebook.Proofs.Evaluation.Memo

/-! Calls of templates complete where the bound on their nesting leaves room for all that they lead to. -/

namespace Phrasebook

/-- Whether a call of a function can be one of a template, told by the form of the call. -/
def mayCall (name : String) (args : List Expression) (callee : String) : Prop :=
  -- A computed name can be that of any template.
  if name = "template" then
    match args with
    | .literal (.str target) :: _ => callee = (splitRerun target).1
    | _ => True
  else callee = (splitRerun name).1

/-- The template that is called through the function which takes its name is one that may be called. -/
theorem mayCall_of_templateTarget {args : List Expression} {values rest : List Value} {target : String}
    (fit : List.Forall₂ Expression.CanBe args values) (named : templateTarget values = .ok (target, rest)) :
    mayCall "template" args (splitRerun target).1 := by
  simp only [mayCall, if_true]
  split
  · -- A literal name is the one that is called.
    cases fit with
    | cons fits _ =>
      cases fits
      cases named
      rfl
  · trivial

/-- A call by any other name than that of the function which takes a template's name may call the template of that name alone. -/
theorem mayCall_iff_of_ne {name callee : String} (other : name ≠ "template") (args : List Expression) :
    mayCall name args callee ↔ callee = (splitRerun name).1 := by
  simp only [mayCall, if_neg other]

/-- The template that is called by its name is one that may be called. -/
theorem mayCall_of_not_mem {name : String} (other : name ∉ templateFunctions) (args : List Expression) :
    mayCall name args (splitRerun name).1 := by
  have noFunction : name ≠ "template" := fun same => other (same ▸ List.mem_cons_self)
  exact (mayCall_iff_of_ne noFunction args).mpr rfl

/-- Whether a call may lead to a template, be it evaluated or expanded. -/
def mayLead (name : String) (args : List Expression) (callee : String) : Prop :=
  -- Expansion takes the function that is told a template's name for the same with an exclamation mark.
  mayCall name args callee ∨ (splitRerun name).1 = "template" ∧ mayCall "template" args callee

/-- The template that expansion is told by name is one that a call may lead to. -/
theorem mayLead_of_ne {name : String} (other : (splitRerun name).1 ≠ "template") (args : List Expression) :
    mayLead name args (splitRerun name).1 := by
  refine .inl ((mayCall_iff_of_ne (fun same => other ?_) args).mpr rfl)
  rw [same]
  decide +kernel

/-- The template that expansion is told through the function which takes its name is one that a call may lead to. -/
theorem mayLead_of_templateTarget {name : String} (function : (splitRerun name).1 = "template") {args : List Expression}
    {values rest : List Value} {target : String} (fit : List.Forall₂ Expression.CanBe args values)
    (named : templateTarget values = .ok (target, rest)) : mayLead name args (splitRerun target).1 :=
  .inr ⟨function, mayCall_of_templateTarget fit named⟩

namespace Environment

/-- Whether a template holds a call. -/
def Holds (environment : Environment) (caller name : String) (args : List Expression) : Prop :=
  -- The call may stand anywhere in an expression.
  ∃ template, environment.registry.get? caller = some template ∧
    ∃ embedded ∈ template.expressions, .call name args ∈ embedded.expression.nodes

/-- The names that are called in templates, each with the template that holds the call. -/
def callNames (environment : Environment) : List (String × String) :=
  -- Calls may stand anywhere in an expression.
  environment.registry.flatMap fun (caller, template) => template.expressions.flatMap fun embedded =>
    embedded.expression.nodes.filterMap fun node =>
      match node with
      | .call name _ => some (caller, name)
      | _ => none

/-- Every call is listed. -/
theorem Holds.mem_callNames {environment : Environment} {caller name : String} {args : List Expression}
    (holds : environment.Holds caller name args) : (caller, name) ∈ environment.callNames := by
  obtain ⟨template, defined, embedded, among, node⟩ := holds
  refine List.mem_flatMap.mpr ⟨(caller, template), SortedMap.mem_of_get? defined, ?_⟩
  refine List.mem_flatMap.mpr ⟨embedded, among, List.mem_filterMap.mpr ⟨_, node, rfl⟩⟩

/-- Whether a template may call another one directly, told by the form of its calls. -/
def Calls (environment : Environment) (caller callee : String) : Prop :=
  -- Registered functions are not looked into.
  ∃ name args, environment.Holds caller name args ∧ mayCall name args callee

/-- Whether a template may lead to another one directly, be it evaluated or expanded. -/
def Follows (environment : Environment) (caller callee : String) : Prop :=
  -- Evaluation and expansion differ in what they make of an exclamation mark.
  ∃ name args, environment.Holds caller name args ∧ mayLead name args callee

/-- What a template may call it may lead to. -/
theorem Calls.follows {environment : Environment} {caller callee : String} (calls : environment.Calls caller callee) :
    environment.Follows caller callee := by
  obtain ⟨name, args, holds, may⟩ := calls
  exact ⟨name, args, holds, .inl may⟩

/-- Whether a template may call a registered function, told by the form of its calls. -/
def Uses (environment : Environment) (caller function : String) : Prop :=
  -- Templates and the functions that know them come first.
  function ∉ templateFunctions ∧ environment.hasTemplate function = false ∧ ∃ args, environment.Holds caller function args

/-- Whether a registered function is a template that some file exports, to be run in an environment of its own. -/
def Exports (environment : Environment) (function : String) (exporter : Environment) (template : String) : Prop :=
  -- The options are those of the file.
  ∃ owner, environment.functions.get? function = some (.exported owner template) ∧
    Environment.of owner {} environment.files environment.functions = .ok exporter

/-- Whether an exported template leads to a registered function, perhaps through other templates of its file. -/
def Leads (environment : Environment) (function next : String) : Prop :=
  -- The templates in between are those that can be called where the exported one runs.
  ∃ exporter template caller, environment.Exports function exporter template ∧
    Relation.ReflTransGen exporter.Calls (splitRerun template).1 caller ∧ exporter.Uses caller next

/-- Whether no template includes files. -/
def FileFree (environment : Environment) : Prop :=
  -- Files are included by one function only.
  ∀ caller args, ¬ environment.Holds caller "fromFile" args

/-- Whether no template that one leads to includes files. -/
def FileFreeFrom (environment : Environment) (root : String) : Prop :=
  -- Other templates may well include some.
  ∀ caller args, Relation.ReflTransGen environment.Calls root caller → ¬ environment.Holds caller "fromFile" args

/-- Where no template includes files, none does that some template leads to. -/
theorem FileFree.fileFreeFrom {environment : Environment} (files : environment.FileFree) (root : String) :
    environment.FileFreeFrom root :=
  fun caller args _ => files caller args

/-- The environment of an exporting file has the same registered functions. -/
theorem Exports.exports_iff {environment exporter : Environment} {function template : String}
    (exported : environment.Exports function exporter template) (other : String) (deeper : Environment) (name : String) :
    exporter.Exports other deeper name ↔ environment.Exports other deeper name := by
  obtain ⟨owner, _, given⟩ := exported
  unfold Environment.of at given
  split at given
  · cases given
    rfl
  · cases given

end Environment

/-- What an expression can come to in a scope, whatever is picked and however deeply calls may nest. -/
def Environment.Yields (environment : Environment) (scope : Scope) (expression : Expression)
    (result : Except TemplateError Value) : Prop :=
  -- It may stand in any running template.
  ∃ limit stack picks, Ending.result (Evaluation.ending
    (expression.eval (hostOf environment (callsWithin limit environment)) scope) stack picks) = result

/-- The values that are passed by a call in a template that is expanded in a scope. -/
abbrev Environment.Passes (environment : Environment) (caller : String × Scope) :
    String → List Expression → List Value → Prop :=
  -- Values have taken the place of the calls of templates in the arguments.
  Expression.Passes environment (environment.Holds caller.1) fun copy value => environment.Yields caller.2 copy (.ok value)

/-- Whether the expansion of a template in a scope may lead to that of another one in a scope of its own. -/
def Environment.Enters (environment : Environment) (caller callee : String × Scope) : Prop :=
  -- The arguments are bound to the parameters of the other template.
  ∃ name args values target rest template, environment.Passes caller name args values ∧
    targetOf name values = .ok (target, rest) ∧ environment.lookup (splitRerun target).1 = .ok template ∧
      callee.1 = (splitRerun target).1 ∧ bindArguments template rest caller.2 = .ok callee.2

/-- A value that an expression can come to is one that it can have. -/
theorem Environment.Yields.canBe {environment : Environment} {scope : Scope} {expression : Expression} {value : Value}
    (yields : environment.Yields scope expression (.ok value)) : expression.CanBe value := by
  obtain ⟨limit, stack, picks, same⟩ := yields
  cases expression with
  | literal constant =>
    cases same
    rfl
  | _ => trivial

/-- What the expansion of a template leads to in a scope the template may lead to in all scopes. -/
theorem Environment.Enters.follows {environment : Environment} {caller callee : String × Scope}
    (enters : environment.Enters caller callee) : environment.Follows caller.1 callee.1 := by
  obtain ⟨name, args, values, target, rest, template, passes, told, -, entered, -⟩ := enters
  obtain ⟨holds, calls, copies, filled, given⟩ := passes
  have fit : Expression.Passes environment (environment.Holds caller.1) Expression.CanBe name args values :=
    ⟨holds, calls, copies, filled, given.imp fun _ _ => Environment.Yields.canBe⟩
  rw [entered]
  refine ⟨name, args, holds, ?_⟩
  unfold targetOf at told
  split at told
  · rename_i function
    exact mayLead_of_templateTarget function fit.canBe told
  · rename_i other
    cases told
    exact mayLead_of_ne other args

section Completion

variable {α β γ δ : Type}

/-- Two runs come to the same, neither is refused for being nested too deeply, and the frames are given back. -/
def Completes (Agree : α → β → Prop) (start : CallStack) (first : Evaluation α) (second : Evaluation β) : Prop :=
  -- Both make the same picks.
  ∀ picks, ∃ result₁ result₂ now left, first.ending start picks = ⟨result₁, now, left⟩ ∧
    second.ending start picks = ⟨result₂, now, left⟩ ∧ ResultsAgree Agree result₁ result₂ ∧
      (∀ error, result₁ = .error error → error ≠ .unfinished) ∧ start.KeptIn now

/-- Runs that complete end in the same way, and not in a refusal. -/
theorem Completes.ending_eq {start : CallStack} {first second : Evaluation α} (completes : Completes (· = ·) start first second)
    (picks : List Nat) :
    second.ending start picks = first.ending start picks ∧ (first.ending start picks).result ≠ .error .unfinished := by
  obtain ⟨result₁, result₂, now, left, ends₁, ends₂, agree, finished, _⟩ := completes picks
  obtain rfl := agree.eq
  rw [ends₁, ends₂]
  exact ⟨rfl, fun refused => finished _ refused rfl⟩

/-- A value is no refusal. -/
theorem finished_ok {value : α} :
    ∀ error, (.ok value : Except TemplateError α) = .error error → error ≠ .unfinished :=
  -- The errors need not be told apart.
  fun _ failed => nomatch failed

/-- From every sound stack of the given templates, completing is respected by doing one after another. -/
def completionOn (registry : Registry) (names : List String) : Congruence Evaluation Evaluation where
  Related Agree first second := ∀ start : CallStack, start.Sound registry → start.names = names →
    Completes Agree start first second
  done agree start _ _ picks := ⟨_, _, start, picks, rfl, rfl, .ok agree, finished_ok, .refl start⟩
  andThen := by
    intro α β γ δ Agree Goal first₁ first₂ next₁ next₂ first next start sound named picks
    obtain ⟨result₁, result₂, now, left, ends₁, ends₂, agree, finished, kept⟩ := first start sound named picks
    rw [Evaluation.ending_bind, Evaluation.ending_bind, ends₁, ends₂]
    cases agree with
    | error error =>
      refine ⟨_, _, now, left, rfl, rfl, .error error, ?_, kept⟩
      rintro _ ⟨rfl⟩
      exact finished error rfl
    | ok agree =>
      obtain ⟨result₁', result₂', later, left', ends₁', ends₂', agree', finished', kept'⟩ :=
        next _ _ agree now (sound.keptIn kept) (kept.names.trans named) left
      exact ⟨result₁', result₂', later, left', ends₁', ends₂', agree', finished', kept.trans kept'⟩

/-- From every sound stack that leaves room for all templates, completing is respected by doing one after another. -/
def completion (registry : Registry) (room : Nat) : Congruence Evaluation Evaluation where
  Related Agree first second := ∀ start : CallStack, start.Sound registry →
    registry.length < room + start.names.length → Completes Agree start first second
  done agree start sound _ := (completionOn registry start.names).done agree start sound rfl
  andThen first next start sound roomy :=
    (completionOn registry start.names).andThen (fun now sound' same => first now sound' (same ▸ roomy))
      (fun value₁ value₂ agree now sound' same => next value₁ value₂ agree now sound' (same ▸ roomy)) start sound rfl

variable {registry : Registry} {room : Nat} {names : List String}

/-- Completing wherever there is room is completing on the stacks of each list of templates that leaves room. -/
theorem related_completion_iff {Agree : α → β → Prop} {first : Evaluation α} {second : Evaluation β} :
    (completion registry room).Related Agree first second ↔
      ∀ names : List String, registry.length < room + names.length → (completionOn registry names).Related Agree first second :=
  ⟨fun related _ roomy start sound named => related start sound (named ▸ roomy),
    fun related start sound roomy => related start.names roomy start sound rfl⟩

/-- Failures, their handling and the places of errors complete, as long as nothing is refused. -/
theorem completionOn_handles : (completionOn registry names).Handles (· ≠ .unfinished) where
  fails error finished start _ _ picks := by
    refine ⟨_, _, start, picks, rfl, rfl, .error error, ?_, .refl start⟩
    rintro _ ⟨rfl⟩
    exact finished
  attempts body start sound named picks := by
    obtain ⟨result₁, result₂, now, left, ends₁, ends₂, agree, finished, kept⟩ := body start sound named picks
    rw [Evaluation.ending_attempt, Evaluation.ending_attempt, ends₁, ends₂]
    exact ⟨_, _, now, left, rfl, rfl, .ok ⟨agree.eq, finished⟩, finished_ok, kept⟩
  places site start _ _ picks := by
    have place : (Evaluating.placeOf site : Evaluation Place).ending start picks =
        ⟨.ok ⟨start.current?, site⟩, start, picks⟩ := rfl
    exact ⟨_, _, start, picks, place, place, .ok rfl, finished_ok, .refl start⟩
  others _ _ finished _ := finished

/-- Wherever there is room, failures, their handling and the places of errors complete as well. -/
theorem completion_handles : (completion registry room).Handles (· ≠ .unfinished) where
  fails error finished := related_completion_iff.mpr fun _ _ => completionOn_handles.fails error finished
  attempts body := related_completion_iff.mpr fun names roomy =>
    completionOn_handles.attempts (related_completion_iff.mp body names roomy)
  places site := related_completion_iff.mpr fun _ _ => completionOn_handles.places site
  others _ _ finished _ := finished

/-- A pick completes. -/
theorem completionOn_picks (candidates : List TemplateText) : (completionOn registry names).PicksAlike candidates := by
  intro start _ _ picks
  rw [Evaluation.ending_pickOne]
  exact ⟨_, _, start, _, rfl, rfl, .ok ⟨rfl, fun text taken => mem_of_pickAmong taken⟩, finished_ok, .refl start⟩

/-- Wherever there is room, a pick completes as well. -/
theorem completion_picks (candidates : List TemplateText) : (completion registry room).PicksAlike candidates :=
  related_completion_iff.mpr fun _ _ => completionOn_picks candidates

/-- What completes on an empty stack completes as a computation on a stack of its own. -/
theorem completion_isolated {first second : Evaluation α} (body : Completes (· = ·) {} first second) :
    (completion registry room).Related
      (fun result₁ result₂ => result₁ = result₂ ∧ ∀ error, result₁ = .error error → error ≠ .unfinished)
      (Evaluating.isolated first) (Evaluating.isolated second) := by
  intro start _ _ picks
  obtain ⟨result₁, result₂, now, left, ends₁, ends₂, agree, finished, _⟩ := body picks
  rw [Evaluation.ending_isolated, Evaluation.ending_isolated, ends₁, ends₂]
  exact ⟨_, _, start, left, rfl, rfl, .ok ⟨agree.eq, finished⟩, finished_ok, .refl start⟩

/-- A frame completes if its body does on the stacks with the frame. -/
theorem completes_withFrame {start : CallStack} (sound : start.Sound registry) {name : String} (fresh : name ∉ start.names)
    (known : name ∈ SortedMap.keys registry) {first second : Evaluation α}
    (body : (completionOn registry (name :: start.names)).Alike first second) :
    Completes (· = ·) start (Evaluating.withFrame name first) (Evaluating.withFrame name second) := by
  intro picks
  obtain ⟨result₁, result₂, now, left, ends₁, ends₂, agree, finished, kept⟩ :=
    body (start.push name) (sound.push fresh known) (start.names_push name) picks
  rw [Evaluation.ending_withFrame, Evaluation.ending_withFrame, ends₁, ends₂]
  -- The frames beneath the new one are those that were there before.
  refine ⟨result₁, result₂, now.pop, left, rfl, rfl, agree, finished, ?_⟩
  rw [CallStack.pop_eq_of_keptIn_push kept]
  exact .refl start

/-- A template that is evaluated by name completes if its body does on the stacks with its frame. -/
theorem completes_evalTemplate {environment : Environment} {calls₁ calls₂ : Calls Evaluation} {start : CallStack}
    (sound : start.Sound environment.registry) {callee : String} {scope : Scope}
    (body : ∀ template, environment.lookup (splitRerun callee).1 = .ok template →
      (completionOn environment.registry ((splitRerun callee).1 :: start.names)).Alike
        (evalBody environment calls₁ scope template.body) (evalBody environment calls₂ scope template.body)) :
    Completes (· = ·) start (evalTemplate environment calls₁ callee scope) (evalTemplate environment calls₂ callee scope) := by
  intro picks
  rw [ending_evalTemplate, ending_evalTemplate]
  cases found : environment.lookup (splitRerun callee).1 with
  | error error =>
    have handles : (completionOn environment.registry start.names).Handles (· ≠ .unfinished) := completionOn_handles
    refine ⟨_, _, start, picks, rfl, rfl, .error error, ?_, .refl start⟩
    rintro _ ⟨rfl⟩
    exact handles.missing found
  | ok template =>
    dsimp only
    by_cases running : (splitRerun callee).1 ∈ start.names
    · rw [if_pos running, if_pos running]
      exact ⟨_, _, start, picks, rfl, rfl, .error _, by simp, .refl start⟩
    · rw [if_neg running, if_neg running]
      have known : (splitRerun callee).1 ∈ SortedMap.keys environment.registry :=
        List.mem_map_of_mem (mem_of_lookup found)
      obtain ⟨result₁, result₂, now, left, ends₁, ends₂, agree, finished, kept⟩ :=
        completes_withFrame sound running known (body template found) picks
      obtain rfl := agree.eq
      rw [ends₁, ends₂]
      cases (splitRerun callee).2 with
      | true => exact ⟨_, _, now, left, rfl, rfl, agree, finished, kept⟩
      | false =>
        cases start.cached? ⟨(splitRerun callee).1, scope.fingerprint⟩ with
        | some value => exact ⟨_, _, start, picks, rfl, rfl, .ok rfl, finished_ok, .refl start⟩
        | none =>
          cases result₁ with
          | error error => exact ⟨_, _, now, left, rfl, rfl, agree, finished, kept⟩
          | ok value => exact ⟨_, _, _, left, rfl, rfl, .ok rfl, finished_ok, kept.trans (now.keptIn_store _ value)⟩

end Completion

/-- Calls of templates that are reached from one complete, and so do the exported templates that they use. -/
structure CallsComplete (environment : Environment) (root : String) (room : Nat) (calls₁ calls₂ : Calls Evaluation) :
    Prop where
  /-- A template that is reached completes. -/
  template : ∀ callee scope, Relation.ReflTransGen environment.Calls root (splitRerun callee).1 →
    (completion environment.registry room).Alike (calls₁.template callee scope) (calls₂.template callee scope)
  /-- An exported template that is used by one that is reached completes. -/
  exported : ∀ caller function owner name, Relation.ReflTransGen environment.Calls root caller →
    environment.Uses caller function → environment.functions.get? function = some (.exported owner name) →
      ∀ args scope, (completion environment.registry room).Alike (calls₁.exported owner name args scope)
        (calls₂.exported owner name args scope)

section Templates

variable {environment : Environment} {root : String} {room : Nat} {calls₁ calls₂ : Calls Evaluation}

/-- A call of a template that is reached completes. -/
theorem CallsComplete.called (calls : CallsComplete environment root room calls₁ calls₂) {callee : String}
    (reached : Relation.ReflTransGen environment.Calls root (splitRerun callee).1) (args : List Value) (scope : Scope) :
    (completion environment.registry room).Alike (callTemplate environment calls₁ callee args scope)
      (callTemplate environment calls₂ callee args scope) := by
  exact callee_alike completion_handles environment (fun template _ _ _ => by simp) fun template bound _ _ =>
    calls.template callee bound reached

/-- A registered function completes if it is no template or one that completes. -/
theorem CallsComplete.registered (calls : CallsComplete environment root room calls₁ calls₂) {caller name : String}
    (reached : Relation.ReflTransGen environment.Calls root caller) (used : environment.Uses caller name)
    (args : List Value) (scope : Scope) {function₁ function₂ : HostFunction Evaluation}
    (found₁ : registeredFunction? environment calls₁ name = some function₁)
    (found₂ : registeredFunction? environment calls₂ name = some function₂) :
    (completion environment.registry room).Alike (function₁ args scope) (function₂ args scope) :=
  registered_alike completion_handles rfl (Congruence.alike_pure _ ())
    (fun owner template here => calls.exported caller name owner template reached used here args scope) found₁ found₂

/-- The body of a template that is reached completes. -/
theorem CallsComplete.body (calls : CallsComplete environment root room calls₁ calls₂) (files : environment.FileFreeFrom root)
    {caller : String} (reached : Relation.ReflTransGen environment.Calls root caller) {template : Template}
    (found : environment.lookup caller = .ok template) (scope : Scope) :
    (completion environment.registry room).Alike (evalBody environment calls₁ scope template.body)
      (evalBody environment calls₂ scope template.body) := by
  have handles : (completion environment.registry room).Handles (· ≠ .unfinished) := completion_handles
  refine evalBody_alike template.body (fun candidates _ => completion_picks candidates) fun embedded among => ?_
  refine embedsAlike_of_eval handles rfl embedded ?_
  refine Expression.eval_alike _ (fun error => handles.raises error) embedded.expression (fun _ _ => rfl)
    fun name args node => ⟨fun lazy => isNone_own_if lazy rfl, fun values fit => ?_⟩
  have holds : environment.Holds caller name args := ⟨template, get?_of_lookup found, embedded, among, node⟩
  -- Whatever template is called is reached as well.
  have onward {callee : String} (may : mayCall name args callee) : Relation.ReflTransGen environment.Calls root callee :=
    reached.tail ⟨name, args, holds, may⟩
  refine hostOf_call_alike (fun _ => rfl) (fun _ _ => rfl) (fun _ _ _ => rfl) (fun error => handles.raises error) ?_ ?_ ?_ ?_
  · rintro rfl target rest named
    exact calls.called (onward (mayCall_of_templateTarget fit named)) rest scope
  · rintro rfl
    exact absurd holds (files caller args reached)
  · intro other _
    exact calls.called (onward (mayCall_of_not_mem other args)) values scope
  · intro other unknown function₁ function₂ found₁ found₂
    exact calls.registered reached ⟨other, unknown, args, holds⟩ values scope found₁ found₂

/-- A template that is reached completes one level deeper than the calls that it makes. -/
theorem CallsComplete.evalTemplate (calls : CallsComplete environment root room calls₁ calls₂)
    (files : environment.FileFreeFrom root) {callee : String}
    (reached : Relation.ReflTransGen environment.Calls root (splitRerun callee).1) (scope : Scope) :
    (completion environment.registry (room + 1)).Alike (Phrasebook.evalTemplate environment calls₁ callee scope)
      (Phrasebook.evalTemplate environment calls₂ callee scope) := by
  intro start sound roomy
  refine completes_evalTemplate sound fun template found => ?_
  refine related_completion_iff.mp (calls.body files reached found scope) _ ?_
  rw [List.length_cons]
  omega

end Templates

end Phrasebook
