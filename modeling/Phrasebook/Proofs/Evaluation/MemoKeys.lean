import Phrasebook.Proofs.Collection.Aliases
import Phrasebook.Proofs.Collection.WellFormed
import Phrasebook.Proofs.Evaluation.Kept

/-! The text under which a result is kept tells the template and its bindings, so that no other call finds it. -/

namespace Phrasebook

open Evaluation

/-- A scope and the address at which its global layer lies. -/
structure PlacedScope where
  /-- The scope. -/
  scope : Scope
  /-- Where the global layer lies. -/
  address : Nat

namespace PlacedScope

/-- Bind names over the same global layer, dropping earlier local bindings. -/
def withLocals (placed : PlacedScope) (locals : Fields) : PlacedScope :=
  -- The global layer is shared and not copied, so it stays where it is.
  ⟨placed.scope.withLocals locals, placed.address⟩

/-- The scope that comes from another one by binding local layers, one after the other. -/
def derive (root : PlacedScope) (layers : List Fields) : PlacedScope :=
  -- Without layers it is the scope itself.
  layers.foldl withLocals root

/-- The characters that tell a scope: the address in hexadecimal digits, and the local layer behind a colon. -/
def fingerprintChars (placed : PlacedScope) : List Char :=
  -- Without a local layer there is no colon either.
  Nat.toDigits 16 placed.address ++
    match placed.scope.fingerprint with
    | some locals => ':' :: locals.toList
    | none => []

/-- The text under which the result of a call is kept: the name of the template, and its scope behind a hash. -/
def memoText (placed : PlacedScope) (name : String) : String :=
  -- Nothing in the name is escaped.
  String.ofList (name.toList ++ '#' :: placed.fingerprintChars)

/-- Whether two scopes have no local layers, or local layers with the same JSON text. -/
def BindAlike (placed other : PlacedScope) : Prop :=
  -- Their global layers do not matter.
  (placed.scope.locals = none ∧ other.scope.locals = none) ∨
    ∃ fields fields', placed.scope.locals = some fields ∧ other.scope.locals = some fields' ∧
      (Value.obj fields).compact = (Value.obj fields').compact

/-- All scopes that come from one root have their global layer in one place. -/
@[simp] theorem address_derive (root : PlacedScope) (layers : List Fields) : (root.derive layers).address = root.address := by
  induction layers generalizing root with
  | nil => rfl
  | cons layer rest ih => exact ih (root.withLocals layer)

/-- Scopes bind alike just if their fingerprints are the same. -/
theorem bindAlike_iff {placed other : PlacedScope} :
    placed.BindAlike other ↔ placed.scope.fingerprint = other.scope.fingerprint := by
  unfold BindAlike Scope.fingerprint
  cases placed.scope.locals <;> cases other.scope.locals <;> simp

/-- Scopes in one place have the same characters just if their fingerprints are the same. -/
theorem fingerprintChars_inj {placed other : PlacedScope} (together : placed.address = other.address) :
    placed.fingerprintChars = other.fingerprintChars ↔ placed.scope.fingerprint = other.scope.fingerprint := by
  rw [fingerprintChars, fingerprintChars, together, List.append_right_inj]
  cases placed.scope.fingerprint <;> cases other.scope.fingerprint <;> simp [String.toList_inj]

/-- Names without a hash are told by the texts under which results are kept, and so are the fingerprints of scopes in one place. -/
theorem memoText_inj {placed other : PlacedScope} (together : placed.address = other.address) {name name' : String}
    (plain : '#' ∉ name.toList) (plain' : '#' ∉ name'.toList) :
    placed.memoText name = other.memoText name' ↔
      name = name' ∧ placed.scope.fingerprint = other.scope.fingerprint := by
  rw [memoText, memoText, String.ofList_inj]
  constructor
  · intro same
    obtain ⟨names, behind⟩ := append_cons_inj plain plain' same
    exact ⟨String.toList_inj.mp names, (fingerprintChars_inj together).mp behind⟩
  · rintro ⟨rfl, same⟩
    rw [(fingerprintChars_inj together).mpr same]

end PlacedScope

/-- A call that has come to a value. -/
structure Returned where
  /-- The template that was called. -/
  name : String
  /-- The scope it was called in. -/
  scope : Scope
  /-- What it came to. -/
  value : Value

/-- What there is to record of a call by name once it has ended. -/
def Ending.returned (ending : Ending Value) (name : String) (scope : Scope) : List Returned :=
  -- Failures are not kept, and neither are the values of calls with an exclamation mark.
  match (splitRerun name).2, ending.result with
  | false, .ok value => [⟨(splitRerun name).1, scope, value⟩]
  | _, _ => []

/-- What becomes of a stack by calls of templates in scopes over one global layer, with a record of the calls that have come to
    values, the latest first. -/
inductive CallHistory (environment : Environment) (globals : Value) (start : CallStack) : List Returned → CallStack → Prop where
  /-- Nothing has been called. -/
  | nothing : CallHistory environment globals start [] start
  /-- One more template has been called, whatever it has come to. -/
  | called {past : List Returned} {now : CallStack} (earlier : CallHistory environment globals start past now) (limit : Nat)
    (name : String) {scope : Scope} (common : scope.globals = globals) (picks : List Nat) :
    CallHistory environment globals start
      ((environment.callEnding limit name scope now picks).returned name scope ++ past)
      (environment.callEnding limit name scope now picks).stack

namespace CallHistory

variable {environment : Environment} {globals : Value}

/-- Further calls add to the record. -/
theorem trans {first second third : CallStack} {past later : List Returned}
    (earlier : CallHistory environment globals first past second)
    (further : CallHistory environment globals second later third) :
    CallHistory environment globals first (later ++ past) third := by
  induction further with
  | nothing => exact earlier
  | called _ limit name common picks ih =>
    rw [List.append_assoc]
    exact ih.called limit name common picks

/-- A call keeps nothing but its own value, which goes on record. -/
theorem mem_memo_callEnding {limit : Nat} {name : String} {scope : Scope} {stack : CallStack} {picks : List Nat}
    {entry : MemoKey × Value} (inside : entry ∈ (environment.callEnding limit name scope stack picks).stack.memo) :
    entry ∈ stack.memo ∨ entry.1 = ⟨(splitRerun name).1, scope.fingerprint⟩ ∧
      ⟨(splitRerun name).1, scope, entry.2⟩ ∈ (environment.callEnding limit name scope stack picks).returned name scope := by
  cases marked : (splitRerun name).2 with
  | true =>
    -- A call with an exclamation mark leaves the stack as it is.
    rcases environment.callEnding_cases limit name scope stack picks with ⟨error, ends⟩ | ⟨entered, ends⟩
    · rw [ends stack rfl] at inside
      exact .inl inside
    · rw [ends stack rfl rfl, marked] at inside
      exact .inl inside
  | false =>
    rcases (environment.callEnding_extendsBy limit name scope stack picks).memo with same | ⟨value, succeeded, -, grown⟩
    · exact .inl (same ▸ inside)
    · rw [grown] at inside
      rcases List.mem_cons.mp inside with rfl | old
      · refine .inr ⟨rfl, ?_⟩
        simp [Ending.returned, marked, succeeded]
      · exact .inl old

/-- Where nothing was kept at first, everything that is kept is the value of a call on record. -/
theorem exists_of_mem_memo {start now : CallStack} {past : List Returned}
    (history : CallHistory environment globals start past now) (fresh : start.memo = []) {entry : MemoKey × Value}
    (inside : entry ∈ now.memo) : ∃ returned ∈ past, returned.scope.globals = globals ∧
      entry = (⟨returned.name, returned.scope.fingerprint⟩, returned.value) := by
  induction history with
  | nothing =>
    rw [fresh] at inside
    cases inside
  | @called past now earlier limit name scope common picks ih =>
    rcases mem_memo_callEnding inside with old | ⟨key, new⟩
    · obtain ⟨returned, among, shared, same⟩ := ih old
      exact ⟨returned, List.mem_append_right _ among, shared, same⟩
    · exact ⟨_, List.mem_append_left _ new, common, Prod.ext key rfl⟩

/-- What is found for a call is the value of an earlier call of the same template in the same scope. -/
theorem mem_of_cached? {start now : CallStack} {past : List Returned}
    (history : CallHistory environment globals start past now) (fresh : start.memo = []) {name : String} {scope : Scope}
    (common : scope.globals = globals) {value : Value} (found : now.cached? ⟨name, scope.fingerprint⟩ = some value) :
    ⟨name, scope, value⟩ ∈ past := by
  obtain ⟨⟨name', scope', value'⟩, among, shared, same⟩ := history.exists_of_mem_memo fresh (mem_memo_of_cached? found)
  simp only [Prod.mk.injEq, MemoKey.mk.injEq] at same
  obtain ⟨⟨rfl, told⟩, rfl⟩ := same
  obtain rfl := Scope.eq_of_fingerprint (common.trans shared.symm) told
  exact among

end CallHistory

namespace Evaluation

variable {α β γ δ : Type} (environment : Environment) (globals : Value)

/-- Two computations come to the same, and all they do to the stack is to call templates in scopes over one global layer. -/
def Calling (Agree : α → β → Prop) (first : Evaluation α) (second : Evaluation β) : Prop :=
  -- Frames beneath the innermost one are not touched by calls.
  ∀ stack picks, ∃ result₁ result₂ now left past,
    first.ending stack picks = ⟨result₁, now, left⟩ ∧ second.ending stack picks = ⟨result₂, now, left⟩ ∧
      ResultsAgree Agree result₁ result₂ ∧ CallHistory environment globals stack past now

/-- Doing nothing but calls is respected by doing one after another. -/
def calling : Congruence Evaluation Evaluation where
  Related := Calling environment globals
  done agree stack picks := ⟨_, _, stack, picks, [], rfl, rfl, .ok agree, .nothing⟩
  andThen := by
    intro α β γ δ Agree Goal first₁ first₂ next₁ next₂ first next stack picks
    obtain ⟨result₁, result₂, now, left, past, ends₁, ends₂, agree, history⟩ := first stack picks
    rw [ending_bind, ending_bind, ends₁, ends₂]
    cases agree with
    | error error => exact ⟨_, _, now, left, past, rfl, rfl, .error error, history⟩
    | ok agree =>
      obtain ⟨result₁', result₂', later, left', past', ends₁', ends₂', agree', history'⟩ := next _ _ agree now left
      exact ⟨result₁', result₂', later, left', past' ++ past, ends₁', ends₂', agree', history.trans history'⟩

variable {environment globals}

/-- Failures, their handling and the places of errors do not touch the stack. -/
theorem calling_handles : (calling environment globals).Handles fun _ => True where
  fails error _ stack picks := ⟨_, _, stack, picks, [], rfl, rfl, .error error, .nothing⟩
  attempts body stack picks := by
    obtain ⟨result₁, result₂, now, left, past, ends₁, ends₂, agree, history⟩ := body stack picks
    rw [ending_attempt, ending_attempt, ends₁, ends₂]
    exact ⟨_, _, now, left, past, rfl, rfl, .ok ⟨agree.eq, fun _ _ => trivial⟩, history⟩
  places site stack picks := ⟨_, _, stack, picks, [], rfl, rfl, .ok rfl, .nothing⟩
  others _ _ _ _ := trivial

/-- Picking an alternative does not touch the stack. -/
theorem calling_picks (candidates : List TemplateText) : (calling environment globals).PicksAlike candidates := by
  intro stack picks
  rw [ending_pickOne]
  exact ⟨_, _, stack, _, [], rfl, rfl, .ok ⟨rfl, fun text taken => mem_of_pickAmong taken⟩, .nothing⟩

/-- A call of a template by name is a call. -/
theorem calling_template (limit : Nat) (name : String) {scope : Scope} (common : scope.globals = globals) :
    (calling environment globals).Alike ((callsWithin limit environment).template name scope)
      ((callsWithin limit environment).template name scope) :=
  fun _ picks => ⟨_, _, _, _, _, rfl, rfl, .refl _, CallHistory.nothing.called limit name common picks⟩

/-- A call of an exported template does not touch the stack, for it runs on one of its own. -/
theorem calling_exported (limit : Nat) (owner : Collection) (name : String) (args : List Value) (scope : Scope) :
    (calling environment globals).Alike ((callsWithin limit environment).exported owner name args scope)
      ((callsWithin limit environment).exported owner name args scope) := by
  cases limit with
  | zero => exact calling_handles.fails .unfinished trivial
  | succ limit =>
    refine (calling environment globals).alike_bind (calling_handles.ofExcept _ fun _ _ => trivial) fun exporter => ?_
    refine (calling environment globals).alike_bind (fun stack picks => ?_) fun result => ?_
    · rw [ending_isolated]
      exact ⟨_, _, stack, _, [], rfl, rfl, .ok rfl, .nothing⟩
    · exact calling_handles.ofExcept result fun _ _ => trivial

/-- An expression does nothing to the stack but call templates, if the texts of files do. -/
theorem calling_embeds {limit : Nat} {scope : Scope} (common : scope.globals = globals)
    (texts : ∀ text, (calling environment globals).Alike ((callsWithin limit environment).text text scope)
      ((callsWithin limit environment).text text scope)) (embedded : Embedded) :
    (calling environment globals).EmbedsAlike environment environment (callsWithin limit environment)
      (callsWithin limit environment) scope scope embedded := by
  have called (name : String) (args : List Value) : (calling environment globals).Alike
      (callTemplate environment (callsWithin limit environment) name args scope)
      (callTemplate environment (callsWithin limit environment) name args scope) := by
    exact callee_alike calling_handles environment (fun _ _ _ _ => trivial) fun _ bound _ binds =>
      calling_template limit name ((Afresh.globals_of_bindArguments binds).trans common)
  have included (args : List Value) : (calling environment globals).Alike
      (includeFile environment (callsWithin limit environment) args scope)
      (includeFile environment (callsWithin limit environment) args scope) := by
    refine includeFile_alike calling_handles rfl ((calling environment globals).alike_pure ()) (fun _ => True) ?_
      fun _ _ _ text _ _ _ _ => texts text
    exact fun stack picks => ⟨_, _, stack, picks, [], rfl, rfl, .ok ⟨rfl, trivial⟩, .nothing⟩
  refine embedsAlike_of_eval calling_handles rfl embedded ?_
  refine Expression.eval_alike (calling environment globals) (fun error => calling_handles.raises error) embedded.expression
    (fun _ _ => rfl) fun name args _ => ⟨fun lazy => isNone_own_if lazy rfl, fun values _ => ?_⟩
  exact hostOf_call_alike (fun _ => rfl) (fun _ _ => rfl) (fun _ _ _ => rfl) (fun error => calling_handles.raises error)
    (fun _ target rest _ => called target rest) (fun _ => included values) (fun _ _ => called name values)
    fun _ _ _ _ found₁ found₂ => registered_alike calling_handles rfl ((calling environment globals).alike_pure ())
      (fun owner template _ => calling_exported limit owner template values scope) found₁ found₂

/-- The text of a file does nothing to the stack but call templates. -/
theorem calling_text (limit : Nat) {scope : Scope} (common : scope.globals = globals) (text : TemplateText) :
    (calling environment globals).Alike ((callsWithin limit environment).text text scope)
      ((callsWithin limit environment).text text scope) := by
  induction limit generalizing text with
  | zero => exact calling_handles.fails .unfinished trivial
  | succ limit ih => exact evalText_alike .text text fun embedded _ => calling_embeds common ih embedded

end Evaluation

/-- Evaluating a body does nothing to the stack but call templates in scopes over its own global layer. -/
theorem exists_callHistory (environment : Environment) (limit : Nat) (scope : Scope) (body : Body) (stack : CallStack)
    (picks : List Nat) : ∃ past, CallHistory environment scope.globals stack past
      (Evaluation.ending (evalBody environment (callsWithin limit environment) scope body) stack picks).stack := by
  have calls : (calling environment scope.globals).Alike (evalBody environment (callsWithin limit environment) scope body)
      (evalBody environment (callsWithin limit environment) scope body) :=
    evalBody_alike body (fun candidates _ => calling_picks candidates) fun embedded _ =>
      calling_embeds rfl (calling_text limit rfl) embedded
  obtain ⟨_, _, now, _, past, ends, -, -, history⟩ := calls stack picks
  rw [ends]
  exact ⟨past, history⟩

/-- Where parameters differ, the bindings of a call tell its arguments. -/
theorem args_eq_of_bindArguments {template : Template} (distinct : template.parameters.Nodup) {args args' : List Value}
    (given : args ≠ []) (given' : args' ≠ []) {scope scope' bound bound' : Scope}
    (binds : bindArguments template args scope = .ok bound) (binds' : bindArguments template args' scope' = .ok bound')
    (same : bound.locals = bound'.locals) : args = args' := by
  have layer {args : List Value} (given : args ≠ []) {scope bound : Scope}
      (binds : bindArguments template args scope = .ok bound) :
      args.length = template.parameters.length ∧
        bound.locals = some (SortedMap.ofList (template.parameters.zip args)) := by
    rw [bindArguments, if_neg (by simpa using given)] at binds
    split at binds
    · cases binds
    · rename_i fit
      cases binds
      exact ⟨by simpa using fit, rfl⟩
  obtain ⟨fit, bindings⟩ := layer given binds
  obtain ⟨fit', bindings'⟩ := layer given' binds'
  rw [bindings, bindings'] at same
  -- Looking the parameters up gives the arguments back.
  have values := SortedMap.map_get?_ofList_zip distinct fit
  rw [Option.some.inj same, SortedMap.map_get?_ofList_zip distinct fit'] at values
  exact (List.map_injective_iff.mpr (Option.some_injective Value) values).symm

/-- **Memo keys identify bindings.** For scopes that come from one root, the texts under which results of calls are kept are the
    same just if the templates are, and either no scope has a local layer or both have layers with the same JSON text, which
    different values never have; the keys that evaluation compares are the same just then. So what a running template finds for
    a call is what an earlier call of the same template in the same scope has come to, and evaluating a body does nothing else
    to what is kept than to make calls over its own global layer. In a collection without errors, where parameters differ, the
    same key also means the same bindings, and the same arguments wherever both calls pass any. -/
theorem memoKeys_identifyBindings :
    (∀ collection : Collection, collection.IsLoaded → ∀ (root : PlacedScope) (name name' : String) (layers layers' : List Fields),
      collection.registry.has name = true → collection.registry.has name' = true →
        ((root.derive layers).memoText name = (root.derive layers').memoText name' ↔
          name = name' ∧ (root.derive layers).BindAlike (root.derive layers')) ∧
        ((root.derive layers).memoText name = (root.derive layers').memoText name' ↔
          MemoKey.mk name (root.derive layers).scope.fingerprint = MemoKey.mk name' (root.derive layers').scope.fingerprint)) ∧
    (∀ value value' : Value, value.compact = value'.compact ↔ value = value') ∧
    (∀ (environment : Environment) (globals : Value) (start now : CallStack) (past : List Returned), start.memo = [] →
      CallHistory environment globals start past now → ∀ (name : String) (scope : Scope) (value : Value),
        scope.globals = globals → now.cached? ⟨name, scope.fingerprint⟩ = some value → ⟨name, scope, value⟩ ∈ past) ∧
    (∀ (environment : Environment) (limit : Nat) (scope : Scope) (body : Body) (stack : CallStack) (picks : List Nat),
      ∃ past, CallHistory environment scope.globals stack past
        (Evaluation.ending (evalBody environment (callsWithin limit environment) scope body) stack picks).stack) ∧
    ∀ collection : Collection, collection.IsLoaded → collection.errors = [] → ∀ (name : String) (template : Template),
      (name, template) ∈ collection.registry → ∀ (args args' : List Value) (scope scope' bound bound' : Scope),
        scope.globals = scope'.globals → bindArguments template args scope = .ok bound →
          bindArguments template args' scope' = .ok bound' → bound.fingerprint = bound'.fingerprint →
            bound = bound' ∧ (args ≠ [] → args' ≠ [] → args = args') := by
  refine ⟨fun collection loaded root name name' layers layers' known known' => ?_, fun value value' => ?_, ?_, ?_, ?_⟩
  · have plain {name : String} (known : collection.registry.has name = true) : '#' ∉ name.toList := by
      rw [SortedMap.has_eq_isSome_get?, Option.isSome_iff_exists] at known
      obtain ⟨template, found⟩ := known
      exact loaded.not_mem_of_mem_registry (by decide) (by decide) (by decide) (by decide) (SortedMap.mem_of_get? found)
    have together : (root.derive layers).address = (root.derive layers').address := by simp
    rw [PlacedScope.memoText_inj together (plain known) (plain known'), PlacedScope.bindAlike_iff, MemoKey.mk.injEq]
    exact ⟨Iff.rfl, Iff.rfl⟩
  · exact ⟨Value.compact_injective, congrArg Value.compact⟩
  · exact fun environment globals start now past fresh history name scope value common found =>
      history.mem_of_cached? fresh common found
  · exact exists_callHistory
  · intro collection loaded sound name template inside args args' scope scope' bound bound' shared binds binds' same
    have globals : bound.globals = bound'.globals :=
      ((Afresh.globals_of_bindArguments binds).trans shared).trans (Afresh.globals_of_bindArguments binds').symm
    obtain rfl := Scope.eq_of_fingerprint globals same
    refine ⟨rfl, fun given given' => ?_⟩
    -- A repeated parameter would have been an error.
    obtain ⟨id, _, leads, defined, _⟩ := Collection.exists_of_mem_registry inside
    have found := Collection.file?_of_mem_templates defined
    have whole := TemplateFile.wellFormed_of_isErrorFree (loaded.isErrorFree sound leads found)
    have distinct := (whole.2 template ((loaded.isOfText found).templates ▸ defined)).distinct
    exact args_eq_of_bindArguments distinct given given' binds binds' rfl

/-- A template with two texts, which another one calls with two arguments. -/
def salute : Collection :=
  -- The first call keeps what it has come to.
  .ofText "# hi(n)\n- Hi $\x7bn\x7d\n- Oh $\x7bn\x7d\n\n# both\n- $\x7bhi('a')\x7d and $\x7bhi('b')\x7d"

/-- A scope without bindings whose global layer lies somewhere. -/
def somewhere : PlacedScope :=
  -- Any address will do.
  ⟨.ofValue .null, 255⟩

/-- The bindings of a call with one argument. -/
def addressed (name : String) : Fields :=
  -- There is one parameter.
  [("n", .str name)]

/-- The stack on which the template that greets twice has just started to run. -/
def saluting : CallStack :=
  -- It has made no calls yet.
  CallStack.push ⟨[], true⟩ "both"

/-- What a greeting comes to from a stack under a pick. -/
def greetingOf (environment : Environment) (name : String) (stack : CallStack) (pick : Nat) : Ending Value :=
  -- It calls nothing else.
  environment.callEnding 1 "hi" ⟨.null, some (addressed name)⟩ stack [pick]

/-- Two greetings are kept under different texts, and the first one is found behind the second. -/
theorem salute_identifiesBindings :
    salute.IsLoaded ∧ salute.errors = [] ∧
      (somewhere.derive [addressed "a"]).memoText "hi" = "hi#ff:\x7b\"n\":\"a\"\x7d" ∧
      (somewhere.derive [addressed "a"]).memoText "hi" ≠ (somewhere.derive [addressed "a", addressed "b"]).memoText "hi" ∧
      (∃ past now, CallHistory salute.alone .null saluting past now ∧ past.length = 2 ∧
        now.cached? ⟨"hi", Scope.fingerprint ⟨.null, some (addressed "a")⟩⟩ = some (.str "Oh a") ∧
        ⟨"hi", ⟨.null, some (addressed "a")⟩, .str "Oh a"⟩ ∈ past) ∧
      ∃ template bound, ("hi", template) ∈ salute.registry ∧
        bindArguments template [.str "a"] (.ofValue .null) = .ok bound ∧
        bindArguments template [.str "a"] ⟨.null, some (addressed "b")⟩ = .ok bound := by
  have loaded : salute.IsLoaded := ⟨_, _, _, rfl⟩
  have sound : salute.errors = [] := List.eq_nil_of_length_eq_zero (by decide +kernel)
  obtain ⟨known, parameters, text, differ, first, second⟩ : salute.registry.has "hi" = true ∧
      (salute.registry.get? "hi").map (·.parameters) = some ["n"] ∧
      (somewhere.derive [addressed "a"]).memoText "hi" = "hi#ff:\x7b\"n\":\"a\"\x7d" ∧
      (Value.obj (addressed "a")).compact ≠ (Value.obj (addressed "b")).compact ∧
      (greetingOf salute.alone "a" saluting 1).text? = some "Oh a" ∧
      (greetingOf salute.alone "b" (greetingOf salute.alone "a" saluting 1).stack 0).text? = some "Hi b" := by
    decide +kernel
  refine ⟨loaded, sound, text, fun same => ?_, ?_, ?_⟩
  · have alike := ((memoKeys_identifyBindings.1 salute loaded somewhere "hi" "hi" _ _ known known).1.mp same).2
    rcases alike with ⟨none, _⟩ | ⟨_, _, here, there, layers⟩
    · cases none
    · cases here
      cases there
      exact differ layers
  · -- The environment is left open, so that nothing is evaluated again.
    generalize salute.alone = environment at first second ⊢
    unfold greetingOf at first second
    have common (name : String) : Scope.globals ⟨.null, some (addressed name)⟩ = .null := rfl
    have history := ((CallHistory.nothing : CallHistory environment .null saluting [] saluting).called 1 "hi" (common "a")
      [1]).called 1 "hi" (common "b") [0]
    have plain : splitRerun "hi" = ("hi", false) := by decide +kernel
    have stored := environment.cached?_callEnding (by rw [plain]) rfl (List.cons_ne_nil _ _) (Ending.result_of_text? first)
    -- The second call leaves in place what the first one has kept.
    have found := (grows_of_alike ((callsAbreast_callsWithin 1 environment).template "hi" ⟨.null, some (addressed "b")⟩) _
      [0]).cached? stored
    rw [plain] at found
    refine ⟨_, _, history, ?_, found, memoKeys_identifyBindings.2.2.1 environment .null saluting _ _ rfl history "hi" _ _ rfl found⟩
    simp [Ending.returned, plain, Ending.result_of_text? first, Ending.result_of_text? second]
  · obtain ⟨template, found, own⟩ := Option.map_eq_some_iff.mp parameters
    have binds (scope : Scope) : bindArguments template [.str "a"] scope = .ok (scope.withLocals (addressed "a")) := by
      simp [bindArguments, own]
      rfl
    have inside := SortedMap.mem_of_get? found
    have same := (memoKeys_identifyBindings.2.2.2.2 salute loaded sound "hi" template inside [.str "a"] [.str "a"] (.ofValue .null)
      ⟨.null, some (addressed "b")⟩ _ _ rfl (binds _) (binds _) rfl).1
    exact ⟨template, _, inside, binds _, same ▸ binds _⟩

end Phrasebook
