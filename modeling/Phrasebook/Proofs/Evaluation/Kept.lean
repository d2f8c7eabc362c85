import Phrasebook.Proofs.Collection.Loaded
import Phrasebook.Proofs.Evaluation.Chance
import Phrasebook.Proofs.Evaluation.Peers

/-! What a running template keeps of its calls is neither changed nor lost, and equal calls find it again. -/

namespace Phrasebook

open Evaluation

namespace CallStack

/-- A stack is as it was, but for the result of one call that its innermost template may keep in front of what it has kept. -/
structure ExtendsBy (key : MemoKey) (result : Except TemplateError Value) (before after : CallStack) : Prop where
  /-- The same templates run. -/
  names : after.names = before.names
  /-- All frames but the innermost are as they were. -/
  beneath : after.frames.tail = before.frames.tail
  /-- Whether results are kept has not changed. -/
  memoized : after.memoized = before.memoized
  /-- What is added is the value of the call, for which nothing was kept. -/
  memo : after.memo = before.memo ∨ ∃ value, result = .ok value ∧ (∀ entry ∈ before.memo, entry.1 ≠ key) ∧
    after.memo = (key, value) :: before.memo

/-- A stack that is left alone is as it was. -/
theorem extendsBy_self (key : MemoKey) (result : Except TemplateError Value) (stack : CallStack) :
    stack.ExtendsBy key result stack :=
  ⟨rfl, rfl, rfl, .inl rfl⟩

/-- Keeping the value of a call for which nothing is found changes nothing else. -/
theorem extendsBy_store {stack : CallStack} {key : MemoKey} (new : stack.cached? key = none) (value : Value) :
    stack.ExtendsBy key (.ok value) (stack.store key value) := by
  have kept := stack.keptIn_store key value
  refine ⟨kept.names, kept.beneath, kept.memoized, ?_⟩
  rw [cached?_eq] at new
  obtain ⟨frames, memoized⟩ := stack
  cases memoized with
  | false => exact .inl rfl
  | true =>
    cases frames with
    | nil => exact .inl rfl
    | cons frame rest =>
      refine .inr ⟨value, rfl, fun entry inside same => ?_, rfl⟩
      simp only [if_true, Option.map_eq_none_iff, List.find?_eq_none] at new
      exact new entry inside (beq_iff_eq.mpr same)

end CallStack

/-- What becomes of a stack on which one template keeps running: it makes calls of any kind, within any bounds. -/
inductive Meanwhile (environment : Environment) (start : CallStack) : CallStack → Prop where
  /-- Nothing has happened. -/
  | nothing : Meanwhile environment start start
  /-- A template has been called, whatever it has come to. -/
  | called {now : CallStack} (earlier : Meanwhile environment start now) (limit : Nat) (name : String) (scope : Scope)
    (picks : List Nat) : Meanwhile environment start
      (((callsWithin limit environment).template name scope : Evaluation Value).ending now picks).stack
  /-- The text of a file has been evaluated. -/
  | read {now : CallStack} (earlier : Meanwhile environment start now) (limit : Nat) (text : TemplateText) (scope : Scope)
    (picks : List Nat) : Meanwhile environment start
      (((callsWithin limit environment).text text scope : Evaluation Value).ending now picks).stack
  /-- An exported template has been called. -/
  | imported {now : CallStack} (earlier : Meanwhile environment start now) (limit : Nat) (owner : Collection) (name : String)
    (args : List Value) (scope : Scope) (picks : List Nat) : Meanwhile environment start
      (((callsWithin limit environment).exported owner name args scope : Evaluation Value).ending now picks).stack

/-- While a template keeps running, its stack grows. -/
theorem Meanwhile.grows {environment : Environment} {start now : CallStack} (meanwhile : Meanwhile environment start now) :
    start.Grows now := by
  induction meanwhile with
  | nothing => exact .same
  | @called now _ limit name scope picks ih =>
    exact ih.trans (grows_of_alike ((callsAbreast_callsWithin limit environment).template name scope) now picks)
  | @read now _ limit text scope picks ih =>
    exact ih.trans (grows_of_alike ((callsAbreast_callsWithin limit environment).text text scope) now picks)
  | @imported now _ limit owner name args scope picks ih =>
    exact ih.trans (grows_of_alike ((callsAbreast_callsWithin limit environment).exported owner name args scope) now picks)

/-- What a call of a template by name comes to from a stack under a list of picks. -/
def Environment.callEnding (environment : Environment) (limit : Nat) (name : String) (scope : Scope) (stack : CallStack)
    (picks : List Nat) : Ending Value :=
  -- Calls that it makes may nest as deeply as the bound says.
  ((callsWithin limit environment).template name scope : Evaluation Value).ending stack picks

/-- A call is refused, or what it comes to is told by what the template comes to if it has to run. -/
theorem Environment.callEnding_cases (environment : Environment) (limit : Nat) (name : String) (scope : Scope)
    (stack : CallStack) (picks : List Nat) :
    (∃ error, ∀ other : CallStack, other.names = stack.names →
      environment.callEnding limit name scope other picks = ⟨.error error, other, picks⟩) ∨
    ∃ entered, ∀ other : CallStack, other.names = stack.names → other.memoized = stack.memoized →
      environment.callEnding limit name scope other picks =
        other.settleCall ⟨(splitRerun name).1, scope.fingerprint⟩ (splitRerun name).2 picks entered := by
  cases limit with
  | zero => exact .inl ⟨.unfinished, fun _ _ => rfl⟩
  | succ limit => exact (callsAbreast_callsWithin limit environment).exists_ending environment name scope stack picks

/-- A call keeps at most its own value, and only if nothing was kept for it. -/
theorem Environment.callEnding_extendsBy (environment : Environment) (limit : Nat) (name : String) (scope : Scope)
    (stack : CallStack) (picks : List Nat) :
    stack.ExtendsBy ⟨(splitRerun name).1, scope.fingerprint⟩ (environment.callEnding limit name scope stack picks).result
      (environment.callEnding limit name scope stack picks).stack := by
  rcases environment.callEnding_cases limit name scope stack picks with ⟨error, ends⟩ | ⟨⟨result, left⟩, ends⟩
  · rw [ends stack rfl]
    exact stack.extendsBy_self _ _
  · rw [ends stack rfl rfl]
    unfold CallStack.settleCall
    cases (splitRerun name).2 with
    | true => exact stack.extendsBy_self _ _
    | false =>
      cases found : stack.cached? ⟨(splitRerun name).1, scope.fingerprint⟩ with
      | some value => exact stack.extendsBy_self _ _
      | none =>
        cases result with
        | error error => exact stack.extendsBy_self _ _
        | ok value => exact CallStack.extendsBy_store found value

/-- The value of a call without an exclamation mark is found afterwards, where results are kept at all. -/
theorem Environment.cached?_callEnding (environment : Environment) {limit : Nat} {name : String} {scope : Scope}
    {stack : CallStack} {picks : List Nat} (plain : (splitRerun name).2 = false) (kept : stack.memoized = true)
    (running : stack.frames ≠ []) {value : Value}
    (succeeded : (environment.callEnding limit name scope stack picks).result = .ok value) :
    (environment.callEnding limit name scope stack picks).stack.cached? ⟨(splitRerun name).1, scope.fingerprint⟩ =
      some value := by
  rcases environment.callEnding_cases limit name scope stack picks with ⟨error, ends⟩ | ⟨⟨result, left⟩, ends⟩
  · rw [ends stack rfl] at succeeded
    cases succeeded
  · rw [ends stack rfl rfl, plain] at succeeded ⊢
    unfold CallStack.settleCall at succeeded ⊢
    cases found : stack.cached? ⟨(splitRerun name).1, scope.fingerprint⟩ with
    | some other =>
      rw [found] at succeeded
      cases succeeded
      exact found
    | none =>
      rw [found] at succeeded
      cases result with
      | error error => cases succeeded
      | ok other =>
        cases succeeded
        exact stack.cached?_store _ value kept running

/-- A call whose value is found comes to that value, and changes nothing. -/
theorem Environment.callEnding_of_cached? (environment : Environment) (limit : Nat) {name : String} {scope : Scope}
    {stack : CallStack} (plain : (splitRerun name).2 = false) {value : Value}
    (found : stack.cached? ⟨(splitRerun name).1, scope.fingerprint⟩ = some value)
    (known : ∃ template, environment.lookup (splitRerun name).1 = .ok template)
    (fresh : (splitRerun name).1 ∉ stack.names) (picks : List Nat) :
    environment.callEnding (limit + 1) name scope stack picks = ⟨.ok value, stack, picks⟩ := by
  obtain ⟨template, looked⟩ := known
  rw [callEnding, template_callsWithin_succ, ending_evalTemplate, looked]
  simp only [if_neg fresh, plain, found]

/-- A call that succeeds is one of a template which is there and does not run yet. -/
theorem Environment.known_of_callEnding (environment : Environment) {limit : Nat} {name : String} {scope : Scope}
    {stack : CallStack} {picks : List Nat} {value : Value}
    (succeeded : (environment.callEnding limit name scope stack picks).result = .ok value) :
    (∃ template, environment.lookup (splitRerun name).1 = .ok template) ∧ (splitRerun name).1 ∉ stack.names := by
  cases limit with
  | zero => cases succeeded
  | succ limit =>
    rw [callEnding, template_callsWithin_succ, ending_evalTemplate] at succeeded
    cases looked : environment.lookup (splitRerun name).1 with
    | error error =>
      rw [looked] at succeeded
      cases succeeded
    | ok template =>
      refine ⟨⟨template, rfl⟩, fun running => ?_⟩
      rw [looked] at succeeded
      simp only [if_pos running] at succeeded
      cases succeeded

/--
What a running template keeps of its calls is stable.

A call adds at most its own entry to what its caller keeps, and changes nothing else.
Where results are kept, an equal call finds the value again, whatever the caller does in between and whatever would be picked.
A call with an exclamation mark comes to the same whatever any running template keeps, and leaves all of it alone.
-/
theorem callEnding_isStable (environment : Environment) (limit : Nat) (name : String) (scope : Scope) (stack : CallStack)
    (picks : List Nat) :
    stack.ExtendsBy ⟨(splitRerun name).1, scope.fingerprint⟩ (environment.callEnding limit name scope stack picks).result
        (environment.callEnding limit name scope stack picks).stack ∧
      ((splitRerun name).2 = false → stack.memoized = true → stack.frames ≠ [] → ∀ value,
        (environment.callEnding limit name scope stack picks).result = .ok value →
          ∀ now, Meanwhile environment (environment.callEnding limit name scope stack picks).stack now →
            ∀ limit' scope' picks', scope'.fingerprint = scope.fingerprint →
              environment.callEnding (limit' + 1) name scope' now picks' = ⟨.ok value, now, picks'⟩) ∧
      ((splitRerun name).2 = true → ∃ result left, ∀ other : CallStack, other.names = stack.names →
        other.memoized = stack.memoized → environment.callEnding limit name scope other picks = ⟨result, other, left⟩) := by
  have extended := environment.callEnding_extendsBy limit name scope stack picks
  refine ⟨extended, fun plain kept running value succeeded now meanwhile limit' scope' picks' same => ?_, fun rerun => ?_⟩
  · obtain ⟨known, fresh⟩ := environment.known_of_callEnding succeeded
    have stored := environment.cached?_callEnding plain kept running succeeded
    -- Whatever happens in between leaves the entry in place.
    have found := meanwhile.grows.cached? stored
    rw [← same] at found
    have names : now.names = stack.names := meanwhile.grows.keptIn.names.trans extended.names
    exact environment.callEnding_of_cached? limit' plain found known (names ▸ fresh) picks'
  · rcases environment.callEnding_cases limit name scope stack picks with ⟨error, ends⟩ | ⟨⟨result, left⟩, ends⟩
    · exact ⟨.error error, picks, fun other names _ => ends other names⟩
    · refine ⟨result, left, fun other names memoized => ?_⟩
      rw [ends other names memoized, rerun]
      rfl

/-- The text that a call comes to, if it comes to one. -/
def Ending.text? (ending : Ending Value) : Option String :=
  -- Other values are no texts.
  match ending.result with
  | .ok (.str text) => some text
  | _ => none

/-- A call that comes to a text succeeds with it. -/
theorem Ending.result_of_text? {ending : Ending Value} {text : String} (told : ending.text? = some text) :
    ending.result = .ok (.str text) := by
  unfold text? at told
  split at told
  · rename_i same
    rw [same, Option.some.inj told]
  · cases told

/-- A template with a condition that compares two calls of one with two texts. -/
def wager : Collection :=
  -- Whoever keeps results cannot lose.
  .ofText "# coin\n- x\n- y\n\n# t\n- IF: $\x7bcoin() == coin()\x7d\n  - heads\n- ELSE:\n  - tails"

/-- The stack on which the template with the condition has just started to run. -/
def wagered (memoized : Bool) : CallStack :=
  -- It has made no calls yet.
  ⟨[⟨"t", []⟩], memoized⟩

/-- A coin shows the same side again although it has been tossed anew in between. -/
theorem wager_isStable :
    (wager.alone.callEnding 1 "coin" (.ofValue .null) (wagered true) [1]).text? = some "y" ∧
      ∃ now, Meanwhile wager.alone (wager.alone.callEnding 1 "coin" (.ofValue .null) (wagered true) [1]).stack now ∧
        wager.alone.callEnding 1 "coin" (.ofValue .null) now [0] = ⟨.ok (.str "y"), now, [0]⟩ ∧
        ∃ result left, ∀ other : CallStack, other.names = now.names → other.memoized = now.memoized →
          wager.alone.callEnding 1 "coin!" (.ofValue .null) other [0] = ⟨result, other, left⟩ := by
  have shown : (wager.alone.callEnding 1 "coin" (.ofValue .null) (wagered true) [1]).text? = some "y" := by decide +kernel
  refine ⟨shown, _, .called .nothing 1 "coin!" (.ofValue .null) [0], ?_, ?_⟩
  · exact (callEnding_isStable wager.alone 1 "coin" (.ofValue .null) (wagered true) [1]).2.1 (by decide +kernel) rfl
      (by simp [wagered]) _ (Ending.result_of_text? shown) _ (.called .nothing 1 "coin!" (.ofValue .null) [0]) 0 _ [0] rfl
  · exact (callEnding_isStable wager.alone 1 "coin!" (.ofValue .null) _ [0]).2.2 (by decide +kernel)

/-- Where results are not kept, as in an expansion, the same coin shows two sides in one condition. -/
theorem wager_isForgotten :
    Environment.of wager {} {} [] = .ok wager.alone ∧
      (wager.alone.callEnding 1 "coin" (.ofValue .null) (wagered false) [0]).text? = some "x" ∧
      (wager.alone.callEnding 1 "coin" (.ofValue .null)
        (wager.alone.callEnding 1 "coin" (.ofValue .null) (wagered false) [0]).stack [1]).text? = some "y" ∧
      wager.alone.expandedUnder "t" [0, 1] = some ["tails"] := by
  obtain ⟨sound, tosses⟩ : wager.errors.length = 0 ∧
      (wager.alone.callEnding 1 "coin" (.ofValue .null) (wagered false) [0]).text? = some "x" ∧
      (wager.alone.callEnding 1 "coin" (.ofValue .null)
        (wager.alone.callEnding 1 "coin" (.ofValue .null) (wagered false) [0]).stack [1]).text? = some "y" ∧
      wager.alone.expandedUnder "t" [0, 1] = some ["tails"] := by
    decide +kernel
  exact ⟨Collection.alone_eq sound, tosses⟩

end Phrasebook
