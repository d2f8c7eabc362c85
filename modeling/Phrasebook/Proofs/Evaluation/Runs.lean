import Mathlib.Control.Monad.Writer
import Phrasebook.Evaluation.Computation

/-! What runs of evaluations come to, and what happens in them. -/

namespace Phrasebook

/-- What a run comes to. -/
structure Ending (α : Type) where
  /-- Its result. -/
  result : Except TemplateError α
  /-- The stack that it leaves behind. -/
  stack : CallStack
  /-- The picks that are left over. -/
  left : List Nat

/-- What a run comes to, out of its parts. -/
def Ending.ofRun {α : Type} (run : (Except TemplateError α × CallStack) × List Nat) : Ending α :=
  -- A failure leaves a stack behind as well.
  ⟨run.1.1, run.1.2, run.2⟩

/-- Results that agree: values that do, or the same error. -/
inductive ResultsAgree {α β : Type} (Agree : α → β → Prop) :
    Except TemplateError α → Except TemplateError β → Prop where
  /-- Two values agree. -/
  | ok {value₁ : α} {value₂ : β} (agree : Agree value₁ value₂) : ResultsAgree Agree (.ok value₁) (.ok value₂)
  /-- An error agrees with itself. -/
  | error (error : TemplateError) : ResultsAgree Agree (.error error) (.error error)

/-- Results whose values agree by being the same are the same. -/
theorem ResultsAgree.eq {α : Type} {result₁ result₂ : Except TemplateError α}
    (agree : ResultsAgree (· = ·) result₁ result₂) : result₁ = result₂ := by
  cases agree with
  | ok same => rw [same]
  | error error => rfl

/-- Every result agrees with itself. -/
theorem ResultsAgree.refl {α : Type} (result : Except TemplateError α) : ResultsAgree (· = ·) result result := by
  cases result with
  | ok value => exact .ok rfl
  | error error => exact .error error

/-- What a list of picks takes out of alternatives, and the picks left over. -/
def pickAmong {α : Type} (alternatives : List α) (picks : List Nat) : Option α × List Nat :=
  -- Nothing is taken out of nothing.
  (Choice.among alternatives (pure none) fun alternative => pure (some alternative)).run picks

/-- What is taken out of alternatives is one of them. -/
theorem mem_of_pickAmong {α : Type} {alternatives : List α} {picks : List Nat} {alternative : α}
    (taken : (pickAmong alternatives picks).1 = some alternative) : alternative ∈ alternatives := by
  -- A single alternative is taken without a pick.
  unfold pickAmong Choice.among at taken
  rcases alternatives with _ | ⟨head, _ | ⟨second, rest⟩⟩
  · cases taken
  · obtain rfl : head = alternative := Option.some.inj taken
    exact List.mem_singleton_self head
  · rw [← Option.some.inj taken]
    exact List.get_mem _ _

/-- Something is taken out of alternatives if there are any. -/
theorem exists_pickAmong {α : Type} {alternatives : List α} (some : alternatives ≠ []) (picks : List Nat) :
    ∃ alternative, (pickAmong alternatives picks).1 = .some alternative := by
  unfold pickAmong Choice.among
  rcases alternatives with _ | ⟨head, _ | ⟨second, rest⟩⟩
  · exact absurd rfl some
  · exact ⟨head, rfl⟩
  · exact ⟨_, rfl⟩

namespace Evaluation

instance : LawfulMonad Evaluation := inferInstanceAs (LawfulMonad (ExceptT TemplateError (StateT CallStack Choice)))

/-- What a run from a stack under a list of picks comes to. -/
def ending {α : Type} (body : Evaluation α) (stack : CallStack) (picks : List Nat) : Ending α :=
  -- Picks that are missing are zero.
  .ofRun ((body.run.run stack).run picks)

variable {α β : Type} (stack : CallStack) (picks : List Nat)

/-- Giving a value at once changes nothing else. -/
@[simp] theorem ending_pure (value : α) : ending (pure value) stack picks = ⟨.ok value, stack, picks⟩ :=
  -- Neither the stack nor the picks are touched.
  rfl

/-- A failure changes nothing else. -/
@[simp] theorem ending_fail (error : TemplateError) :
    ending (Evaluating.fail error : Evaluation α) stack picks = ⟨.error error, stack, picks⟩ :=
  -- Neither the stack nor the picks are touched.
  rfl

/-- A refused call changes nothing else. -/
@[simp] theorem ending_refuse :
    ending (Evaluating.refuse : Evaluation α) stack picks = ⟨.error .unfinished, stack, picks⟩ :=
  -- Neither the stack nor the picks are touched.
  rfl

/-- A result is given or raised at once. -/
@[simp] theorem ending_ofExcept (result : Except TemplateError α) :
    ending (Evaluating.ofExcept result) stack picks = ⟨result, stack, picks⟩ := by
  cases result <;> rfl

/-- Two computations in a row: the second goes on where the first ends, unless the first fails. -/
theorem ending_bind (first : Evaluation α) (next : α → Evaluation β) :
    ending (first >>= next) stack picks =
      match first.ending stack picks with
      | ⟨.ok value, now, left⟩ => (next value).ending now left
      | ⟨.error error, now, left⟩ => ⟨.error error, now, left⟩ := by
  have chained : ((first >>= next : Evaluation β).run.run stack).run picks =
      (ExceptT.bindCont next ((first.run.run stack).run picks).1.1 ((first.run.run stack).run picks).1.2 :
        Choice _).run ((first.run.run stack).run picks).2 :=
    Choice.run_andThen (first.run.run stack)
      (fun state : Except TemplateError α × CallStack => (ExceptT.bindCont next state.1 : StateT _ _ _) state.2) picks
  unfold ending
  rw [chained]
  rcases (first.run.run stack).run picks with ⟨⟨result, now⟩, left⟩
  cases result <;> rfl

/-- A failure that is handed on as a value is no failure. -/
@[simp] theorem ending_attempt (body : Evaluation α) :
    ending (Evaluating.attempt body) stack picks =
      ⟨.ok (body.ending stack picks).result, (body.ending stack picks).stack, (body.ending stack picks).left⟩ := by
  have chained : ((ExceptT.lift body.run : Evaluation _).run.run stack).run picks =
      (Choice.done (Except.ok ((body.run.run stack).run picks).1.1, ((body.run.run stack).run picks).1.2)).run
        ((body.run.run stack).run picks).2 :=
    Choice.run_andThen (body.run.run stack)
      (fun state : Except TemplateError α × CallStack =>
        (Choice.done (Except.ok state.1, state.2) : Choice (Except TemplateError _ × CallStack))) picks
  exact congrArg Ending.ofRun chained

/-- Looking at the stack changes nothing. -/
@[simp] theorem ending_stack :
    ending (Evaluating.stack : Evaluation CallStack) stack picks = ⟨.ok stack, stack, picks⟩ :=
  -- The value is the stack itself.
  rfl

/-- Changing the stack does nothing else. -/
@[simp] theorem ending_change (update : CallStack → CallStack) :
    ending (Evaluating.change update : Evaluation Unit) stack picks = ⟨.ok (), update stack, picks⟩ :=
  -- There is no value to speak of.
  rfl

/-- A pick takes one of the alternatives, and the stack has no part in it. -/
@[simp] theorem ending_pickOne (alternatives : List α) :
    ending (Evaluating.pickOne alternatives) stack picks =
      ⟨.ok (pickAmong alternatives picks).1, stack, (pickAmong alternatives picks).2⟩ := by
  have chained : ((ExceptT.lift (StateT.lift (Choice.among alternatives (pure none) fun alternative =>
      pure (some alternative))) : Evaluation _).run.run stack).run picks =
        (Choice.done (Except.ok (pickAmong alternatives picks).1, stack)).run (pickAmong alternatives picks).2 := by
    change ((Choice.andThen _ _).andThen _).run picks = _
    rw [Choice.run_andThen, Choice.run_andThen]
    rfl
  exact congrArg Ending.ofRun chained

/-- A computation on a stack of its own leaves this stack alone. -/
@[simp] theorem ending_isolated (body : Evaluation α) :
    ending (Evaluating.isolated body) stack picks =
      ⟨.ok (body.ending {} picks).result, stack, (body.ending {} picks).left⟩ := by
  have chained : ((Evaluating.isolated body : Evaluation _).run.run stack).run picks =
        (Choice.done (Except.ok (body.ending {} picks).result, stack)).run (body.ending {} picks).left := by
    change (((Choice.andThen _ _).andThen _).andThen _).run picks = _
    rw [Choice.run_andThen, Choice.run_andThen, Choice.run_andThen]
    rfl
  exact congrArg Ending.ofRun chained

/-- A template that runs already is reported, and nothing else is done. -/
@[simp] theorem ending_checkLoop (name : String) :
    ending (Evaluating.checkLoop name) stack picks =
      ⟨if name ∈ stack.names then .error (.loop (stack.names.reverse ++ [name])) else .ok (), stack, picks⟩ := by
  rw [Evaluating.checkLoop, ending_bind, ending_stack]
  by_cases running : name ∈ stack.names
  · simp [running]
  · simp [running]

/-- A template runs inside a frame that is gone afterwards. -/
@[simp] theorem ending_withFrame (name : String) (body : Evaluation α) :
    ending (Evaluating.withFrame name body) stack picks =
      ⟨(body.ending (stack.push name) picks).result, (body.ending (stack.push name) picks).stack.pop,
        (body.ending (stack.push name) picks).left⟩ := by
  simp only [Evaluating.withFrame, ending_bind, ending_change, ending_attempt, ending_ofExcept]

/-- Nobody is told of what is used from outside. -/
@[simp] theorem ending_outside :
    ending (Evaluating.outside : Evaluation Unit) stack picks = ⟨.ok (), stack, picks⟩ :=
  -- There is no value to speak of.
  rfl

end Evaluation

/-- Something that happens in a run. -/
inductive Event where
  /-- The stack is changed to a new one. -/
  | moment (stack : CallStack)
  /-- A file, a registered function or another stack is used. -/
  | outside
  /-- A call is refused for being nested too deeply. -/
  | exhausted

/-- Whether a call is refused. -/
def Event.isExhausted : Event → Bool
  -- Nothing else is said about the call.
  | .exhausted => true
  | _ => false

/-- An evaluation that keeps a record of what happens in it. -/
abbrev Recorded (α : Type) := ExceptT TemplateError (StateT CallStack (WriterT (List Event) Choice)) α

instance : LawfulMonad (WriterT (List Event) Choice) := LawfulMonad.mk' _
  -- Records are put one behind the other.
  (fun _ => by ext; simp)
  (fun _ _ => by ext; simp)
  (fun _ _ _ => by ext; simp)
  (fun _ _ => rfl)
  (fun _ _ => rfl)
  (fun _ _ => rfl)
  (fun _ _ => by ext; simp)
  (fun _ _ => rfl)

instance : LawfulMonad Recorded :=
  inferInstanceAs (LawfulMonad (ExceptT TemplateError (StateT CallStack (WriterT (List Event) Choice))))

/-- What a run comes to, and what has happened in it. -/
structure Trace (α : Type) extends Ending α where
  /-- What has happened, in order. -/
  events : List Event

namespace Recorded

/-- Take down what happens. -/
def note (events : List Event) : Recorded Unit :=
  -- Nothing else is done.
  ExceptT.mk fun stack => WriterT.mk (pure ((.ok (), stack), events))

/-- Make picks without taking them down. -/
def choose {α : Type} (choice : Choice α) : Recorded α :=
  -- The stack has no part in it.
  ExceptT.lift (StateT.lift (liftM choice))

instance : Evaluating Recorded where
  fail error := throw error
  attempt body := ExceptT.lift body.run
  stack := get
  change update := do
    let stack ← get
    note [.moment (update stack)]
    set (update stack)
  pickOne alternatives := choose (Choice.among alternatives (pure none) fun alternative => pure (some alternative))
  -- What happens on the other stack is not taken down, except that a call is refused.
  isolated body := do
    let state ← choose (body.run.run {}).run
    note (.outside :: state.2.filter Event.isExhausted)
    return state.1.1
  outside := note [.outside]
  refuse := do
    note [.exhausted]
    throw .unfinished

/-- What a run from a stack under a list of picks comes to, and what has happened in it. -/
def trace {α : Type} (body : Recorded α) (stack : CallStack) (picks : List Nat) : Trace α :=
  -- The record comes with the result.
  let run := (body.run.run stack).run.run picks
  ⟨.ofRun (run.1.1, run.2), run.1.2⟩

/-- All stacks of a run, the first one included. -/
def moments {α : Type} (body : Recorded α) (stack : CallStack) (picks : List Nat) : List CallStack :=
  -- Only changes of the stack make new ones.
  stack :: (body.trace stack picks).events.filterMap fun event =>
    match event with
    | .moment now => some now
    | _ => none

/-- A stack of a run is the first one or has been taken down. -/
theorem mem_moments {α : Type} {body : Recorded α} {start now : CallStack} {picks : List Nat} :
    now ∈ body.moments start picks ↔ now = start ∨ .moment now ∈ (body.trace start picks).events := by
  simp only [moments, List.mem_cons, List.mem_filterMap]
  refine or_congr_right ⟨?_, fun inside => ⟨_, inside, rfl⟩⟩
  rintro ⟨event, inside, same⟩
  cases event <;> simp_all

variable {α β : Type} (stack : CallStack) (picks : List Nat)

/-- Nothing happens where a value is given at once. -/
@[simp] theorem trace_pure (value : α) : trace (pure value) stack picks = ⟨⟨.ok value, stack, picks⟩, []⟩ :=
  -- Neither the stack nor the picks are touched.
  rfl

/-- A failure is not taken down by itself. -/
@[simp] theorem trace_fail (error : TemplateError) :
    trace (Evaluating.fail error : Recorded α) stack picks = ⟨⟨.error error, stack, picks⟩, []⟩ :=
  -- Neither the stack nor the picks are touched.
  rfl

/-- A refused call is taken down. -/
@[simp] theorem trace_refuse :
    trace (Evaluating.refuse : Recorded α) stack picks = ⟨⟨.error .unfinished, stack, picks⟩, [.exhausted]⟩ :=
  -- Neither the stack nor the picks are touched.
  rfl

/-- A result is given or raised at once. -/
@[simp] theorem trace_ofExcept (result : Except TemplateError α) :
    trace (Evaluating.ofExcept result) stack picks = ⟨⟨result, stack, picks⟩, []⟩ := by
  cases result <;> rfl

/-- Two computations in a row: the second goes on where the first ends, unless the first fails. -/
theorem trace_bind (first : Recorded α) (next : α → Recorded β) :
    trace (first >>= next) stack picks =
      match first.trace stack picks with
      | ⟨⟨.ok value, now, left⟩, events⟩ =>
        ⟨((next value).trace now left).toEnding, events ++ ((next value).trace now left).events⟩
      | ⟨⟨.error error, now, left⟩, events⟩ => ⟨⟨.error error, now, left⟩, events⟩ := by
  have chained : ((first >>= next : Recorded β).run.run stack).run.run picks =
      (Choice.andThen (first.run.run stack).run fun state =>
        Choice.andThen (ExceptT.bindCont next state.1.1 state.1.2 : WriterT (List Event) Choice _).run
          fun last => pure (last.1, state.2 ++ last.2)).run picks := rfl
  unfold trace
  rw [chained, Choice.run_andThen, Choice.run_andThen]
  rcases (first.run.run stack).run.run picks with ⟨⟨⟨result, now⟩, events⟩, left⟩
  cases result with
  | ok value => rfl
  | error error =>
    -- Nothing more happens after a failure.
    change Trace.mk (.ofRun ((.error error, now), left)) (events ++ []) = _
    rw [List.append_nil]
    rfl

/-- A failure that is handed on as a value is no failure, and what has happened stays taken down. -/
@[simp] theorem trace_attempt (body : Recorded α) :
    trace (Evaluating.attempt body) stack picks =
      ⟨⟨.ok (body.trace stack picks).result, (body.trace stack picks).stack, (body.trace stack picks).left⟩,
        (body.trace stack picks).events⟩ := by
  have chained : ((ExceptT.lift body.run : Recorded _).run.run stack).run.run picks =
      (Choice.andThen (body.run.run stack).run fun state =>
        pure ((Except.ok state.1.1, state.1.2), state.2 ++ [])).run picks := rfl
  change trace (ExceptT.lift body.run) stack picks = _
  unfold trace
  rw [chained, Choice.run_andThen]
  change Trace.mk _ (_ ++ []) = _
  rw [List.append_nil]
  rfl

/-- Looking at the stack is not taken down. -/
@[simp] theorem trace_stack :
    trace (Evaluating.stack : Recorded CallStack) stack picks = ⟨⟨.ok stack, stack, picks⟩, []⟩ :=
  -- The value is the stack itself.
  rfl

/-- Every change of the stack is taken down. -/
@[simp] theorem trace_change (update : CallStack → CallStack) :
    trace (Evaluating.change update : Recorded Unit) stack picks =
      ⟨⟨.ok (), update stack, picks⟩, [.moment (update stack)]⟩ :=
  -- There is no value to speak of.
  rfl

/-- What is noted is taken down. -/
theorem trace_note (events : List Event) :
    trace (note events) stack picks = ⟨⟨.ok (), stack, picks⟩, events⟩ :=
  -- There is no value to speak of.
  rfl

/-- Picks are not taken down. -/
theorem trace_choose (choice : Choice α) :
    trace (choose choice) stack picks = ⟨⟨.ok (choice.run picks).1, stack, (choice.run picks).2⟩, []⟩ := by
  have chained : ((choose choice).run.run stack).run.run picks =
      (Choice.done ((Except.ok (choice.run picks).1, stack), [])).run (choice.run picks).2 := by
    change (((Choice.andThen _ _).andThen _).andThen _).run picks = _
    rw [Choice.run_andThen, Choice.run_andThen, Choice.run_andThen]
    rfl
  unfold trace
  rw [chained]
  rfl

/-- A pick takes one of the alternatives. -/
@[simp] theorem trace_pickOne (alternatives : List α) :
    trace (Evaluating.pickOne alternatives) stack picks =
      ⟨⟨.ok (pickAmong alternatives picks).1, stack, (pickAmong alternatives picks).2⟩, []⟩ :=
  -- The stack has no part in it.
  trace_choose stack picks _

/-- Of a computation on a stack of its own, only refused calls are taken down. -/
@[simp] theorem trace_isolated (body : Recorded α) :
    trace (Evaluating.isolated body) stack picks =
      ⟨⟨.ok (body.trace {} picks).result, stack, (body.trace {} picks).left⟩,
        .outside :: (body.trace {} picks).events.filter Event.isExhausted⟩ := by
  have parts : (Evaluating.isolated body : Recorded (Except TemplateError α)) =
      (choose (body.run.run {}).run >>= fun state =>
        note (.outside :: state.2.filter Event.isExhausted) >>= fun _ => pure state.1.1) := rfl
  rw [parts, trace_bind, trace_choose]
  simp only [trace_bind, trace_note, trace_pure, List.nil_append, List.append_nil]
  rfl

/-- What is used from outside is taken down. -/
@[simp] theorem trace_outside :
    trace (Evaluating.outside : Recorded Unit) stack picks = ⟨⟨.ok (), stack, picks⟩, [.outside]⟩ :=
  -- There is no value to speak of.
  rfl

end Recorded

end Phrasebook
