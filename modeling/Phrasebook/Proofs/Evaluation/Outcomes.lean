import Mathlib.Data.List.FinRange
import Phrasebook.Proofs.Evaluation.Runs
import Phrasebook.Proofs.Results

/-! All outcomes of an evaluation, in the order of the picks that lead to them. -/

namespace Phrasebook

namespace Choice

variable {α β : Type}

/-- A computation has a result whatever is picked. -/
theorem leaves_ne_nil (choice : Choice α) : choice.leaves ≠ [] := by
  -- Every node has a first branch.
  induction choice with
  | done result => simp [leaves]
  | pick last branch grown =>
    intro none
    simp only [leaves, List.flatMap_eq_nil_iff] at none
    exact grown 0 (none 0 (List.mem_finRange 0))

/-- The results of a computation on one of several alternatives are its results on all of them, in order. -/
theorem leaves_among {alternatives : List α} (some : alternatives ≠ []) (none : Choice β) (next : α → Choice β) :
    (among alternatives none next).leaves = alternatives.flatMap fun alternative => (next alternative).leaves := by
  unfold among
  rcases alternatives with _ | ⟨head, _ | ⟨second, rest⟩⟩
  · exact absurd rfl some
  · simp
  · -- The branches are numbered like the alternatives.
    have numbered := List.map_get_finRange (head :: second :: rest)
    conv_rhs => rw [← numbered]
    rw [leaves, List.flatMap_map]
    rfl

end Choice

namespace Evaluation

variable {α β γ : Type} {stack : CallStack}

/-- The tree of two computations in a row: the second grows on every leaf where the first has not failed. -/
theorem run_bind (first : Evaluation α) (next : α → Evaluation β) (stack : CallStack) :
    (first >>= next : Evaluation β).run.run stack =
      (first.run.run stack).andThen fun state =>
        match state with
        | (.ok value, now) => (next value).run.run now
        | (.error error, now) => .done (.error error, now) := by
  change (first.run.run stack).andThen (fun state => (ExceptT.bindCont next state.1 : StateT _ _ _) state.2) = _
  congr 1
  funext state
  obtain ⟨result, now⟩ := state
  cases result <;> rfl

/-- A failure that is handed on as a value leaves the tree as it is. -/
theorem run_attempt (body : Evaluation α) (stack : CallStack) :
    (Evaluating.attempt body : Evaluation _).run.run stack =
      (body.run.run stack).andThen fun state => .done (.ok state.1, state.2) :=
  -- Only the results are changed.
  rfl

/-- A body runs on its own frame, which is taken off every stack that it leaves behind. -/
theorem run_withFrame (name : String) (body : Evaluation α) (stack : CallStack) :
    (Evaluating.withFrame name body : Evaluation α).run.run stack =
      (body.run.run (stack.push name)).andThen fun state => .done (state.1, state.2.pop) := by
  rw [Evaluating.withFrame, run_bind]
  change ((Evaluating.attempt body >>= fun result => Evaluating.change (·.pop) >>= fun _ =>
    Evaluating.ofExcept result : Evaluation α).run.run (stack.push name)) = _
  rw [run_bind, run_attempt, Choice.andThen_assoc]
  congr 1
  funext state
  obtain ⟨result, now⟩ := state
  -- The result is taken over on the stack without the frame.
  cases result <;> rfl

/-- A computation that picks nothing and leaves the stack as it was. -/
def Settles (stack : CallStack) (body : Evaluation α) : Prop :=
  -- It has but one result.
  body.run.run stack = .done (body.firstResult stack, stack)

/-- All results that a computation can give from a stack, earlier picks varying slowest. -/
def outcomesFrom (stack : CallStack) (body : Evaluation α) : List (Except TemplateError α) :=
  -- A result may occur more than once.
  (body.run.run stack).leaves.map (·.1)

/-- The outcomes of a second computation after a result of a first one. -/
def outcomesAfter (stack : CallStack) (next : α → Evaluation β) :
    Except TemplateError α → List (Except TemplateError β)
  -- Nothing comes after a failure.
  | .ok value => (next value).outcomesFrom stack
  | .error error => [.error error]

/-- A computation that leaves the stack as it was, whatever is picked. -/
def Restores (stack : CallStack) (body : Evaluation α) : Prop :=
  -- Failures leave it so as well.
  ∀ state ∈ (body.run.run stack).leaves, state.2 = stack

/-- A tree that is a single leaf on the same stack tells the result. -/
theorem settles_of_run {body : Evaluation α} {result : Except TemplateError α}
    (only : body.run.run stack = .done (result, stack)) : body.Settles stack ∧ body.firstResult stack = result := by
  have first : body.firstResult stack = result := by
    rw [firstResult, only]
    rfl
  constructor
  · rw [Settles, only, first]
  · exact first

/-- A value that is given at once settles. -/
theorem settles_pure (value : α) : (pure value : Evaluation α).Settles stack :=
  -- Neither the stack nor the picks are touched.
  rfl

/-- A failure settles. -/
theorem settles_fail (error : TemplateError) : (Evaluating.fail error : Evaluation α).Settles stack :=
  -- Neither the stack nor the picks are touched.
  rfl

/-- A result that is taken over settles. -/
theorem settles_ofExcept (result : Except TemplateError α) :
    (Evaluating.ofExcept result : Evaluation α).Settles stack := by
  cases result <;> rfl

/-- A result that is taken over is the result. -/
@[simp] theorem firstResult_ofExcept (result : Except TemplateError α) :
    (Evaluating.ofExcept result : Evaluation α).firstResult stack = result := by
  cases result <;> rfl

private theorem run_bind_of_settles {first : Evaluation α} {next : α → Evaluation β} (settled : first.Settles stack)
    (onward : ∀ value, first.firstResult stack = .ok value → (next value).Settles stack) :
    (first >>= next : Evaluation β).run.run stack =
      .done (first.firstResult stack >>= fun value => (next value).firstResult stack, stack) := by
  rw [run_bind, settled, Choice.andThen]
  cases result : first.firstResult stack with
  | error error => rfl
  | ok value => exact onward value result

/-- Computations in a row settle if each of them does. -/
theorem settles_bind {first : Evaluation α} {next : α → Evaluation β} (settled : first.Settles stack)
    (onward : ∀ value, first.firstResult stack = .ok value → (next value).Settles stack) :
    (first >>= next : Evaluation β).Settles stack :=
  (settles_of_run (run_bind_of_settles settled onward)).1

/-- The result of computations in a row that settle is the result of the second on that of the first. -/
theorem firstResult_bind {first : Evaluation α} {next : α → Evaluation β} (settled : first.Settles stack) :
    (first >>= next : Evaluation β).firstResult stack =
      first.firstResult stack >>= fun value => (next value).firstResult stack := by
  rw [firstResult, run_bind, settled, Choice.andThen]
  cases first.firstResult stack <;> rfl

/-- Computations in a row that settle to a value settle to one each. -/
theorem exists_of_firstResult_bind {first : Evaluation α} {next : α → Evaluation β} {value : β}
    (settled : first.Settles stack) (given : (first >>= next : Evaluation β).firstResult stack = .ok value) :
    ∃ earlier, first.firstResult stack = .ok earlier ∧ (next earlier).firstResult stack = .ok value := by
  rw [firstResult_bind settled] at given
  exact bind_eq_ok.mp given

/-- A value that is changed last has been another one before, whatever is picked for it. -/
theorem exists_of_firstResult_map {body : Evaluation α} {change : α → β} {value : β}
    (given : firstResult stack (body >>= fun before => pure (change before)) = .ok value) : ∃ before, value = change before := by
  have ran : (ending (body >>= fun before => pure (change before)) stack []).result = .ok value := given
  rw [ending_bind] at ran
  split at ran
  · cases ran
    exact ⟨_, rfl⟩
  · cases ran

/-- What comes after a computation that settles starts from the same stack. -/
theorem run_bind_of_ok {first : Evaluation α} {next : α → Evaluation β} {value : α} (settled : first.Settles stack)
    (given : first.firstResult stack = .ok value) :
    (first >>= next : Evaluation β).run.run stack = (next value).run.run stack := by
  rw [run_bind, settled, Choice.andThen, given]

/-- A failure that is handed on as a value settles. -/
theorem settles_attempt {body : Evaluation α} (settled : body.Settles stack) :
    (Evaluating.attempt body : Evaluation _).Settles stack ∧
      (Evaluating.attempt body : Evaluation _).firstResult stack = .ok (body.firstResult stack) := by
  refine settles_of_run ?_
  rw [run_attempt, settled]
  rfl

/-- A template that settles on its own frame settles. -/
theorem settles_withFrame (name : String) {body : Evaluation α} (settled : body.Settles (stack.push name)) :
    (Evaluating.withFrame name body : Evaluation α).Settles stack ∧
      (Evaluating.withFrame name body : Evaluation α).firstResult stack = body.firstResult (stack.push name) := by
  refine settles_of_run ?_
  rw [run_withFrame, settled]
  rfl

/-- Telling a place settles. -/
theorem settles_placeOf (site : Site) : (Evaluating.placeOf site : Evaluation Place).Settles stack :=
  -- The stack is looked at and nothing else.
  rfl

/-- Looking for a loop settles. -/
theorem settles_checkLoop (name : String) : (Evaluating.checkLoop name : Evaluation Unit).Settles stack := by
  -- The stack is looked at and nothing else.
  unfold Evaluating.checkLoop
  refine settles_bind rfl fun found _ => ?_
  split
  · exact settles_fail _
  · exact settles_pure _

/-- Computations on the elements of a list settle together if each of them does. -/
theorem settles_mapM {body : α → Evaluation β} : ∀ items : List α, (∀ item ∈ items, (body item).Settles stack) →
    (items.mapM body).Settles stack ∧
      (items.mapM body).firstResult stack = items.mapM fun item => (body item).firstResult stack
  | [], _ => ⟨rfl, rfl⟩
  | item :: rest, settled => by
    have head := settled item (by simp)
    obtain ⟨tail, results⟩ := settles_mapM rest fun other inside => settled other (by simp [inside])
    rw [List.mapM_cons, List.mapM_cons]
    constructor
    · exact settles_bind head fun value _ => settles_bind tail fun values _ => settles_pure _
    · rw [firstResult_bind head]
      congr 1
      funext value
      rw [firstResult_bind tail, results]
      rfl

/-- What a run comes to if nothing is picked. -/
theorem ending_of_settles {body : Evaluation α} (settled : body.Settles stack) (picks : List Nat) :
    body.ending stack picks = ⟨body.firstResult stack, stack, picks⟩ := by
  rw [ending, settled]
  rfl

/-- A computation that settles has one outcome. -/
theorem outcomesFrom_of_settles {body : Evaluation α} (settled : body.Settles stack) :
    body.outcomesFrom stack = [body.firstResult stack] := by
  rw [outcomesFrom, settled]
  rfl

/-- A computation that settles leaves the stack as it was. -/
theorem restores_of_settles {body : Evaluation α} (settled : body.Settles stack) : body.Restores stack := by
  intro state inside
  rw [settled, Choice.leaves, List.mem_singleton] at inside
  rw [inside]

/-- Every computation has an outcome. -/
theorem outcomesFrom_ne_nil (body : Evaluation α) : body.outcomesFrom stack ≠ [] := by
  intro none
  exact Choice.leaves_ne_nil _ (List.map_eq_nil_iff.mp none)

/-- The outcomes of computations in a row are those of the second after each outcome of the first. -/
theorem outcomesFrom_bind {first : Evaluation α} (restored : first.Restores stack) (next : α → Evaluation β) :
    (first >>= next : Evaluation β).outcomesFrom stack =
      (first.outcomesFrom stack).flatMap (outcomesAfter stack next) := by
  rw [outcomesFrom, outcomesFrom, run_bind, Choice.leaves_andThen, List.map_flatMap, List.flatMap_map]
  refine List.flatMap_congr fun state inside => ?_
  obtain ⟨result, now⟩ := state
  -- The second computation starts from the stack that the first one has restored.
  obtain rfl : now = stack := restored _ inside
  cases result <;> rfl

/-- Computations in a row leave the stack as it was if each of them does. -/
theorem restores_bind {first : Evaluation α} {next : α → Evaluation β} (restored : first.Restores stack)
    (onward : ∀ value, .ok value ∈ first.outcomesFrom stack → (next value).Restores stack) :
    (first >>= next : Evaluation β).Restores stack := by
  intro state inside
  rw [run_bind, Choice.leaves_andThen, List.mem_flatMap] at inside
  obtain ⟨⟨result, now⟩, earlier, later⟩ := inside
  obtain rfl : now = stack := restored _ earlier
  cases result with
  | error error =>
    rw [Choice.leaves, List.mem_singleton] at later
    rw [later]
  | ok value => exact onward value (List.mem_map.mpr ⟨_, earlier, rfl⟩) state later

/-- The outcomes of a failure that is handed on as a value. -/
theorem outcomesFrom_attempt (body : Evaluation α) :
    (Evaluating.attempt body : Evaluation _).outcomesFrom stack = (body.outcomesFrom stack).map .ok := by
  unfold outcomesFrom
  rw [run_attempt, Choice.leaves_andThen, List.map_flatMap, List.map_map, List.map_eq_flatMap]
  rfl

/-- A failure that is handed on as a value leaves the stack where the failure does. -/
theorem restores_attempt {body : Evaluation α} (restored : body.Restores stack) :
    (Evaluating.attempt body : Evaluation _).Restores stack := by
  intro state inside
  rw [run_attempt, Choice.leaves_andThen, List.mem_flatMap] at inside
  obtain ⟨earlier, among, later⟩ := inside
  rw [Choice.leaves, List.mem_singleton] at later
  rw [later]
  exact restored earlier among

private theorem leaves_withFrame {body : Evaluation α} {name : String} (restored : body.Restores (stack.push name)) :
    ((Evaluating.withFrame name body : Evaluation α).run.run stack).leaves =
      ((body.outcomesFrom (stack.push name)).map fun result => (result, stack)) := by
  rw [run_withFrame, Choice.leaves_andThen, outcomesFrom, List.map_map, List.map_eq_flatMap]
  refine List.flatMap_congr fun state inside => ?_
  -- The frame that is taken off is the one that was put on.
  rw [Choice.leaves, restored state inside, CallStack.pop_push]
  rfl

/-- The outcomes of a template are those of its body on its own frame. -/
theorem outcomesFrom_withFrame {name : String} {body : Evaluation α} (restored : body.Restores (stack.push name)) :
    (Evaluating.withFrame name body : Evaluation α).outcomesFrom stack = body.outcomesFrom (stack.push name) := by
  rw [outcomesFrom, leaves_withFrame restored, List.map_map]
  exact List.map_id _

/-- A template whose body leaves its frame leaves the stack as it was. -/
theorem restores_withFrame {body : Evaluation α} {name : String} (restored : body.Restores (stack.push name)) :
    (Evaluating.withFrame name body : Evaluation α).Restores stack := by
  intro state inside
  rw [leaves_withFrame restored, List.mem_map] at inside
  obtain ⟨result, _, rfl⟩ := inside
  rfl

private theorem leaves_pickOne {alternatives : List α} (some : alternatives ≠ []) :
    ((Evaluating.pickOne alternatives : Evaluation _).run.run stack).leaves =
      alternatives.map fun alternative => (.ok (.some alternative), stack) := by
  change (Choice.andThen (Choice.andThen _ _) _).leaves = _
  rw [Choice.leaves_andThen, Choice.leaves_andThen, Choice.leaves_among some, List.map_eq_flatMap]
  simp [Choice.leaves, Pure.pure, List.flatMap_assoc]

/-- Every alternative may be picked. -/
theorem outcomesFrom_pickOne {alternatives : List α} (some : alternatives ≠ []) :
    (Evaluating.pickOne alternatives : Evaluation _).outcomesFrom stack =
      alternatives.map fun alternative => .ok (.some alternative) := by
  rw [outcomesFrom, leaves_pickOne some, List.map_map]
  rfl

/-- A pick leaves the stack as it was. -/
theorem restores_pickOne {alternatives : List α} (some : alternatives ≠ []) :
    (Evaluating.pickOne alternatives : Evaluation _).Restores stack := by
  intro state inside
  rw [leaves_pickOne some, List.mem_map] at inside
  obtain ⟨alternative, _, rfl⟩ := inside
  rfl

end Evaluation

end Phrasebook
