import Phrasebook.Evaluation.Error

/-! Evaluation keeps a stack of running templates, each with the results of the calls it has made. -/

namespace Phrasebook

/-- What tells apart the calls whose results are kept: the template, and the local layer as text. -/
structure MemoKey where
  /-- The template that is called. -/
  name : String
  /-- The local layer of its scope. -/
  locals : Option String
  deriving DecidableEq, Repr, Inhabited

/-- The results of earlier calls. -/
abbrev Memo := List (MemoKey × Value)

/-- A running template. -/
structure Frame where
  /-- Its name. -/
  name : String
  /-- The results of the calls it has made. -/
  memo : Memo := []
  deriving Inhabited

/-- The running templates, the innermost first. -/
structure CallStack where
  /-- The frames. -/
  frames : List Frame := []
  /-- Whether results are kept at all. -/
  memoized : Bool := true
  deriving Inhabited

namespace CallStack

/-- The names of the running templates, the innermost first. -/
def names (stack : CallStack) : List String :=
  -- Every frame has a name.
  stack.frames.map (·.name)

/-- The name of the innermost running template. -/
def current? (stack : CallStack) : Option String :=
  -- Nothing runs at first.
  stack.frames.head?.map (·.name)

/-- The result kept for a call from the innermost running template. -/
def cached? (stack : CallStack) (key : MemoKey) : Option Value :=
  -- Outside any template nothing is kept.
  if stack.memoized then
    match stack.frames with
    | frame :: _ => (frame.memo.find? (·.1 == key)).map (·.2)
    | [] => none
  else none

/-- Keep the result of a call from the innermost running template. -/
def store (stack : CallStack) (key : MemoKey) (value : Value) : CallStack :=
  -- A result that is kept already stays behind the new one and is not found again.
  if stack.memoized then
    match stack.frames with
    | frame :: rest => { stack with frames := { frame with memo := (key, value) :: frame.memo } :: rest }
    | [] => stack
  else stack

/-- Add a frame for a template that starts to run. -/
def push (stack : CallStack) (name : String) : CallStack :=
  -- It has made no calls yet.
  { stack with frames := ⟨name, []⟩ :: stack.frames }

/-- Remove the frame of a template that has ended. -/
def pop (stack : CallStack) : CallStack :=
  -- The results of its calls go with it.
  { stack with frames := stack.frames.tail }

/-- A template that starts to run is the innermost one. -/
@[simp] theorem names_push (stack : CallStack) (name : String) : (stack.push name).names = name :: stack.names :=
  -- Its frame is put on top.
  rfl

/-- Ending a template that has just started gives the stack back. -/
@[simp] theorem pop_push (stack : CallStack) (name : String) : (stack.push name).pop = stack :=
  -- Nothing but the top frame has changed.
  rfl

/-- Keeping a result changes no names. -/
@[simp] theorem names_store (stack : CallStack) (key : MemoKey) (value : Value) :
    (stack.store key value).names = stack.names := by
  -- Only the memo of the top frame grows.
  unfold store
  split
  · split <;> simp_all [names]
  · rfl

/-- A stack that keeps no results keeps none. -/
theorem store_of_unmemoized {stack : CallStack} (fresh : stack.memoized = false) (key : MemoKey) (value : Value) :
    stack.store key value = stack := by
  -- Nothing is written at all.
  simp [store, fresh]

/-- A result that is kept is found again from the same running template. -/
theorem cached?_store (stack : CallStack) (key : MemoKey) (value : Value)
    (kept : stack.memoized = true) (running : stack.frames ≠ []) :
    (stack.store key value).cached? key = some value := by
  -- It is the first one looked at.
  obtain ⟨frames, memoized⟩ := stack
  cases frames with
  | nil => exact absurd rfl running
  | cons frame rest => simp_all [store, cached?]

end CallStack

end Phrasebook
