import Phrasebook.Evaluation.Choice
import Phrasebook.Evaluation.Stack

/-! What templates are evaluated in: a monad that can fail, keeps a stack and picks among alternatives. -/

namespace Phrasebook

/-- What the evaluation of templates asks of the monad it runs in. -/
class Evaluating (m : Type → Type) extends Monad m where
  /-- Raise an error. -/
  fail {α : Type} : TemplateError → m α
  /-- Run a computation and hand its failure on as a value. -/
  attempt {α : Type} : m α → m (Except TemplateError α)
  /-- The stack as it is now. -/
  stack : m CallStack
  /-- Change the stack. -/
  change : (CallStack → CallStack) → m Unit
  /-- Pick one of several alternatives, if there are any. -/
  pickOne {α : Type} : List α → m (Option α)
  /-- Run a computation on a stack of its own. -/
  isolated {α : Type} : m α → m (Except TemplateError α)
  /-- Take notice that a file or a registered function is about to be used. -/
  outside : m Unit
  /-- Refuse a call for being nested too deeply. -/
  refuse {α : Type} : m α

namespace Evaluating

variable {m : Type → Type} [Evaluating m]

/-- Take a result, raising the error if it is one. -/
def ofExcept {α : Type} : Except TemplateError α → m α
  -- Values pass unchanged.
  | .ok value => pure value
  | .error error => fail error

/-- Raise an expression error, which gets its place later. -/
def raise {α : Type} (error : ExpressionError) : m α :=
  -- The expression that is being evaluated knows its place.
  fail (.expression none (.raised error))

/-- Run a computation inside a new frame, which is gone afterwards however the computation ends. -/
def withFrame {α : Type} (name : String) (body : m α) : m α := do
  -- The error of the computation is raised again once the frame is gone.
  change (·.push name)
  let result ← attempt body
  change (·.pop)
  ofExcept result

/-- Refuse a template that is running already. -/
def checkLoop (name : String) : m Unit := do
  -- The chain tells the running templates from the outermost on, and the repeated one.
  let stack ← stack
  if stack.names.contains name then fail (.loop (stack.names.reverse ++ [name]))

/-- The place of a site in the innermost running template. -/
def placeOf (site : Site) : m Place := do
  -- Outside any template the place has no name.
  let stack ← stack
  return ⟨stack.current?, site⟩

end Evaluating

/-- A computation that picks at random, keeps a stack and may fail; a failure does not undo the stack. -/
abbrev Evaluation (α : Type) := ExceptT TemplateError (StateT CallStack Choice) α

instance : Evaluating Evaluation where
  fail error := throw error
  attempt body := ExceptT.lift body.run
  stack := get
  change update := modify update
  -- A pick does not depend on the stack.
  pickOne alternatives :=
    ExceptT.lift (StateT.lift (Choice.among alternatives (pure none) fun alternative => pure (some alternative)))
  -- Neither stack sees the other, but the picks are drawn from one source.
  isolated body := ExceptT.lift (StateT.lift (do
    let (result, _) ← body.run.run {}
    return result))
  -- Nobody is told.
  outside := pure ()
  refuse := throw .unfinished

namespace Evaluation

/-- All results that a computation can give from an empty stack. -/
def outcomes {α : Type} (body : Evaluation α) : List (Except TemplateError α) :=
  -- Earlier picks vary slowest.
  (body.run.run {}).leaves.map (·.1)

/-- The result of a computation from a stack, when the first alternative is picked every time. -/
def firstResult {α : Type} (stack : CallStack) (body : Evaluation α) : Except TemplateError α :=
  -- What is left of the stack is of no interest.
  (body.run.run stack).first.1

/-- The result of a computation from a stack, when alternatives are picked at random from a seed. -/
def sampledResult {α : Type} (stack : CallStack) (seed : Nat) (body : Evaluation α) : Except TemplateError α :=
  -- Equal seeds give equal results.
  ((body.run.run stack).sample (mkStdGen seed)).1

end Evaluation

end Phrasebook
