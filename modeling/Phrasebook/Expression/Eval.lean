import Phrasebook.Expression.Builtin
import Phrasebook.Expression.Remainder
import Phrasebook.Expression.Scope

/-! Expressions are evaluated in any monad whose host supplies the functions beyond the built-in ones. -/

namespace Phrasebook

/-- A function that a host supplies. -/
abbrev HostFunction (m : Type → Type) := List Value → Scope → m Value

/-- What the surroundings of an expression supply. -/
structure Host (m : Type → Type) where
  /-- Functions that come before all others. -/
  own : String → Option (HostFunction m)
  /-- Registered functions, which come before the built-in ones. -/
  registered : String → Option (HostFunction m)
  /-- How an expression error is raised. -/
  fail : {α : Type} → ExpressionError → m α

/-- Arithmetic on two integers, exact or refused. -/
def integerArithmetic (op : BinaryOp) (left right : Int) : FunctionResult :=
  -- Quotients are rounded toward zero, and a remainder has the sign of the dividend.
  let refused : FunctionResult := .error (.mismatch (.outOfRange left op right))
  let checked (n : Int) : FunctionResult := if Value.fitsSigned n then .ok (.int n) else refused
  let overflows := right == 0 || (left == Value.minSigned && right == -1)
  match op with
  | .add => checked (left + right)
  | .subtract => checked (left - right)
  | .multiply => checked (left * right)
  | .divide => if overflows then refused else checked (left.tdiv right)
  | _ => if overflows then refused else checked (left.tmod right)

/-- Arithmetic on two floats; a result that is not finite is null. -/
def floatArithmetic (op : BinaryOp) (left right : Float) : FunctionResult :=
  -- Division by either zero is refused.
  match op with
  | .add => .ok (.ofFloat (left + right))
  | .subtract => .ok (.ofFloat (left - right))
  | .multiply => .ok (.ofFloat (left * right))
  | .divide =>
    if right == 0.0 then .error (.mismatch .divisionByZero) else .ok (.ofFloat (left / right))
  | _ =>
    if right == 0.0 then .error (.mismatch .divisionByZero)
    else .ok (.ofFloat (floatRemainder left right))

/-- Arithmetic on two values: on integers if both fit a signed word, else on floats. -/
def arithmetic (op : BinaryOp) (left right : Value) : FunctionResult :=
  -- Only numbers take part.
  match left.toSigned?, right.toSigned? with
  | some l, some r => integerArithmetic op l r
  | _, _ =>
    match left.toFloat?, right.toFloat? with
    | some l, some r => floatArithmetic op l r
    | _, _ => .error (.mismatch (.notNumbers op left right))

/-- Whether an order satisfies a comparison operator. -/
def comparison (op : BinaryOp) (order : Ordering) : Bool :=
  -- The operators that are no comparison never get here.
  match op with
  | .less => order == .lt
  | .lessEqual => order != .gt
  | .greater => order == .gt
  | _ => order != .lt

/-- The value of a binary operator on evaluated operands. -/
def applyBinary (op : BinaryOp) (left right : Value) : FunctionResult :=
  -- Plus joins texts if either operand is one.
  match op with
  | .equal => .ok (.bool (left.looseEq right))
  | .notEqual => .ok (.bool !(left.looseEq right))
  | .less | .lessEqual | .greater | .greaterEqual =>
    match left.order? right with
    | some order => .ok (.bool (comparison op order))
    | none => .error (.mismatch (.notOrdered left right))
  | .add =>
    if left.isText || right.isText then .ok (.str (left.joinText ++ right.joinText))
    else arithmetic op left right
  | .and => .ok (.bool (left.truthy && right.truthy))
  | .or => .ok (.bool (left.truthy || right.truthy))
  | .subtract | .multiply | .divide | .modulo => arithmetic op left right

/-- The value of a unary operator on an evaluated operand. -/
def applyUnary (op : UnaryOp) (value : Value) : FunctionResult :=
  -- An integer whose opposite does not fit becomes a float.
  match op with
  | .not => .ok (.bool !value.truthy)
  | .negate =>
    match value with
    | .int n =>
      if Value.fitsSigned n && Value.fitsSigned (-n) then .ok (.int (-n))
      else .ok (.ofFloat (-(Float.ofInt n)))
    | .float x => .ok (.ofFloat (-x))
    | value => .error (.mismatch (.notNegatable value))

/-- Raise the error of a function result in the monad of a host. -/
def Host.lift {m : Type → Type} [Monad m] (host : Host m) : FunctionResult → m Value
  -- Values pass unchanged.
  | .ok value => pure value
  | .error error => host.fail error

/-- Call a function that is not the lazy conditional: own, registered or built in. -/
def Host.call {m : Type → Type} [Monad m] (host : Host m) (name : String) (args : List Value)
    (scope : Scope) : m Value :=
  -- The first of the three places that knows the name decides.
  match host.own name with
  | some function => function args scope
  | none =>
    match host.registered name with
    | some function => function args scope
    | none =>
      match builtin? name with
      | some function => host.lift (function args)
      | none => host.fail (.unknownFunction name)

namespace Expression

mutual

/-- The value of an expression; absent variables and parts are null. -/
def eval {m : Type → Type} [Monad m] (host : Host m) (scope : Scope) : Expression → m Value
  -- Operands are evaluated from left to right, and the logical operators stop early.
  | .literal value => pure value
  | .variable name => pure ((scope.get? name).getD .null)
  | .member target property => do
    let target ← eval host scope target
    return (target.field? property).getD .null
  | .index target key => do
    let target ← eval host scope target
    let key ← eval host scope key
    return target.index key
  | .array items => do
    let values ← evalItems host scope items
    return .arr values
  | .object entries => do
    let pairs ← evalEntries host scope entries
    return .obj (SortedMap.ofList pairs)
  | .unary op operand => do
    let value ← eval host scope operand
    host.lift (applyUnary op value)
  | .binary op left right => do
    let first ← eval host scope left
    match op, first.truthy with
    | .and, false => return .bool false
    | .or, true => return .bool true
    | _, _ => do
      let second ← eval host scope right
      host.lift (applyBinary op first second)
  | .call name args =>
    if name == "if" && (host.own name).isNone then
      match args with
      | [condition, positive, negative] => do
        let value ← eval host scope condition
        if value.truthy then eval host scope positive else eval host scope negative
      | _ => host.fail (.arity "if" "3" args.length)
    else do
      let values ← evalItems host scope args
      host.call name values scope

/-- The values of several expressions, from left to right. -/
def evalItems {m : Type → Type} [Monad m] (host : Host m) (scope : Scope) :
    List Expression → m (List Value)
  -- The first failure stops the others.
  | [] => return []
  | item :: rest => do
    let value ← eval host scope item
    let values ← evalItems host scope rest
    return value :: values

/-- The named values of object entries, from left to right. -/
def evalEntries {m : Type → Type} [Monad m] (host : Host m) (scope : Scope) :
    List (String × Expression) → m (List (String × Value))
  -- The first failure stops the others.
  | [] => return []
  | (name, item) :: rest => do
    let value ← eval host scope item
    let values ← evalEntries host scope rest
    return (name, value) :: values

end

end Expression

end Phrasebook
