import Phrasebook.Value.Basic

/-! Expressions are trees of literals, references, calls and operators. -/

namespace Phrasebook

/-- An operator with one operand. -/
inductive UnaryOp where
  /-- The opposite truth value. -/
  | not
  /-- The opposite number. -/
  | negate
  deriving DecidableEq, Repr, Inhabited

/-- An operator with two operands. -/
inductive BinaryOp where
  /-- True if either operand is. -/
  | or
  /-- True if both operands are. -/
  | and
  /-- Equality. -/
  | equal
  /-- Inequality. -/
  | notEqual
  /-- Strictly smaller. -/
  | less
  /-- Smaller or equal. -/
  | lessEqual
  /-- Strictly greater. -/
  | greater
  /-- Greater or equal. -/
  | greaterEqual
  /-- Sum of numbers, or texts joined. -/
  | add
  /-- Difference of numbers. -/
  | subtract
  /-- Product of numbers. -/
  | multiply
  /-- Quotient of numbers. -/
  | divide
  /-- Remainder of numbers. -/
  | modulo
  deriving DecidableEq, Repr, Inhabited

/-- The name of a unary operator. -/
def UnaryOp.name : UnaryOp → String
  -- Names are words, not signs.
  | .not => "Not"
  | .negate => "Negate"

/-- The name of a binary operator, as messages spell it. -/
def BinaryOp.name : BinaryOp → String
  -- Names are words, not signs.
  | .or => "Or"
  | .and => "And"
  | .equal => "Equal"
  | .notEqual => "NotEqual"
  | .less => "Less"
  | .lessEqual => "LessEqual"
  | .greater => "Greater"
  | .greaterEqual => "GreaterEqual"
  | .add => "Add"
  | .subtract => "Subtract"
  | .multiply => "Multiply"
  | .divide => "Divide"
  | .modulo => "Modulo"

/-- An expression as it stands inside a template text. -/
inductive Expression where
  /-- A constant. -/
  | literal (value : Value)
  /-- A name that the scope binds. -/
  | variable (name : String)
  /-- A named part of a value. -/
  | member (target : Expression) (property : String)
  /-- A part of a value whose name or position is computed. -/
  | index (target key : Expression)
  /-- A call; dots, dashes and a final exclamation mark belong to the name. -/
  | call (name : String) (args : List Expression)
  /-- A list of computed values. -/
  | array (items : List Expression)
  /-- An object of computed values, in source order. -/
  | object (entries : List (String × Expression))
  /-- An operator applied to one operand. -/
  | unary (op : UnaryOp) (operand : Expression)
  /-- An operator applied to two operands. -/
  | binary (op : BinaryOp) (left right : Expression)
  deriving Inhabited

namespace Expression

/-- The dotted path of a chain of members that starts at a variable. -/
def staticPath? : Expression → Option String
  -- Calls and computed positions have no path.
  | .variable name => some name
  | .member target property => (staticPath? target).map fun path => path ++ "." ++ property
  | _ => none

mutual

/-- An expression and all its parts, every part after the whole it belongs to. -/
def nodes : Expression → List Expression
  -- Parts come in source order.
  | .literal value => [.literal value]
  | .variable name => [.variable name]
  | .member target property => .member target property :: nodes target
  | .index target key => .index target key :: (nodes target ++ nodes key)
  | .call name args => .call name args :: nodesOfItems args
  | .array items => .array items :: nodesOfItems items
  | .object entries => .object entries :: nodesOfEntries entries
  | .unary op operand => .unary op operand :: nodes operand
  | .binary op left right => .binary op left right :: (nodes left ++ nodes right)

/-- The parts of a list of expressions. -/
def nodesOfItems : List Expression → List Expression
  -- Items come one after the other.
  | [] => []
  | item :: rest => nodes item ++ nodesOfItems rest

/-- The parts of the values of object entries. -/
def nodesOfEntries : List (String × Expression) → List Expression
  -- Entries come one after the other.
  | [] => []
  | (_, value) :: rest => nodes value ++ nodesOfEntries rest

end

end Expression

end Phrasebook
