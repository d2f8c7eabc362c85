import Phrasebook.Expression.Basic
import Phrasebook.Value.Text

/-! What can go wrong when an expression is read or evaluated. -/

namespace Phrasebook

/-- Why a text is no expression. -/
inductive ReadFault where
  /-- The text is blank. -/
  | empty
  /-- An expression ended before the text did, in front of this character. -/
  | leftOver (c : Char)
  /-- No expression could be read. -/
  | refused
  /-- A number has no finite value. -/
  | numberTooLarge
  deriving DecidableEq, Repr

/-- The wording of a reading fault. -/
def ReadFault.message : ReadFault → String
  -- The two failures differ in whether other readings were tried.
  | .empty => "empty expression"
  | .leftOver c => "unexpected character: '" ++ String.singleton c ++ "'"
  | .refused => "parse error: Parsing Error: ContextError \x7b context: [], cause: None \x7d"
  | .numberTooLarge => "parse error: Parsing Failure: ContextError \x7b context: [], cause: None \x7d"

/-- Why an operation does not apply to its values. -/
inductive TypeFault where
  /-- Only numbers have an opposite. -/
  | notNegatable (value : Value)
  /-- Only two numbers or two texts are ordered. -/
  | notOrdered (left right : Value)
  /-- Arithmetic needs two numbers. -/
  | notNumbers (op : BinaryOp) (left right : Value)
  /-- An integer result is undefined or does not fit a signed word. -/
  | outOfRange (left : Int) (op : BinaryOp) (right : Int)
  /-- A float is divided by zero. -/
  | divisionByZero
  /-- Only texts and containers have a length. -/
  | noLength (value : Value)
  /-- Only lists can be joined. -/
  | notList (value : Value)
  /-- A value does not stand for an integer. -/
  | notInteger (value : Value)
  /-- A value does not stand for a number. -/
  | notNumber (value : Value)
  /-- A template is called by something that is no name. -/
  | notTemplateName (value : Value)

/-- The wording of a type fault. -/
def TypeFault.message : TypeFault → String
  -- Values are quoted as JSON, texts included.
  | .notNegatable value => "cannot negate " ++ value.compact
  | .notOrdered left right => "cannot compare " ++ left.compact ++ " and " ++ right.compact
  | .notNumbers op left right =>
    "operator " ++ op.name ++ " requires numbers, got " ++ left.compact ++ " and " ++ right.compact
  | .outOfRange left op right =>
    "arithmetic overflow or division by zero: " ++ toString left ++ " " ++ op.name ++ " " ++
      toString right
  | .divisionByZero => "division by zero"
  | .noLength value => "length: " ++ value.compact ++ " has no length"
  | .notList value => "join: " ++ value.compact ++ " is not an array"
  | .notInteger value => "int: cannot convert " ++ value.compact ++ " to an integer"
  | .notNumber value => "float: cannot convert " ++ value.compact ++ " to a number"
  | .notTemplateName value => "template() expects a template name, got " ++ value.compact

/-- An error raised while an expression is read or evaluated. -/
inductive ExpressionError where
  /-- The text is no expression; columns count characters from one. -/
  | malformed (column : Nat) (fault : ReadFault)
  /-- No function has this name. -/
  | unknownFunction (name : String)
  /-- A function does not take this many arguments. -/
  | arity (name expected : String) (got : Nat)
  /-- An operation does not apply to its values. -/
  | mismatch (fault : TypeFault)
  /-- A function failed for a reason of its own. -/
  | function (name message : String)

/-- The wording of an expression error. -/
def ExpressionError.message : ExpressionError → String
  -- Only reading errors have a place.
  | .malformed column fault => "syntax error at column " ++ toString column ++ ": " ++ fault.message
  | .unknownFunction name => "unknown function '" ++ name ++ "'"
  | .arity name expected got =>
    "function '" ++ name ++ "' expects " ++ expected ++ " arguments, got " ++ toString got
  | .mismatch fault => fault.message
  | .function name message => name ++ ": " ++ message

end Phrasebook
