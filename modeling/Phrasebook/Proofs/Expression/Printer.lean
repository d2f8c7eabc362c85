import Phrasebook.Decimal.Shortest
import Phrasebook.Proofs.Expression.Shape

/-! Expressions are written as text, with parentheses only where operators would bind too loosely. -/

namespace Phrasebook

/-- How expressions are written where there is a choice. -/
structure PrintStyle where
  /-- The quote on both sides of a text. -/
  quote : String → Char
  /-- What stands between a comma and the next item. -/
  comma : List Char
  /-- What stands between a colon and the value of an entry. -/
  colon : List Char
  /-- Quotes are single or double. -/
  isQuote : ∀ text, quote text = '\x27' ∨ quote text = '\x22'
  /-- Only white space follows a comma. -/
  blankComma : ∀ c ∈ comma, isBlank c = true
  /-- Only white space follows a colon. -/
  blankColon : ∀ c ∈ colon, isBlank c = true

/-- The sign of a unary operator. -/
def UnaryOp.sign : UnaryOp → Char
  -- Both stand in front of the operand.
  | .not => '!'
  | .negate => '-'

/-- The sign of a binary operator. -/
def BinaryOp.sign : BinaryOp → List Char
  -- Signs have one or two characters.
  | .or => ['|', '|']
  | .and => ['&', '&']
  | .equal => ['=', '=']
  | .notEqual => ['!', '=']
  | .less => ['<']
  | .lessEqual => ['<', '=']
  | .greater => ['>']
  | .greaterEqual => ['>', '=']
  | .add => ['+']
  | .subtract => ['-']
  | .multiply => ['*']
  | .divide => ['/']
  | .modulo => ['%']

/-- How loosely a binary operator binds. -/
def BinaryOp.looseness : BinaryOp → Nat
  -- Accesses are at zero, and unary operators at one.
  | .multiply | .divide | .modulo => 2
  | .add | .subtract => 3
  | .less | .lessEqual | .greater | .greaterEqual => 4
  | .equal | .notEqual => 5
  | .and => 6
  | .or => 7

/-- Every binary operator binds more loosely than the unary ones. -/
theorem BinaryOp.two_le_looseness (op : BinaryOp) : 2 ≤ op.looseness := by
  cases op <;> decide

/-- No binary operator binds more loosely than the loosest one. -/
theorem BinaryOp.looseness_le (op : BinaryOp) : op.looseness ≤ 7 := by
  cases op <;> decide

/-- The characters of a text between quotes. -/
def escaped (quote : Char) (text : List Char) : List Char :=
  -- The quote and the backslash take a backslash in front.
  text.flatMap fun c => if c = quote ∨ c = '\\' then ['\\', c] else [c]

/-- A text is put in parentheses if it binds more loosely than its place allows. -/
def parenthesized (limit looseness : Nat) (text : List Char) : List Char :=
  -- Elsewhere parentheses would say nothing.
  if looseness ≤ limit then text else '(' :: (text ++ [')'])

namespace PrintStyle

/-- A text between quotes. -/
def quoted (style : PrintStyle) (text : String) : List Char :=
  -- The quote at the end is the one at the start.
  style.quote text :: (escaped (style.quote text) text.toList ++ [style.quote text])

/-- A constant, unless it is one that has no spelling of its own. -/
def constant (style : PrintStyle) : Value → List Char
  -- Numbers below zero, floats, lists and objects are not written as constants.
  | .null => "null".toList
  | .bool true => "true".toList
  | .bool false => "false".toList
  | .int n => decimalDigits n.toNat
  | .str text => style.quoted text
  | _ => []

/-- Items with commas between them. -/
def separated (style : PrintStyle) : List (List Char) → List Char
  -- No comma follows the last item.
  | [] => []
  | item :: rest => item ++ rest.flatMap fun next => ',' :: (style.comma ++ next)

end PrintStyle

namespace Expression

/-- How loosely the operator of an expression binds. -/
def looseness : Expression → Nat
  -- Everything else binds tightest.
  | .unary _ _ => 1
  | .binary op _ _ => op.looseness
  | _ => 0

mutual

/-- The text of an expression. -/
def print (style : PrintStyle) : Expression → List Char
  -- Operators associate to the left, so only a right operand must bind tighter than its operator.
  | .literal value => style.constant value
  | .variable name => name.toList
  | .member target property => parenthesized 0 target.looseness (print style target) ++ '.' :: property.toList
  | .index target key => parenthesized 0 target.looseness (print style target) ++ '[' :: (print style key ++ [']'])
  | .call name args => name.toList ++ '(' :: (style.separated (printItems style args) ++ [')'])
  | .array items => '[' :: (style.separated (printItems style items) ++ [']'])
  | .object entries => '\x7b' :: (style.separated (printEntries style entries) ++ ['\x7d'])
  | .unary op operand => op.sign :: parenthesized 1 operand.looseness (print style operand)
  | .binary op left right =>
    parenthesized op.looseness left.looseness (print style left) ++
      ' ' :: (op.sign ++ ' ' :: parenthesized (op.looseness - 1) right.looseness (print style right))

/-- The texts of several expressions. -/
def printItems (style : PrintStyle) : List Expression → List (List Char)
  -- Each has a text of its own.
  | [] => []
  | item :: rest => print style item :: printItems style rest

/-- The texts of the entries of an object. -/
def printEntries (style : PrintStyle) : List (String × Expression) → List (List Char)
  -- Names are quoted, whether or not they need to be.
  | [] => []
  | (name, value) :: rest => (style.quoted name ++ ':' :: (style.colon ++ print style value)) :: printEntries style rest

end

/-- The texts of several expressions are those of each. -/
theorem printItems_eq (style : PrintStyle) (items : List Expression) : printItems style items = items.map (print style) := by
  induction items with
  | nil => rfl
  | cons item rest later => rw [printItems, later, List.map_cons]

/-- The text of an entry of an object. -/
def printEntry (style : PrintStyle) (entry : String × Expression) : List Char :=
  -- White space may follow the colon.
  style.quoted entry.1 ++ ':' :: (style.colon ++ print style entry.2)

/-- The texts of the entries of an object are those of each. -/
theorem printEntries_eq (style : PrintStyle) (entries : List (String × Expression)) :
    printEntries style entries = entries.map (printEntry style) := by
  induction entries with
  | nil => rfl
  | cons entry rest later => rw [printEntries, later, List.map_cons, printEntry]

end Expression

end Phrasebook
