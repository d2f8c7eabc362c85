import Phrasebook.SortedMap

/-! Runtime values are JSON data whose integers and floating-point numbers are kept apart. -/

namespace Phrasebook

/-- Data that expressions compute with and templates produce. -/
inductive Value where
  /-- The absent value. -/
  | null
  /-- A truth value. -/
  | bool (b : Bool)
  /-- An integer, which fits a signed or an unsigned 64-bit word. -/
  | int (n : Int)
  /-- A finite binary64 number. -/
  | float (x : Float)
  /-- A text. -/
  | str (s : String)
  /-- A list of values. -/
  | arr (items : List Value)
  /-- Named values, sorted by name, each name once. -/
  | obj (fields : List (String × Value))
  deriving Inhabited

/-- The named values of an object or of a layer of bindings. -/
abbrev Fields := SortedMap Value

namespace Value

/-- The smallest integer of a signed 64-bit word. -/
def minSigned : Int := -9223372036854775808

/-- The largest integer of a signed 64-bit word. -/
def maxSigned : Int := 9223372036854775807

/-- The largest integer of an unsigned 64-bit word. -/
def maxUnsigned : Int := 18446744073709551615

/-- Whether an integer fits a signed 64-bit word. -/
def fitsSigned (n : Int) : Bool :=
  -- Both ends are included.
  minSigned ≤ n && n ≤ maxSigned

/-- The value of a computed float, which is null unless the float is finite. -/
def ofFloat (x : Float) : Value :=
  -- Neither an infinity nor a NaN is a JSON number.
  if x.isFinite then .float x else .null

/-- Whether a value is the null value. -/
def isNull : Value → Bool
  -- Only null itself is absent.
  | .null => true
  | _ => false

/-- Whether a value is a text. -/
def isText : Value → Bool
  -- Texts join with plus.
  | .str _ => true
  | _ => false

/-- Whether a value counts as true in a condition: all values do but false and null. -/
def truthy : Value → Bool
  -- Zero, the empty text and empty containers are true.
  | .bool b => b
  | .null => false
  | _ => true

/-- The binary64 number nearest to a numeric value. -/
def toFloat? : Value → Option Float
  -- Integers are rounded to nearest.
  | .int n => some (Float.ofInt n)
  | .float x => some x
  | _ => none

/-- The signed 64-bit integer that a numeric value is. -/
def toSigned? : Value → Option Int
  -- Larger unsigned integers and floats have no signed form.
  | .int n => if fitsSigned n then some n else none
  | _ => none

/-- A field of an object, and nothing for any other value. -/
def field? (value : Value) (name : String) : Option Value :=
  -- Only objects have named parts.
  match value with
  | .obj fields => SortedMap.get? fields name
  | _ => none

mutual

/-- Equality that keeps integers and floats apart and compares floats as numbers. -/
def same : Value → Value → Bool
  -- Containers are compared part by part.
  | .null, .null => true
  | .bool a, .bool b => a == b
  | .int a, .int b => a == b
  | .float a, .float b => a == b
  | .str a, .str b => a == b
  | .arr a, .arr b => sameItems a b
  | .obj a, .obj b => sameFields a b
  | _, _ => false

/-- Equality of two lists of values, element by element. -/
def sameItems : List Value → List Value → Bool
  -- Lists of different lengths differ.
  | [], [] => true
  | a :: as, b :: bs => same a b && sameItems as bs
  | _, _ => false

/-- Equality of two sorted lists of fields, pair by pair. -/
def sameFields : List (String × Value) → List (String × Value) → Bool
  -- Sorting makes equal objects equal lists.
  | [], [] => true
  | (k, a) :: as, (l, b) :: bs => k == l && same a b && sameFields as bs
  | _, _ => false

end

/-- Equality in expressions: two numbers are equal when their nearest floats are. -/
def looseEq (left right : Value) : Bool :=
  -- One and one point zero are the same number, but not inside containers.
  match left.toFloat?, right.toFloat? with
  | some x, some y => x == y
  | _, _ => left.same right

/-- The order of two numbers or of two texts; other values have none. -/
def order? : Value → Value → Option Ordering
  -- Texts are ordered by code point.
  | .str a, .str b => some (if a < b then .lt else if a == b then .eq else .gt)
  | left, right =>
    match left.toFloat?, right.toFloat? with
    | some x, some y => if x < y then some .lt else if x == y then some .eq else if y < x then some .gt else none
    | _, _ => none

/-- The part that an index names: an element by position or a field by name, else null. -/
def index (target key : Value) : Value :=
  -- Negative and fractional positions name nothing.
  match target, key with
  | .arr items, .int n => if 0 ≤ n then (items[n.toNat]?).getD .null else .null
  | .obj fields, .str name => (SortedMap.get? fields name).getD .null
  | _, _ => .null

end Value

end Phrasebook
