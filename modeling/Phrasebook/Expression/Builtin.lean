import Phrasebook.Expression.Error
import Phrasebook.Unicode.Casing
import Phrasebook.Unicode.Blank
import Phrasebook.Decimal.Reading

/-! The functions that every expression can call, over evaluated arguments. -/

namespace Phrasebook

/-- What a function over values gives. -/
abbrev FunctionResult := Except ExpressionError Value

/-- Copies of a text between which another text stands. -/
def joinTexts (separator : String) (texts : List String) : String :=
  -- No separator follows the last text.
  String.intercalate separator texts

/-- Replace every occurrence of a pattern, from left to right; a count tells how much to skip. -/
def replaceFrom (pattern replacement : List Char) : Nat → List Char → List Char
  -- Occurrences do not overlap.
  | _, [] => []
  | skip + 1, _ :: rest => replaceFrom pattern replacement skip rest
  | 0, c :: rest =>
    if pattern.isPrefixOf (c :: rest) then
      replacement ++ replaceFrom pattern replacement (pattern.length - 1) rest
    else c :: replaceFrom pattern replacement 0 rest

/-- Replace every occurrence of a pattern in a text. -/
def replaceText (text pattern replacement : String) : String :=
  -- The empty pattern occurs in front of every character and at the end.
  let source := text.toList
  let copy := replacement.toList
  if pattern.isEmpty then String.ofList (copy ++ source.flatMap fun c => c :: copy)
  else String.ofList (replaceFrom pattern.toList copy 0 source)

/-- Whether a pattern occurs in a text. -/
def containsText (pattern : List Char) : List Char → Bool
  -- The empty pattern occurs everywhere.
  | [] => pattern.isEmpty
  | c :: rest => pattern.isPrefixOf (c :: rest) || containsText pattern rest

/-- The number of characters or parts of a value. -/
def lengthOf : Value → FunctionResult
  -- Null has no parts.
  | .str s => .ok (.int s.length)
  | .arr items => .ok (.int items.length)
  | .obj fields => .ok (.int fields.length)
  | .null => .ok (.int 0)
  | value => .error (.mismatch (.noLength value))

/-- The texts of a list joined, with another separator before the last if one is given. -/
def joinOf (list separator : Value) (final : Option Value) : FunctionResult :=
  -- The last separator counts only between two or more elements.
  match list with
  | .arr items =>
    let texts := items.map Value.text
    match final, texts.getLast?, texts.dropLast with
    | some final, some last, head :: rest =>
      .ok (.str (joinTexts separator.text (head :: rest) ++ final.text ++ last))
    | _, _, _ => .ok (.str (joinTexts separator.text texts))
  | value => .error (.mismatch (.notList value))

/-- Whether a value holds another as a piece of text, an element or a name. -/
def containsOf (value part : Value) : Bool :=
  -- Numbers, truth values and null hold nothing.
  match value with
  | .str s => containsText part.text.toList s.toList
  | .arr items => items.any (·.looseEq part)
  | .obj fields => SortedMap.has fields part.text
  | _ => false

/-- The integer that a value stands for, fractions cut off and large floats clamped. -/
def integerOf (value : Value) : FunctionResult :=
  -- A text must spell an integer of a signed word.
  let read : Option Int := match value with
    | .int n => some (if Value.fitsSigned n then n else (Float.ofInt n).toInt64.toInt)
    | .float x => some x.toInt64.toInt
    | .str s => (readInt? (trimChars s.toList)).bind fun n => if Value.fitsSigned n then some n else none
    | _ => none
  match read with
  | some n => .ok (.int n)
  | none => .error (.mismatch (.notInteger value))

/-- The float that a value stands for. -/
def floatOf (value : Value) : FunctionResult :=
  -- A text must spell a decimal, and one that is not finite gives null.
  let read := match value with
    | .str s => readFloat? (trimChars s.toList)
    | value => value.toFloat?
  match read with
  | some x => .ok (Value.ofFloat x)
  | none => .error (.mismatch (.notNumber value))

/-- The first element of a list or character of a text, else null. -/
def firstOf : Value → Value
  -- Empty containers have no first element.
  | .arr items => (items.head?).getD .null
  | .str s => (s.toList.head?.map fun c => Value.str (String.singleton c)).getD .null
  | _ => .null

/-- The last element of a list or character of a text, else null. -/
def lastOf : Value → Value
  -- Empty containers have no last element.
  | .arr items => (items.getLast?).getD .null
  | .str s => (s.toList.getLast?.map fun c => Value.str (String.singleton c)).getD .null
  | _ => .null

/-- A function of exactly one argument. -/
def withOne (name : String) (function : Value → FunctionResult) (args : List Value) : FunctionResult :=
  -- Any other number of arguments is refused.
  match args with
  | [value] => function value
  | _ => .error (.arity name "1" args.length)

/-- A function of exactly two arguments. -/
def withTwo (name : String) (function : Value → Value → FunctionResult) (args : List Value) :
    FunctionResult :=
  -- Any other number of arguments is refused.
  match args with
  | [first, second] => function first second
  | _ => .error (.arity name "2" args.length)

/-- Look up a built-in function by its name. -/
def builtin? (name : String) : Option (List Value → FunctionResult) :=
  -- The lazy conditional is no function over values and is not among them.
  match name with
  | "concat" => some fun args => .ok (.str (String.join (args.map Value.joinText)))
  | "length" | "count" => some (withOne "length" lengthOf)
  | "join" => some fun args =>
    match args with
    | [list, separator] => joinOf list separator none
    | [list, separator, final] => joinOf list separator (some final)
    | _ => .error (.arity "join" "2 or 3" args.length)
  | "toUpper" => some (withOne "toUpper" fun value => .ok (.str (upperText value.text)))
  | "toLower" => some (withOne "toLower" fun value => .ok (.str (lowerText value.text)))
  | "trim" => some (withOne "trim" fun value => .ok (.str (trimText value.text)))
  | "replace" => some fun args =>
    match args with
    | [value, pattern, replacement] =>
      .ok (.str (replaceText value.text pattern.text replacement.text))
    | _ => .error (.arity "replace" "3" args.length)
  | "contains" => some (withTwo "contains" fun value part => .ok (.bool (containsOf value part)))
  | "exists" => some (withOne "exists" fun value => .ok (.bool !value.isNull))
  | "string" => some (withOne "string" fun value => .ok (.str value.text))
  | "int" => some (withOne "int" integerOf)
  | "float" => some (withOne "float" floatOf)
  | "first" => some (withOne "first" fun value => .ok (firstOf value))
  | "last" => some (withOne "last" fun value => .ok (lastOf value))
  | "createArray" => some fun args => .ok (.arr args)
  | _ => none

/-- Whether a name is built in, the lazy conditional included. -/
def isBuiltin (name : String) : Bool :=
  -- The conditional is evaluated by the evaluator itself.
  name == "if" || (builtin? name).isSome

end Phrasebook
