import Phrasebook.Expression.Error
import Phrasebook.Reading.Rule
import Phrasebook.Decimal.Reading

/-! Expressions are read by trying the alternatives of each rule in order, from loose to tight operators. -/

namespace Phrasebook

/-- The literal that digits spell: an integer of a signed word, or else a float. -/
def numberLiteral (whole fraction rest : List Char) : Outcome Expression :=
  -- A float beyond the finite range ends all reading.
  if fraction.isEmpty && (natOfDigits whole : Int) ≤ Value.maxSigned then
    .done (.literal (.int (natOfDigits whole))) rest
  else
    let x := floatOfDigits whole fraction 0
    if x.isFinite then .done (.literal (.float x)) rest else .failed rest

/-- Read a number: digits, and perhaps a point with digits after it. -/
def numberRule : Rule Expression := fun text =>
  -- A point without digits is left alone.
  let whole := text.takeWhile isDigit
  let rest := text.dropWhile isDigit
  if whole.isEmpty then .refused text
  else match rest with
    | '.' :: after =>
      if (after.takeWhile isDigit).isEmpty then numberLiteral whole [] rest
      else numberLiteral whole (after.takeWhile isDigit) (after.dropWhile isDigit)
    | _ => numberLiteral whole [] rest

/-- The character that an escaped one stands for. -/
def unescapeChar (c : Char) : Char :=
  -- All but three stand for themselves.
  if c == 'n' then '\n' else if c == 'r' then '\r' else if c == 't' then '\t' else c

/-- The rest of a quoted text up to its quote, and what follows the quote. -/
def quotedRest (quote : Char) : List Char → Option (List Char × List Char)
  -- A backslash takes the next character with it.
  | [] => none
  | c :: rest =>
    if c == quote then some ([], rest)
    else if c == '\\' then
      match rest with
      | [] => none
      | escaped :: after =>
        (quotedRest quote after).map fun (read, after) => (unescapeChar escaped :: read, after)
    else (quotedRest quote rest).map fun (read, after) => (c :: read, after)

/-- Read a text between single or double quotes. -/
def quotedText : Rule String := fun text =>
  -- A text without its closing quote is refused.
  match text with
  | c :: rest =>
    if c == '\x27' || c == '\x22' then
      match quotedRest c rest with
      | some (read, after) => .done (String.ofList read) after
      | none => .refused []
    else .refused text
  | [] => .refused text

/-- Further segments of a dotted name. -/
def moreSegments : Nat → Rule (List String)
  -- Each turn reads a dot, so the length of the text bounds the turns.
  | 0 => Rule.succeed []
  | turns + 1 => do
    let segment ← Rule.optional (do Rule.exactly ['.']; identifier)
    match segment with
    | some segment => do
      let segments ← moreSegments turns
      return segment :: segments
    | none => return []

/-- Whether a character can stand in a part of a call name that follows a dash. -/
def continuesDashed (c : Char) : Bool :=
  -- Dots are part of such a name.
  isAlphanumeric c || c == '_' || c == '.'

/-- The longest run of parts with a dash in front of each, and what follows it. -/
def dashedParts : Nat → List Char → List Char × List Char
  -- Each turn reads a dash, so the length of the text bounds the turns.
  | turns + 1, '-' :: rest =>
    let part := rest.takeWhile continuesDashed
    if part.isEmpty then ([], '-' :: rest)
    else
      let (parts, after) := dashedParts turns (rest.dropWhile continuesDashed)
      ('-' :: part ++ parts, after)
  | _, text => ([], text)

/-- Whether the arguments of a call follow, perhaps after an exclamation mark. -/
def startsArguments : List Char → Bool
  -- Nothing may stand in between.
  | '(' :: _ => true
  | '!' :: '(' :: _ => true
  | _ => false

/-- The dashed end of a call name, which is one only if arguments follow directly. -/
def dashedTail (text : List Char) : List Char × List Char :=
  -- Otherwise the dash is a subtraction.
  let (parts, after) := dashedParts text.length text
  if startsArguments after then (parts, after) else ([], text)

/-- The expression that the first segment of a dotted name stands for. -/
def rootExpression (name : String) : Expression :=
  -- Three names are constants.
  if name == "true" then .literal (.bool true)
  else if name == "false" then .literal (.bool false)
  else if name == "null" then .literal .null
  else .variable name

/-- Read a constant, a chain of members or a call. -/
def referenceRule (nested : Rule Expression) : Rule Expression := do
  -- A name is a call exactly if arguments follow it directly.
  let first ← identifier
  let segments ← (fun text => moreSegments text.length text : Rule (List String))
  let dashed ← (fun text => let (parts, after) := dashedTail text; .done parts after : Rule (List Char))
  let rerun ← (fun text =>
    match text with
    | '!' :: '(' :: after => .done true ('(' :: after)
    | _ => .done false text : Rule Bool)
  let called ← (fun text => .done (text.head? == some '(') text : Rule Bool)
  if called then do
    let args ← Rule.enclosed '(' ')' (Rule.elements (Rule.between [',']) nested)
    let name := String.intercalate "." (first :: segments) ++ String.ofList dashed
    return .call (if rerun then name ++ "!" else name) args
  else return segments.foldl Expression.member (rootExpression first)

/-- Read an entry of an object: a quoted or plain name, a colon and a value. -/
def entryRule (nested : Rule Expression) : Rule (String × Expression) := do
  -- White space may stand around the colon.
  let name ← Rule.orElse quotedText identifier
  Rule.between [':']
  let value ← nested
  return (name, value)

/-- Read an expression without operators. -/
def primaryRule (nested : Rule Expression) : Rule Expression :=
  -- Only the last alternative keeps the place where it gave up.
  Rule.orElse numberRule <|
  Rule.orElse (do let text ← quotedText; return .literal (.str text)) <|
  Rule.orElse (do let items ← Rule.enclosed '[' ']' (Rule.elements (Rule.between [',']) nested); return .array items) <|
  Rule.orElse
    (do let entries ← Rule.enclosed '\x7b' '\x7d' (Rule.elements (Rule.between [',']) (entryRule nested)); return .object entries) <|
  Rule.orElse (Rule.enclosed '(' ')' nested) (referenceRule nested)

/-- Read a member or an index that follows a target. -/
def accessRule (nested : Rule Expression) (target : Expression) : Rule Expression :=
  -- A dot needs a name, and a bracket an expression.
  Rule.orElse
    (do Rule.exactly ['.']; let property ← identifier; return .member target property)
    (do let key ← Rule.enclosed '[' ']' nested; return .index target key)

/-- Read the members and indexes that follow a target. -/
def moreAccesses (nested : Rule Expression) : Nat → Expression → Rule Expression
  -- Each turn reads a dot or a bracket, so the length of the text bounds the turns.
  | 0, target => Rule.succeed target
  | turns + 1, target => do
    match ← Rule.optional (accessRule nested target) with
    | some target => moreAccesses nested turns target
    | none => return target

/-- Read an expression with the members and indexes after it. -/
def chainRule (nested : Rule Expression) : Rule Expression := do
  -- Accesses bind tighter than all operators.
  let target ← primaryRule nested
  fun text => moreAccesses nested text.length target text

/-- Read an expression with the unary operators in front of it. -/
def unaryRule (nested : Rule Expression) : Nat → Rule Expression
  -- Each turn reads an operator, so the length of the text bounds the turns.
  | 0 => chainRule nested
  | turns + 1 => fun text =>
    match text with
    | '!' :: rest => (do let operand ← unaryRule nested turns; return .unary .not operand : Rule Expression) (trimFront rest)
    | '-' :: rest => (do let operand ← unaryRule nested turns; return .unary .negate operand : Rule Expression) (trimFront rest)
    | _ => chainRule nested text

/-- The signs of binary operators that bind equally tight. -/
abbrev OperatorSigns := List (List Char × BinaryOp)

/-- The first operator whose sign starts a text, and the text after the sign. -/
def operatorAt? (signs : OperatorSigns) (text : List Char) : Option (BinaryOp × List Char) :=
  -- Longer signs stand before their beginnings.
  (signs.find? fun sign => sign.1.isPrefixOf text).map fun sign => (sign.2, text.drop sign.1.length)

/-- Read the operators and operands that follow a left operand. -/
def moreOperands (operand : Rule Expression) (signs : OperatorSigns) : Nat → Expression → Rule Expression
  -- Each turn reads an operator, so the length of the text bounds the turns.
  | 0, left => Rule.succeed left
  | turns + 1, left => fun text =>
    match operatorAt? signs (trimFront text) with
    | none => .done left text
    | some (op, rest) =>
      match operand (trimFront rest) with
      | .done right rest => moreOperands operand signs turns (.binary op left right) rest
      | outcome => outcome

/-- Read operands with operators of one level between them, which associate to the left. -/
def levelRule (signs : OperatorSigns) (operand : Rule Expression) : Rule Expression := do
  -- A missing operand after an operator is a refusal of the whole.
  let left ← operand
  fun text => moreOperands operand signs text.length left text

/-- The operator levels, from the tightest to the loosest. -/
def operatorLevels : List OperatorSigns := [
  [(['*'], .multiply), (['/'], .divide), (['%'], .modulo)],
  [(['+'], .add), (['-'], .subtract)],
  [(['<', '='], .lessEqual), (['>', '='], .greaterEqual), (['<'], .less), (['>'], .greater)],
  [(['=', '='], .equal), (['!', '='], .notEqual)],
  [(['&', '&'], .and)],
  [(['|', '|'], .or)]]

/-- Read an expression whose brackets nest at most as deeply as the bound says. -/
def expressionRule : Nat → Rule Expression
  -- Every level of brackets reads at least one character.
  | 0 => fun text => .refused text
  | depth + 1 =>
    operatorLevels.foldl (fun operand signs => levelRule signs operand)
      fun text => unaryRule (expressionRule depth) text.length text

/-- The column at which the rest of a text starts. -/
def columnOf (source rest : List Char) : Nat :=
  -- Columns count characters from one.
  source.length - rest.length + 1

/-- The expression that a whole text spells; white space around it is ignored. -/
def Expression.parse (source : String) : Except ExpressionError Expression :=
  -- The length of the text bounds the nesting of its brackets.
  let chars := source.toList
  match expressionRule (chars.length + 1) (trimFront chars) with
  | .done expression rest =>
    match trimFront rest with
    | [] => .ok expression
    | c :: after => .error (.malformed (columnOf chars (c :: after)) (.leftOver c))
  | .refused rest =>
    .error (.malformed (columnOf chars rest) (if isBlankLine chars then .empty else .refused))
  | .failed rest => .error (.malformed (columnOf chars rest) .numberTooLarge)

end Phrasebook
