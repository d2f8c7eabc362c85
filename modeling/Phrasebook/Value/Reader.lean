import Phrasebook.Value.Basic
import Phrasebook.Decimal.Reading

/-! JSON text is read into values, with a bound on how deeply containers nest. -/

namespace Phrasebook

/-- Skip the four blank characters of JSON. -/
def skipJsonBlanks (text : List Char) : List Char :=
  -- Other white space is no JSON.
  text.dropWhile fun c => c == ' ' || c == '\n' || c == '\r' || c == '\t'

/-- The value of a hexadecimal digit. -/
def hexValue? (c : Char) : Option Nat :=
  -- Both cases of the letters are read.
  if '0' ≤ c && c ≤ '9' then some (c.toNat - 48)
  else if 'a' ≤ c && c ≤ 'f' then some (c.toNat - 87)
  else if 'A' ≤ c && c ≤ 'F' then some (c.toNat - 55)
  else none

/-- Four hexadecimal digits. -/
def jsonHex4 : List Char → Option (Nat × List Char)
  -- The digits come most significant first.
  | a :: b :: c :: d :: rest => do
    let a ← hexValue? a
    let b ← hexValue? b
    let c ← hexValue? c
    let d ← hexValue? d
    return (((a * 16 + b) * 16 + c) * 16 + d, rest)
  | _ => none

/-- One escaped character, after its backslash. -/
def jsonEscape : List Char → Option (Char × List Char)
  -- Characters beyond sixteen bits are written as a pair of surrogates.
  | '\x22' :: rest => some ('\x22', rest)
  | '\\' :: rest => some ('\\', rest)
  | '/' :: rest => some ('/', rest)
  | 'b' :: rest => some ('\x08', rest)
  | 'f' :: rest => some ('\x0c', rest)
  | 'n' :: rest => some ('\n', rest)
  | 'r' :: rest => some ('\r', rest)
  | 't' :: rest => some ('\t', rest)
  | 'u' :: rest => do
    let (unit, rest) ← jsonHex4 rest
    if 0xDC00 ≤ unit && unit ≤ 0xDFFF then none
    else if 0xD800 ≤ unit && unit ≤ 0xDBFF then
      match rest with
      | '\\' :: 'u' :: rest => do
        let (low, rest) ← jsonHex4 rest
        if 0xDC00 ≤ low && low ≤ 0xDFFF then
          return (Char.ofNat (0x10000 + (unit - 0xD800) * 0x400 + (low - 0xDC00)), rest)
        else none
      | _ => none
    else return (Char.ofNat unit, rest)
  | _ => none

/-- The rest of a quoted text, up to its closing quote. -/
def jsonText : Nat → List Char → List Char → Option (String × List Char)
  -- Each turn reads one character, so the length of the text bounds the turns.
  | 0, _, _ => none
  | _ + 1, _, [] => none
  | turns + 1, read, c :: rest =>
    if c == '\x22' then some (String.ofList read.reverse, rest)
    else if c == '\\' then
      match jsonEscape rest with
      | some (escaped, rest) => jsonText turns (escaped :: read) rest
      | none => none
    else if c.toNat < 0x20 then none
    else jsonText turns (c :: read) rest

/-- The fraction of a number, which a point sets off from the integer part. -/
def jsonFraction : List Char → Option (List Char × List Char)
  -- A point is followed by at least one digit.
  | '.' :: rest =>
    let digits := rest.takeWhile isDigit
    if digits.isEmpty then none else some (digits, rest.dropWhile isDigit)
  | rest => some ([], rest)

/-- The exponent of a number, which the letter E in either case sets off. -/
def jsonExponent : List Char → Option (Option Int × List Char)
  -- After an optional sign at least one digit follows.
  | c :: rest =>
    if c == 'e' || c == 'E' then
      let (negative, rest) := splitSign rest
      let digits := rest.takeWhile isDigit
      let size : Int := natOfDigits digits
      if digits.isEmpty then none
      else some (some (if negative then -size else size), rest.dropWhile isDigit)
    else some (none, c :: rest)
  | [] => some (none, [])

/-- The integer that a sign and digits spell, unless it is the negative zero or fits no word. -/
def jsonInteger? (negative : Bool) (digits : List Char) : Option Int :=
  -- Words are unsigned without a minus and signed with one.
  let size : Int := natOfDigits digits
  if negative then
    if size != 0 && Value.minSigned ≤ -size then some (-size) else none
  else if size ≤ Value.maxUnsigned then some size else none

/-- A number: an integer where it is written as one and fits a word, else the nearest float. -/
def jsonNumber (text : List Char) : Option (Value × List Char) := do
  -- No digit follows a leading zero, and a number whose nearest float is infinite is refused.
  let (negative, body) := match text with
    | '-' :: rest => (true, rest)
    | rest => (false, rest)
  let whole := body.takeWhile isDigit
  if whole.isEmpty || (whole.head? == some '0' && whole.length != 1) then none
  let (fraction, rest) ← jsonFraction (body.dropWhile isDigit)
  let (exponent, rest) ← jsonExponent rest
  let integer := if fraction.isEmpty && exponent.isNone then jsonInteger? negative whole else none
  match integer with
  | some n => return (.int n, rest)
  | none =>
    let x := floatOfDigits whole fraction (exponent.getD 0)
    if x.isFinite then return (.float (if negative then -x else x), rest) else none

mutual

/-- A value after leading blanks; containers may nest as deeply as the bound says. -/
def jsonValue (text : List Char) (turns depth : Nat) : Option (Value × List Char) :=
  -- The first character tells the kind of value.
  match turns with
  | 0 => none
  | turns + 1 =>
    match skipJsonBlanks text with
    | 'n' :: 'u' :: 'l' :: 'l' :: rest => some (.null, rest)
    | 't' :: 'r' :: 'u' :: 'e' :: rest => some (.bool true, rest)
    | 'f' :: 'a' :: 'l' :: 's' :: 'e' :: rest => some (.bool false, rest)
    | '\x22' :: rest => (jsonText (rest.length + 1) [] rest).map fun (s, rest) => (.str s, rest)
    | '[' :: rest =>
      if depth == 0 then none
      else match skipJsonBlanks rest with
        | ']' :: rest => some (.arr [], rest)
        | rest => (jsonItems rest turns (depth - 1) []).map fun (items, rest) => (.arr items, rest)
    | '\x7b' :: rest =>
      if depth == 0 then none
      else match skipJsonBlanks rest with
        | '\x7d' :: rest => some (.obj [], rest)
        | rest => (jsonFields rest turns (depth - 1) []).map fun (fields, rest) => (.obj fields, rest)
    | rest => jsonNumber rest

/-- The elements of a list up to its closing bracket. -/
def jsonItems (text : List Char) (turns depth : Nat) (read : List Value) : Option (List Value × List Char) :=
  -- A comma must be followed by an element.
  match turns with
  | 0 => none
  | turns + 1 =>
    match jsonValue text turns depth with
    | none => none
    | some (item, rest) =>
      match skipJsonBlanks rest with
      | ',' :: rest => jsonItems rest turns depth (item :: read)
      | ']' :: rest => some ((item :: read).reverse, rest)
      | _ => none

/-- The fields of an object up to its closing brace; a repeated name keeps its last value. -/
def jsonFields (text : List Char) (turns depth : Nat) (read : Fields) : Option (Fields × List Char) :=
  -- Names are quoted texts.
  match turns with
  | 0 => none
  | turns + 1 =>
    match skipJsonBlanks text with
    | '\x22' :: rest =>
      match jsonText (rest.length + 1) [] rest with
      | none => none
      | some (name, rest) =>
        match skipJsonBlanks rest with
        | ':' :: rest =>
          match jsonValue rest turns depth with
          | none => none
          | some (value, rest) =>
            match skipJsonBlanks rest with
            | ',' :: rest => jsonFields rest turns depth (SortedMap.put name value read)
            | '\x7d' :: rest => some (SortedMap.put name value read, rest)
            | _ => none
        | _ => none
    | _ => none

end

/-- How deeply containers may nest. -/
def jsonDepth : Nat := 127

/-- The value that a whole text spells, if it is JSON. -/
def Value.ofJson? (text : String) : Option Value :=
  -- Every step reads at least one character, so the length bounds the steps.
  let chars := text.toList
  match jsonValue chars (2 * chars.length + 2) jsonDepth with
  | some (value, rest) => if (skipJsonBlanks rest).isEmpty then some value else none
  | none => none

end Phrasebook
