import Phrasebook.Template.Basic
import Phrasebook.Expression.Reader

/-! Template text is cut into literals and expressions; a backslash escapes the character after it. -/

namespace Phrasebook

/-- Why a text is no template text. -/
inductive TextError where
  /-- An expression that starts at this column is never closed. -/
  | unterminated (column : Nat)
  /-- An embedded expression cannot be read. -/
  | expression (source : String) (error : ExpressionError)

/-- The wording of a text error. -/
def TextError.message : TextError → String
  -- The fault of an expression is told after its text.
  | .unterminated column => "unterminated expression starting at column " ++ toString column
  | .expression source error => "invalid expression '" ++ source ++ "': " ++ error.message

/-- What the scan for a closing brace has seen so far. -/
structure BraceScan where
  /-- How many inner braces are open. -/
  depth : Nat
  /-- The quote that is open. -/
  quote : Option Char
  /-- Whether the next character inside quotes is escaped. -/
  escaped : Bool

/-- The scan right after the opening of an expression. -/
def BraceScan.start : BraceScan :=
  -- Nothing is open inside the expression yet.
  ⟨0, none, false⟩

/-- The scan after one character, or nothing if that character closes the expression. -/
def BraceScan.next? (scan : BraceScan) (c : Char) : Option BraceScan :=
  -- Braces inside quotes do not count, and a backslash hides the character after it there.
  match scan.quote with
  | some quote =>
    if scan.escaped then some { scan with escaped := false }
    else if c == '\\' then some { scan with escaped := true }
    else if c == quote then some { scan with quote := none }
    else some scan
  | none =>
    if c == '\x27' || c == '\x22' then some { scan with quote := some c }
    else if c == '\x7b' then some { scan with depth := scan.depth + 1 }
    else if c == '\x7d' then
      match scan.depth with
      | 0 => none
      | depth + 1 => some { scan with depth := depth }
    else some scan

/-- The characters up to the closing brace of an expression, and those after it. -/
def closeExpression (scan : BraceScan) : List Char → Option (List Char × List Char)
  -- The expression is unterminated if the text ends first.
  | [] => none
  | c :: rest =>
    match scan.next? c with
    | none => some ([], rest)
    | some scan => (closeExpression scan rest).map fun (body, after) => (c :: body, after)

/-- A piece of text before its expression has been read. -/
inductive RawSegment where
  /-- Characters that stand for themselves. -/
  | literal (text : List Char)
  /-- The characters of an expression. -/
  | expression (source : List Char)

/-- Put a character in front of pieces, joining it with a literal there. -/
def consLiteral (c : Char) : List RawSegment → List RawSegment
  -- So no two literals are neighbours.
  | .literal text :: rest => .literal (c :: text) :: rest
  | segments => .literal [c] :: segments

/-- The pieces of a text, or the text from the expression on that is never closed. -/
def rawSegments : Nat → List Char → Except (List Char) (List RawSegment)
  -- Each turn reads a character, so the length of the text bounds the turns.
  | 0, _ => .ok []
  | _ + 1, [] => .ok []
  | turns + 1, '\\' :: c :: rest => (rawSegments turns rest).map (consLiteral (unescapeChar c))
  | turns + 1, '$' :: '\x7b' :: rest =>
    match closeExpression .start rest with
    | none => .error ('$' :: '\x7b' :: rest)
    | some (body, after) => (rawSegments turns after).map (.expression body :: ·)
  | turns + 1, c :: rest => (rawSegments turns rest).map (consLiteral c)

/-- Read an expression out of its characters, white space around it ignored. -/
def embed (source : List Char) : Except TextError Embedded :=
  -- The trimmed text is kept beside the expression.
  let source := String.ofList (trimChars source)
  match Expression.parse source with
  | .ok expression => .ok ⟨source, expression⟩
  | .error error => .error (.expression source error)

/-- Read the expression of a piece. -/
def RawSegment.read : RawSegment → Except TextError Segment
  -- Literals are complete already.
  | .literal text => .ok (.literal (String.ofList text))
  | .expression source => (embed source).map .expression

/-- Read a template text. -/
def TemplateText.parse (text : String) : Except TextError TemplateText :=
  -- An unterminated expression is reported before any that cannot be read.
  let chars := text.toList
  match rawSegments chars.length chars with
  | .error rest => .error (.unterminated (columnOf chars rest))
  | .ok segments => segments.mapM RawSegment.read

/-- Read a condition, which may stand between the signs of an embedded expression or bare. -/
def parseCondition (text : String) : Except TextError Embedded :=
  -- The signs are taken off only if they enclose the whole text.
  let chars := trimChars text.toList
  match chars with
  | '$' :: '\x7b' :: rest =>
    match closeExpression .start rest with
    | some (body, []) => embed body
    | _ => embed chars
  | _ => embed chars

end Phrasebook
