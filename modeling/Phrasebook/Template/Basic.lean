import Phrasebook.Expression.Basic

/-! Templates are named texts with expressions in them, arranged in one of four kinds of body. -/

namespace Phrasebook

/-- An inclusive range of lines, counted from one. -/
structure LineRange where
  /-- The first line. -/
  first : Nat
  /-- The last line. -/
  last : Nat
  deriving DecidableEq, Repr, Inhabited

/-- A range of one line. -/
def LineRange.single (line : Nat) : LineRange :=
  -- Both ends are the line itself.
  ⟨line, line⟩

/-- An expression together with the text it was read from. -/
structure Embedded where
  /-- The text of the expression, trimmed. -/
  source : String
  /-- The expression. -/
  expression : Expression
  deriving Inhabited

/-- What stands in for an expression that could not be read. -/
def Embedded.unreadable (source : String) : Embedded :=
  -- A file with such an expression carries an error, so it is never evaluated.
  ⟨source, .literal .null⟩

/-- A piece of template text. -/
inductive Segment where
  /-- Characters that stand for themselves. -/
  | literal (text : String)
  /-- An expression whose value is filled in. -/
  | expression (embedded : Embedded)
  deriving Inhabited

/-- A template text: pieces in order. -/
abbrev TemplateText := List Segment

/-- The expression of a text that is nothing but one expression. -/
def TemplateText.single? (text : TemplateText) : Option Embedded :=
  -- Even an empty literal beside it would make the result a text.
  match text with
  | [.expression embedded] => some embedded
  | _ => none

/-- The expressions of a text, in order. -/
def TemplateText.expressions (text : TemplateText) : List Embedded :=
  -- Literals are left out.
  text.filterMap fun segment =>
    match segment with
    | .expression embedded => some embedded
    | .literal _ => none

/-- The word that opens a branch of a conditional. -/
inductive BranchKind where
  /-- The first branch. -/
  | first
  /-- A further branch with a condition. -/
  | further
  /-- The branch for all other cases. -/
  | otherwise
  deriving DecidableEq, Repr, Inhabited

/-- A branch of a conditional body. -/
structure Branch where
  /-- The word that opens the branch. -/
  kind : BranchKind
  /-- The condition, absent from the branch for all other cases. -/
  condition : Option Embedded
  /-- Alternative texts. -/
  body : List TemplateText
  deriving Inhabited

/-- A case of a switch body. -/
structure Case where
  /-- The value that selects the case, absent from the default case. -/
  value : Option Embedded
  /-- Alternative texts. -/
  body : List TemplateText
  deriving Inhabited

/-- A line of a structured body. -/
inductive StructureLine where
  /-- A property with one or more values. -/
  | property (key : String) (values : List TemplateText)
  /-- An expression whose object is merged in. -/
  | merge (embedded : Embedded)
  deriving Inhabited

/-- The body of a template. -/
inductive Body where
  /-- Alternative texts. -/
  | normal (candidates : List TemplateText)
  /-- Branches under conditions. -/
  | conditional (branches : List Branch)
  /-- Cases of a value. -/
  | switch (subject : Embedded) (cases : List Case)
  /-- An object of a named type. -/
  | structured (typeName : String) (lines : List StructureLine)
  deriving Inhabited

/-- A named template. -/
structure Template where
  /-- The name by which the template is called. -/
  name : String
  /-- The names that a call binds. -/
  parameters : List String
  /-- What the template produces. -/
  body : Body
  /-- The file that defines the template. -/
  source : String
  /-- Where in the file it stands. -/
  range : LineRange
  deriving Inhabited

/-- An import of another file. -/
structure Import where
  /-- The text between the brackets. -/
  description : String
  /-- The file that is imported. -/
  target : String
  /-- The name under which its templates are called, if they do not share the importer's names. -/
  qualifier : Option String
  /-- The line of the import. -/
  line : Nat
  deriving DecidableEq, Repr, Inhabited

/-- The expressions of alternative texts, in order. -/
def textsExpressions (texts : List TemplateText) : List Embedded :=
  -- Text follows text.
  texts.flatMap TemplateText.expressions

/-- The expressions of a body, in source order. -/
def Body.expressions : Body → List Embedded
  -- A condition or value comes before the texts under it.
  | .normal candidates => textsExpressions candidates
  | .conditional branches =>
    branches.flatMap fun branch => branch.condition.toList ++ textsExpressions branch.body
  | .switch subject cases =>
    subject :: cases.flatMap fun case => case.value.toList ++ textsExpressions case.body
  | .structured _ lines =>
    lines.flatMap fun line =>
      match line with
      | .property _ values => textsExpressions values
      | .merge embedded => [embedded]

/-- The expressions of a template, in source order. -/
def Template.expressions (template : Template) : List Embedded :=
  -- Only the body has expressions.
  template.body.expressions

end Phrasebook
