import Phrasebook.Collection.Basic
import Phrasebook.Suggestion

/-! What can go wrong when templates are evaluated, expanded, analyzed or edited. -/

namespace Phrasebook

/-- Where in a template an expression stands. -/
inductive Site where
  /-- In a text or a merged line. -/
  | text
  /-- In a condition, given by its source. -/
  | condition (source : String)
  /-- In the subject of a switch, given by its source. -/
  | subject (source : String)
  /-- In the value of a case, given by its source. -/
  | case (source : String)
  /-- In a property, given by its key. -/
  | property (key : String)
  deriving DecidableEq, Repr, Inhabited

/-- A site in a template. -/
structure Place where
  /-- The template that was running, if any. -/
  template : Option String
  /-- The site in it. -/
  site : Site
  deriving DecidableEq, Repr, Inhabited

/-- The wording of a place. -/
def Place.describe (place : Place) : String :=
  -- Text outside any template is written in line.
  let name := "[" ++ place.template.getD "inline" ++ "]"
  match place.site with
  | .text => name
  | .condition source => name ++ " Condition '" ++ source ++ "'"
  | .subject source => name ++ " Switch '" ++ source ++ "'"
  | .case source => name ++ " Case '" ++ source ++ "'"
  | .property key => name ++ " Property '" ++ key ++ "'"

/-- Why an embedded expression has no value. -/
inductive Cause where
  /-- Evaluating it raised an error. -/
  | raised (error : ExpressionError)
  /-- Its value is null, which strict evaluation forbids. -/
  | null (source : String)
  /-- A file that it includes is no template text. -/
  | badFile (path : String) (error : TextError)
  /-- The text to be evaluated is no template text. -/
  | badText (error : TextError)

/-- The wording of a cause. -/
def Cause.message : Cause → String
  -- Texts that cannot be read are told by their own fault.
  | .raised error => error.message
  | .null source => "'" ++ source ++ "' evaluated to null"
  | .badFile path error => "fromFile('" ++ path ++ "'): " ++ error.message
  | .badText error => error.message

/-- An error of evaluation, expansion, analysis or editing. -/
inductive TemplateError where
  /-- No template has this name. -/
  | notFound (name : String) (close : List String)
  /-- A template was called while it was running. -/
  | loop (chain : List String)
  /-- A call passes a wrong number of arguments. -/
  | argumentCount (template : String) (expected got : Nat)
  /-- An embedded expression has no value. -/
  | expression (place : Option Place) (cause : Cause)
  /-- The collection has errors. -/
  | findings (errors : List Finding)
  /-- A template of this name exists already. -/
  | duplicate (name : String)
  /-- A file cannot be read. -/
  | file (path : String) (fault : FileFault)
  /-- Calls were nested deeper than the given bound. -/
  | unfinished

namespace TemplateError

/-- The wording of a template error. -/
def message : TemplateError → String
  -- An expression error without a place is told by its cause alone.
  | .notFound name [] => "template not found: '" ++ name ++ "'"
  | .notFound name close =>
    "template not found: '" ++ name ++ "', did you mean: " ++ String.intercalate ", " close ++ "?"
  | .loop chain => "loop detected: " ++ String.intercalate " => " chain
  | .argumentCount template expected got =>
    "template '" ++ template ++ "' expects " ++ toString expected ++ " arguments, got " ++ toString got
  | .expression (some place) cause => place.describe ++ ": " ++ cause.message
  | .expression none cause => cause.message
  | .findings errors =>
    toString errors.length ++ " error(s) found in templates:\n" ++
      String.intercalate "\n" (errors.map Finding.display)
  | .duplicate name => "template '" ++ name ++ "' already exists"
  | .file path fault => "failed to read '" ++ path ++ "': " ++ fault.message
  | .unfinished => "calls are nested too deeply"

/-- Give an expression error a place unless it has one. -/
def withPlace (place : Place) : TemplateError → TemplateError
  -- The innermost place is set first and stays.
  | .expression none cause => .expression (some place) cause
  | error => error

end TemplateError

end Phrasebook
