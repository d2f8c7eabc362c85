import Phrasebook.Value.Text
import Phrasebook.Decimal.Reading
import Phrasebook.Reading.Lines

/-! A scope lays the arguments of a call over the data that all calls share. -/

namespace Phrasebook

/-- The data visible to an expression. -/
structure Scope where
  /-- The layer that every call inherits. -/
  globals : Value
  /-- The arguments of the innermost call that has any. -/
  locals : Option Fields := none
  deriving Inhabited

namespace Scope

/-- A scope without local bindings. -/
def ofValue (globals : Value) : Scope :=
  -- Any value may be the global layer, but only objects bind names.
  ⟨globals, none⟩

/-- Bind names over the global layer, dropping earlier local bindings. -/
def withLocals (scope : Scope) (locals : Fields) : Scope :=
  -- A callee never sees the bindings of its caller.
  ⟨scope.globals, some locals⟩

/-- The value of a name, looked up in the local layer first. -/
def get? (scope : Scope) (name : String) : Option Value :=
  -- A name bound to null is found.
  match scope.locals.bind (SortedMap.get? · name) with
  | some value => some value
  | none => scope.globals.field? name

/-- The part of a value that one segment of a path names. -/
def step? (value : Value) (segment : String) : Option Value :=
  -- Elements are named by their position.
  match value with
  | .obj fields => SortedMap.get? fields segment
  | .arr items => (readNat? segment.toList).bind (items[·]?)
  | _ => none

/-- The value that a dotted path names. -/
def getPath? (scope : Scope) (path : String) : Option Value :=
  -- The first segment is a name, and the others step into the value found.
  match (splitAt '.' path.toList).map String.ofList with
  | [] => none
  | first :: rest => rest.foldl (fun value segment => value.bind (step? · segment)) (scope.get? first)

/-- The text that tells apart the local layers over one global layer. -/
def fingerprint (scope : Scope) : Option String :=
  -- Layers are told apart by their JSON text.
  scope.locals.map fun locals => (Value.obj locals).compact

end Scope

end Phrasebook
