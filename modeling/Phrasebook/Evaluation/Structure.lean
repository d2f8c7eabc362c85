import Phrasebook.Value.Basic
import Phrasebook.Unicode.Casing

/-! Structured templates produce objects of a named type, in which the first writer of a name wins. -/

namespace Phrasebook

/-- The name under which an object carries its type. -/
def typeKey : String := "lgType"

/-- An object that has nothing but its type. -/
def typedObject (typeName : String) : Fields :=
  -- The type is written first, so nothing can change it.
  [(typeKey, .str typeName)]

/-- Whether fields carry a given type, in any case. -/
def hasType (typeName : String) (fields : Fields) : Bool :=
  -- A type that is no text does not count.
  match SortedMap.get? fields typeKey with
  | some (.str name) => sameIgnoringCase name typeName
  | _ => false

/-- Add the fields that are not there yet, the type left out. -/
def mergeFields (target source : Fields) : Fields :=
  -- Existing fields are never overwritten.
  source.foldl
    (fun target (name, value) => if name == typeKey then target else SortedMap.insertNew name value target) target

mutual

/-- Merge a value into an object: objects of the same type, alone or in lists of any depth. -/
def mergeValue (typeName : String) (target : Fields) : Value → Fields
  -- All other values add nothing.
  | .arr items => mergeItems typeName target items
  | .obj fields => if hasType typeName fields then mergeFields target fields else target
  | _ => target

/-- Merge the elements of a list into an object, in order. -/
def mergeItems (typeName : String) (target : Fields) : List Value → Fields
  -- Earlier elements win over later ones.
  | [] => target
  | item :: rest => mergeItems typeName (mergeValue typeName target item) rest

end

/-- The value of a property: a single one stands alone, several form a list. -/
def propertyValue (values : List Value) : Value :=
  -- No values at all form an empty list.
  match values with
  | [single] => single
  | values => .arr values

/-- An attachment of some content. -/
def attachment (content : Value) (contentType : String) : Value :=
  -- Its type is fixed.
  .obj (SortedMap.ofList [(typeKey, .str "attachment"), ("contenttype", .str contentType), ("content", content)])

end Phrasebook
