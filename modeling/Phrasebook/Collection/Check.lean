import Phrasebook.Collection.Registry

/-! Calls and exports are checked before anything is evaluated. -/

namespace Phrasebook

/-- The fault of passing a number of arguments to a template, if it is one. -/
def argumentFault? (template : Template) (count : Nat) : Option CallFault :=
  -- No arguments at all are always allowed.
  if count == 0 || count == template.parameters.length then none
  else some (.argumentCount template.name template.parameters.length count)

/-- The fault of a call, if it is one. -/
def callFault? (registry : Registry) (name : String) (args : List Expression) : Option CallFault :=
  -- A call by a literal name is checked against the template of that name.
  let base := (splitRerun name).1
  if base == "template" then
    match args with
    | .literal (.str target) :: rest =>
      match registry.get? target with
      | none => some (.unknownTemplate target)
      | some template => argumentFault? template rest.length
    | _ => none
  else match registry.get? base with
    | none => none
    | some template => argumentFault? template args.length

/-- The faults of the calls in an expression. -/
def callFaults (registry : Registry) (expression : Expression) : List CallFault :=
  -- Calls inside arguments count as well.
  expression.nodes.filterMap fun node =>
    match node with
    | .call name args => callFault? registry name args
    | _ => none

/-- What checking the calls of a file finds, against all that can be called from it. -/
def Collection.checkCalls (collection : Collection) : List Finding :=
  -- A finding concerns the whole template.
  let registry := collection.registry
  collection.file.templates.flatMap fun template =>
    (template.expressions.flatMap fun embedded => callFaults registry embedded.expression).map
      fun fault => ⟨template.range, .badCall template.name fault, template.source⟩

/-- What checking the exports of a file finds. -/
def LoadedFile.checkExports (file : LoadedFile) : List Finding :=
  -- Exports need a namespace and must be defined in the file itself.
  let names := file.exports
  let missing : List Finding :=
    if !names.isEmpty && file.namespace?.isNone then [⟨.single 1, .exportsWithoutNamespace, file.id⟩] else []
  missing ++ names.filterMap fun name =>
    if (file.template? name).isNone then some ⟨.single 1, .unknownExport name, file.id⟩ else none

/-- The exported templates of a file: the names they are registered under, and their own. -/
def LoadedFile.exported (file : LoadedFile) : List (String × String) :=
  -- Undefined templates are left out.
  match file.namespace? with
  | none => []
  | some space =>
    file.exports.filterMap fun name =>
      if (file.template? name).isSome then some (space ++ "." ++ name, name) else none

end Phrasebook
