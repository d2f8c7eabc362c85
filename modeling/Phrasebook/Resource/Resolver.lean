import Phrasebook.Resource.FileTree
import Phrasebook.SortedMap

/-! A resolver turns the target of an import into the text of a file and the id of that file. -/

namespace Phrasebook

/-- The text of a file together with its id. -/
structure Resource where
  /-- What names the file in a load. -/
  id : String
  /-- The text of the file. -/
  content : String
  deriving DecidableEq, Repr, Inhabited

/-- Why a target cannot be resolved. -/
inductive ResolveError where
  /-- Nothing stands at the target. -/
  | notFound (source target : String)
  /-- Something stands there that cannot be read. -/
  | unreadable (path : String) (fault : FileFault)
  deriving DecidableEq, Repr

/-- The wording of a resolving error. -/
def ResolveError.message : ResolveError → String
  -- The importing file is named even if its id is empty.
  | .notFound source target => "resource '" ++ target ++ "' not found (imported from '" ++ source ++ "')"
  | .unreadable path fault => "failed to read '" ++ path ++ "': " ++ fault.message

/-- Texts by their ids. -/
abbrev ResourceTable := SortedMap String

/-- One step of normalization: what has been kept, in reverse, and the next segment. -/
def normalizeStep (kept : List String) (segment : String) : List String :=
  -- A step upwards takes back the last name, and is dropped at the top.
  if segment == "" || segment == "." then kept
  else if segment == ".." then kept.tail
  else segment :: kept

/-- An id without idle segments and steps upwards. -/
def normalizeId (id : String) : String :=
  -- A leading slash is dropped as well.
  joinSegments (((pathSegments id).foldl normalizeStep []).reverse)

/-- The directory of an id: all before its last slash, if it has one. -/
def directoryOf? (id : String) : Option String :=
  -- The last segment is the name.
  match (pathSegments id).reverse with
  | _ :: segment :: before => some (joinSegments (segment :: before).reverse)
  | _ => none

/-- Resolve a target in a table: next to the importing file first, then as given. -/
def ResourceTable.resolve (table : ResourceTable) (source target : String) : Except ResolveError Resource :=
  -- Ids are compared in normal form.
  let near := match directoryOf? source with
    | some directory => normalizeId (directory ++ "/" ++ target)
    | none => normalizeId target
  match table.get? near with
  | some content => .ok ⟨near, content⟩
  | none =>
    let plain := normalizeId target
    match table.get? plain with
    | some content => .ok ⟨plain, content⟩
    | none => .error (.notFound source target)

/-- Resolve a target in a file tree, relative to the directory of the importing file. -/
def FileTree.resolve (tree : FileTree) (source target : String) : Except ResolveError Resource :=
  -- Ids are absolute paths, so one file has one id.
  let path := resolvePath source target
  match tree.read path with
  | .ok content => .ok ⟨tree.canonical path, content⟩
  | .error .missing => .error (.notFound source target)
  | .error fault => .error (.unreadable path fault)

/-- Where the texts of imported files come from. -/
inductive Resolver where
  /-- A table in memory. -/
  | table (resources : ResourceTable)
  /-- A file tree. -/
  | files (tree : FileTree)
  deriving Inhabited

/-- Resolve a target as imported from a file. -/
def Resolver.resolve (resolver : Resolver) (source target : String) : Except ResolveError Resource :=
  -- Both kinds answer alike.
  match resolver with
  | .table resources => resources.resolve source target
  | .files tree => tree.resolve source target

/-- The number of texts that a resolver can give. -/
def Resolver.size : Resolver → Nat
  -- Directories count too, which does no harm.
  | .table resources => resources.length
  | .files tree => tree.nodes.length

end Phrasebook
