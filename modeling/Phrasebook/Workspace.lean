import Phrasebook.Collection.Edit
import Phrasebook.Evaluation.Evaluate

/-! A workspace keeps collections in named slots, and the functions that loading them registers. -/

namespace Phrasebook

/-- A collection in a slot, and the files of its load that the slot holds. -/
structure Holder where
  /-- The collection. -/
  collection : Collection
  /-- The files held directly; what they import is held through them. -/
  held : List String
  /-- Whether the slot shares the file with its importers, rather than having a copy. -/
  shared : Bool
  deriving Inhabited

/-- Collections in named slots, with all that they share. -/
structure Workspace where
  /-- Where imported files come from. -/
  resolver : Resolver
  /-- The files on disk. -/
  files : FileTree
  /-- The registered functions. -/
  functions : FunctionTable
  /-- The slots. -/
  slots : List (String × Holder) := []
  /-- The requests made to the resolver, in order. -/
  requests : List Request := []
  /-- The number of loads so far. -/
  loads : Nat := 0

/-- The ids of the files that a file holds by its imports. -/
def LoadedFile.heldTargets (file : LoadedFile) : List String :=
  -- A link that closes a cycle holds nothing.
  (file.links.filter fun link => !link.closesCycle).map (·.target)

/-- The files that some files hold, directly or through others. -/
def Graph.heldFrom (graph : Graph) (ids : List String) : List String :=
  -- Each file is visited once.
  let next (id : String) : List String := ((graph.file? id).map LoadedFile.heldTargets).getD []
  ids.foldl (Graph.visit next (graph.files.length + 1)) []

namespace Workspace

/-- The files of a load that slots and registered functions hold directly. -/
def heldDirectly (workspace : Workspace) (number : Nat) : List String :=
  -- An exported template holds the file that defines it.
  (workspace.slots.flatMap fun (_, holder) =>
    if holder.collection.graph.number == number then holder.held else []) ++
  workspace.functions.filterMap fun (_, function) =>
    match function with
    | .exported owner _ => if owner.graph.number == number then some owner.id else none
    | .native _ => none

/-- A collection with the files marked that nothing holds any more. -/
def refresh (workspace : Workspace) (collection : Collection) : Collection :=
  -- Only links that close a cycle can lead to such files.
  let graph := collection.graph
  let held := graph.heldFrom (workspace.heldDirectly graph.number)
  { collection with dropped := (graph.files.map (·.id)).filter fun id => !held.contains id }

/-- The registered functions, their collections as they are now. -/
def currentFunctions (workspace : Workspace) : FunctionTable :=
  -- Other functions do not change.
  workspace.functions.map fun (name, function) =>
    match function with
    | .exported owner template => (name, .exported (workspace.refresh owner) template)
    | .native function => (name, .native function)

/-- What a slot holds. -/
def holder? (workspace : Workspace) (slot : String) : Option Holder :=
  -- Each slot occurs once.
  (workspace.slots.find? (·.1 == slot)).map (·.2)

/-- The collection in a slot. -/
def collection? (workspace : Workspace) (slot : String) : Option Collection :=
  -- Links that close a cycle may have died since the slot was filled.
  (workspace.holder? slot).map fun holder => workspace.refresh holder.collection

/-- Empty a slot. -/
def drop (workspace : Workspace) (slot : String) : Workspace :=
  -- What it held may be held elsewhere.
  { workspace with slots := workspace.slots.filter (·.1 != slot) }

/-- Fill a slot. -/
def put (workspace : Workspace) (slot : String) (holder : Holder) : Workspace :=
  -- What was there before is dropped.
  let workspace := workspace.drop slot
  { workspace with slots := (slot, holder) :: workspace.slots }

/-- Note requests to a resolver. -/
def note (workspace : Workspace) (resolver : Resolver) (requests : List Request) : Workspace :=
  -- Requests to a file tree are not noted.
  match resolver with
  | .table _ => { workspace with requests := workspace.requests ++ requests }
  | .files _ => workspace

/-- Load a text with everything it imports and keep it in a slot. -/
def openText (workspace : Workspace) (slot : String) (resolver : Resolver) (content id : String) : Workspace :=
  -- The exports of the load are registered before the slot is filled.
  let load := Collection.load resolver content id
  let graph := { load.root.graph with number := workspace.loads + 1 }
  let root : Collection := { load.root with graph := graph }
  let workspace := workspace.note resolver load.requests
  let workspace := { workspace with
    functions := workspace.functions.registerExports root
    loads := workspace.loads + 1 }
  workspace.put slot ⟨root, [root.id], false⟩

/-- Resolve a target through a resolver that collections of the workspace use. -/
def resolve (workspace : Workspace) (resolver : Resolver) (source target : String) :
    Workspace × Except ResolveError Resource :=
  -- The request is noted whether or not it succeeds.
  let result := resolver.resolve source target
  (workspace.note resolver [⟨source, target, result.toOption.map (·.id)⟩], result)

/-- Load a file of the resolver and keep it in a slot. -/
def openResource (workspace : Workspace) (slot id : String) : Workspace × Except ResolveError Unit :=
  -- The id is resolved as if nothing imported it.
  match workspace.resolve workspace.resolver "" id with
  | (workspace, .error error) => (workspace, .error error)
  | (workspace, .ok resource) =>
    (workspace.openText slot workspace.resolver resource.content resource.id, .ok ())

/-- Load a file on disk and keep it in a slot. -/
def openFile (workspace : Workspace) (slot path : String) : Except ResolveError Workspace :=
  -- Its id is its absolute path, and its imports come from the disk as well.
  match workspace.files.read path with
  | .error fault => .error (.unreadable path fault)
  | .ok content =>
    .ok (workspace.openText slot (.files workspace.files) content (workspace.files.canonical path))

/-- A holder of a copy of what another one holds. -/
def copyOf (holder : Holder) : Holder :=
  -- A copy of a shared file holds what the file imports, but not the file.
  if holder.shared then ⟨holder.collection, holder.collection.file.heldTargets, false⟩ else holder

/-- Keep an edited collection in a slot: the new text loaded again, or a copy if nothing was edited. -/
def putEdited (workspace : Workspace) (slot : String) (holder : Holder) (content : Option String) : Workspace :=
  -- The new text keeps the id and the resolver of the old one.
  match content with
  | some content =>
    workspace.openText slot holder.collection.graph.resolver content holder.collection.id
  | none => workspace.put slot (copyOf holder)

/-- Add a template and keep the result in a slot. -/
def addTemplate (workspace : Workspace) (slot : String) (holder : Holder) (name : String)
    (parameters : List String) (body : String) : Except TemplateError Workspace :=
  -- The name must be free in the file.
  match holder.collection.file.addTemplate name parameters body with
  | some content => .ok (workspace.putEdited slot holder (some content))
  | none => .error (.duplicate name)

/-- Replace a template and keep the result in a slot. -/
def updateTemplate (workspace : Workspace) (slot : String) (holder : Holder) (name newName : String)
    (parameters : List String) (body : String) : Workspace :=
  -- Nothing changes if there is no template of that name.
  workspace.putEdited slot holder (holder.collection.file.updateTemplate name newName parameters body)

/-- Remove a template and keep the result in a slot. -/
def deleteTemplate (workspace : Workspace) (slot : String) (holder : Holder) (name : String) : Workspace :=
  -- Nothing changes if there is no template of that name.
  workspace.putEdited slot holder (holder.collection.file.deleteTemplate name)

/-- The file reached by following imports without an alias by their positions. -/
def follow? (collection : Collection) : List Nat → Option Collection
  -- Links that close a cycle have no position.
  | [] => some collection
  | index :: rest =>
    match collection.file.references[index]? with
    | some id => follow? (collection.focus id) rest
    | none => none

/-- Keep an imported file in a slot, shared with its importers. -/
def putReference (workspace : Workspace) (slot : String) (holder : Holder) (index : Nat) : Option Workspace :=
  -- Only imports without an alias have a position.
  (follow? holder.collection [index]).map fun collection =>
    workspace.put slot ⟨collection, [collection.id], true⟩

/-- Whether two collections are the same file of the same load. -/
def sameFile (left right : Collection) : Bool :=
  -- Each id is loaded once in a load.
  left.graph.number == right.graph.number && left.id == right.id

/-- The environment of a collection in the workspace. -/
def environment (workspace : Workspace) (collection : Collection) (options : Options) :
    Except TemplateError Environment :=
  -- Registered functions see the files as they are now.
  Environment.of collection options workspace.files workspace.currentFunctions

end Workspace

/-- Evaluate a text that has yet to be read against a collection of a workspace. -/
def Workspace.evaluateSource (workspace : Workspace) (collection : Collection) (text : String) (scope : Scope) :
    Except TemplateError (Evaluation Value) :=
  -- The text is read before the collection is checked for errors.
  match TemplateText.parse text with
  | .error error => .error (.expression (some ⟨none, .text⟩) (.badText error))
  | .ok text => (workspace.environment collection {}).map fun environment => evaluateText environment text scope

end Phrasebook
