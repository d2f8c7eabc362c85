import Phrasebook.Collection.Check

/-! Loading reads a file and everything it imports, each file once. -/

namespace Phrasebook

/-- A request to a resolver, with the id of what it gave. -/
structure Request where
  /-- The id of the importing file. -/
  source : String
  /-- The target of the import. -/
  target : String
  /-- The id of the file found. -/
  resolved : Option String
  deriving DecidableEq, Repr, Inhabited

/-- How far a load has come. -/
structure Loading where
  /-- The files loaded so far, imported ones before their importers. -/
  files : List LoadedFile := []
  /-- The requests made so far, in order. -/
  requests : List Request := []
  deriving Inhabited

/-- The imports of a file that have been followed so far. -/
structure Following where
  /-- How far the load has come. -/
  loading : Loading
  /-- The resolved imports. -/
  links : List Link := []
  /-- What was wrong with the others. -/
  findings : List Finding := []

/-- Note the request of an import. -/
def Following.request (following : Following) (source target : String) (resolved : Option String) : Following :=
  -- Failed requests count as well.
  { following with loading := { following.loading with
      requests := following.loading.requests ++ [⟨source, target, resolved⟩] } }

/-- Add the link of an import. -/
def Following.link (following : Following) (entry : Import) (target : String) (closesCycle : Bool) : Following :=
  -- Links keep the order of their imports.
  { following with links := following.links ++ [⟨entry.qualifier, target, closesCycle⟩] }

/-- Add the finding of an import. -/
def Following.fail (following : Following) (entry : Import) (source : String) (fault : Fault) : Following :=
  -- It concerns the line of the import.
  { following with findings := following.findings ++ [⟨.single entry.line, fault, source⟩] }

/-- Follow one import of a file, given how an imported file is loaded. -/
def followImport (resolver : Resolver) (load : Loading → Resource → Option Loading)
    (loadingIds : List String) (source : String) (following : Following) (entry : Import) : Following :=
  -- A file that is still being loaded is linked, and one that has been loaded is shared.
  match resolver.resolve source entry.target with
  | .error error =>
    (following.request source entry.target none).fail entry source (.failedImport entry.target error)
  | .ok resource =>
    let following := following.request source entry.target (some resource.id)
    if loadingIds.contains resource.id then following.link entry resource.id true
    else if following.loading.files.any (·.id == resource.id) then following.link entry resource.id false
    else match load following.loading resource with
      | some loading => { following with loading := loading }.link entry resource.id false
      | none => following.fail entry source (.endlessImport entry.target)

/-- Load a file and what it imports, given the files that are still being loaded. -/
def loadFile (resolver : Resolver) : Nat → List String → Loading → Resource → Option Loading
  -- Every level below loads another file, so the number of files bounds the depth.
  | 0, _, _, _ => none
  | depth + 1, loadingIds, loading, resource =>
    let file := TemplateFile.parse resource.content resource.id
    let loadingIds := resource.id :: loadingIds
    let load := loadFile resolver depth loadingIds
    let following := file.imports.foldl (followImport resolver load loadingIds resource.id) { loading := loading }
    some { following.loading with files := following.loading.files ++
        [⟨resource.id, resource.content, file.templates, file.imports, file.options, following.links,
          file.findings ++ following.findings⟩] }

/-- What checking a file adds to its findings, now that all files are there. -/
def Graph.check (graph : Graph) : Graph :=
  -- The checks look at templates and links only, so their order does not matter.
  { graph with files := graph.files.map fun file =>
      { file with findings := file.findings ++ file.checkExports ++
          (Collection.mk graph file.id []).checkCalls } }

/-- A load: the collection of its root, and the requests made. -/
structure Load where
  /-- The root of what was loaded. -/
  root : Collection
  /-- The requests made, in order. -/
  requests : List Request
  deriving Inhabited

/-- Load a text under an id with everything it imports. -/
def Collection.load (resolver : Resolver) (content id : String) : Load :=
  -- The root need not be among the files of the resolver.
  let loading := (loadFile resolver (resolver.size + 2) [] {} ⟨id, content⟩).getD {}
  let graph : Graph := { resolver := resolver, files := loading.files }
  ⟨⟨graph.check, id, []⟩, loading.requests⟩

/-- The exported templates of a load, in the order in which they are registered. -/
def Collection.exported (collection : Collection) : List (String × String × String) :=
  -- Each entry holds the registered name, the id of the file and the name of the template.
  collection.graph.files.flatMap fun file => file.exported.map fun (full, name) => (full, file.id, name)

end Phrasebook
