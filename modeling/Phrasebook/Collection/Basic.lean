import Phrasebook.Template.FileReader
import Phrasebook.Options

/-! A collection is a template file seen together with all the files it imports. -/

namespace Phrasebook

/-- A resolved import. -/
structure Link where
  /-- The name under which the imported templates are called. -/
  qualifier : Option String
  /-- The id of the imported file. -/
  target : String
  /-- Whether the imported file was still being loaded, so that the link closes a cycle. -/
  closesCycle : Bool
  deriving DecidableEq, Repr, Inhabited

/-- A file of a load. -/
structure LoadedFile where
  /-- What names the file in the load. -/
  id : String
  /-- The text of the file. -/
  content : String
  /-- The templates that the file defines. -/
  templates : List Template
  /-- The import lines. -/
  imports : List Import
  /-- The option lines. -/
  options : List String
  /-- The imports that could be resolved. -/
  links : List Link
  /-- What reading, loading and checking the file found. -/
  findings : List Finding
  deriving Inhabited

namespace LoadedFile

/-- The templates of a file as it is defined there. -/
def template? (file : LoadedFile) (name : String) : Option Template :=
  -- Names are unique within a file.
  file.templates.find? (·.name == name)

/-- The ids of the files imported without an alias, links that close a cycle left out. -/
def references (file : LoadedFile) : List String :=
  -- They come in the order of their imports.
  file.links.filterMap fun link =>
    if link.qualifier.isNone && !link.closesCycle then some link.target else none

/-- The aliases and ids of the files imported with an alias, links that close a cycle left out. -/
def namedReferences (file : LoadedFile) : List (String × String) :=
  -- They come in the order of their imports.
  file.links.filterMap fun link =>
    if link.closesCycle then none else link.qualifier.map fun qualifier => (qualifier, link.target)

/-- The last value of an option, whose key is given in any case and perhaps after an at-sign. -/
def option? (file : LoadedFile) (key : String) : Option String :=
  -- A later line overrides an earlier one.
  let key := lowerText (String.ofList (key.toList.dropWhile (· == '@')))
  ((file.options.filterMap parseOption).filter (·.1 == key)).getLast?.map (·.2)

/-- The evaluation options that a file declares. -/
def evaluationOptions (file : LoadedFile) : Options :=
  -- Other options do not concern evaluation.
  Options.ofLines file.options

/-- The namespace of exported templates: as declared, or the stem of an absolute path. -/
def namespace? (file : LoadedFile) : Option String :=
  -- An empty declaration counts as none.
  match (file.option? "namespace").filter (· != "") with
  | some name => some name
  | none => if isAbsolutePath file.id then fileStem? file.id else none

/-- The names of the templates that a file exports. -/
def exports (file : LoadedFile) : List String :=
  -- They are divided by commas, and empty names do not count.
  match file.option? "exports" with
  | none => []
  | some value =>
    ((splitAt ',' value.toList).map fun part => String.ofList (trimChars part)).filter (· != "")

end LoadedFile

/-- All the files of a load. -/
structure Graph where
  /-- Where the files come from. -/
  resolver : Resolver
  /-- The files, imported ones before their importers. -/
  files : List LoadedFile
  /-- Which of several loads this is. -/
  number : Nat := 0
  deriving Inhabited

namespace Graph

/-- The file with an id. -/
def file? (graph : Graph) (id : String) : Option LoadedFile :=
  -- Each id is loaded once.
  graph.files.find? (·.id == id)

/-- The files visited from one on, after others that have been visited; the latest comes first. -/
def visit (next : String → List String) : Nat → List String → String → List String
  -- Every level below visits another file, so the number of files bounds the depth.
  | 0, visited, _ => visited
  | depth + 1, visited, id =>
    if visited.contains id then visited else (next id).foldl (visit next depth) (id :: visited)

/-- The files reachable from one, each once, in the order in which they are first met. -/
def reachable (graph : Graph) (next : String → List String) (id : String) : List String :=
  -- A file is met before the files it leads to.
  (visit next (graph.files.length + 1) [] id).reverse

end Graph

/-- A file of a load, seen as the root of what it imports. -/
structure Collection where
  /-- The files of the load. -/
  graph : Graph
  /-- The id of the file. -/
  id : String
  /-- The files that nothing holds any more, to which no link leads that closes a cycle. -/
  dropped : List String := []
  deriving Inhabited

namespace Collection

/-- A file of the load, empty if there is none with this id. -/
def fileOf (collection : Collection) (id : String) : LoadedFile :=
  -- All links lead to files of the load.
  (collection.graph.file? id).getD ⟨id, "", [], [], [], [], []⟩

/-- The file itself. -/
def file (collection : Collection) : LoadedFile :=
  -- It is one of the load.
  collection.fileOf collection.id

/-- Another file of the load as a collection. -/
def focus (collection : Collection) (id : String) : Collection :=
  -- The load stays the same.
  { collection with id := id }

/-- Whether a link that closes a cycle still leads to its file. -/
def isLive (collection : Collection) (link : Link) : Bool :=
  -- Such a link does not hold its file.
  link.closesCycle && !collection.dropped.contains link.target

/-- The files whose templates share the names of a file: imports first, links that close a cycle then. -/
def linked (collection : Collection) (id : String) : List String :=
  -- Only links without an alias share names.
  let file := collection.fileOf id
  file.references ++ file.links.filterMap fun link =>
    if link.qualifier.isNone && collection.isLive link then some link.target else none

/-- The files whose templates a file calls by an alias: imports first, links that close a cycle then. -/
def linkedNamed (collection : Collection) (id : String) : List (String × String) :=
  -- Only links with an alias give names.
  let file := collection.fileOf id
  file.namedReferences ++ file.links.filterMap fun link =>
    if collection.isLive link then link.qualifier.map fun qualifier => (qualifier, link.target) else none

/-- The files reachable without an alias, the file itself first. -/
def merged (collection : Collection) : List String :=
  -- The templates of these files share one space of names.
  collection.graph.reachable collection.linked collection.id

/-- Keep the first of several entries with one key. -/
def firstByKey {α : Type} (key : α → String) : List String → List α → List α
  -- The keys kept so far are known.
  | _, [] => []
  | seen, entry :: rest =>
    if seen.contains (key entry) then firstByKey key seen rest
    else entry :: firstByKey key (key entry :: seen) rest

/-- The templates of the file and of all files that share its names; the first of a name wins. -/
def allTemplates (collection : Collection) : List Template :=
  -- The templates of the file itself come first.
  firstByKey (·.name) [] (collection.merged.flatMap fun id => (collection.fileOf id).templates)

/-- The aliases of the file and of all files that share its names; the first of a name wins. -/
def allNamedReferences (collection : Collection) : List (String × String) :=
  -- The aliases of the file itself come first.
  firstByKey (·.1) [] (collection.merged.flatMap collection.linkedNamed)

/-- The findings of the file and of every file it imports, by an alias or not. -/
def allFindings (collection : Collection) : List Finding :=
  -- Each file is counted once.
  let next (id : String) : List String := collection.linked id ++ (collection.linkedNamed id).map (·.2)
  (collection.graph.reachable next collection.id).flatMap fun id => (collection.fileOf id).findings

/-- The findings that bar evaluation. -/
def errors (collection : Collection) : List Finding :=
  -- Warnings do not.
  collection.allFindings.filter Finding.isError

end Collection

end Phrasebook
