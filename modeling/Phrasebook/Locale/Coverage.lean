import Phrasebook.Locale.Selection
import Phrasebook.Resource.FileTree
import Phrasebook.Template.FileReader

/-! Coverage compares localized files with the file of the same name that has no locale. -/

namespace Phrasebook

/-- How far a localized file covers the file without a locale. -/
structure Coverage where
  /-- The name that both files share. -/
  resource : String
  /-- The locale. -/
  locale : String
  /-- The number of templates in the file without a locale. -/
  total : Nat
  /-- The templates that the localized file lacks, sorted. -/
  missing : List String
  deriving DecidableEq, Repr, Inhabited

/-- The number of templates that both files have. -/
def Coverage.translated (coverage : Coverage) : Nat :=
  -- Templates of the localized file alone do not count.
  coverage.total - coverage.missing.length

/-- Whether a localized file lacks anything. -/
def Coverage.isIncomplete (coverage : Coverage) : Bool :=
  -- A file that lacks nothing may still have templates of its own.
  !coverage.missing.isEmpty

/-- Whether a name ends like those of template files. -/
def isTemplateFileName (name : String) : Bool :=
  -- Template files are told by their extension.
  withoutExtension name.toList != name.toList

/-- The template files below a directory, as deep as the bound says, named relative to a directory above. -/
def FileTree.templateFilesWithin (tree : FileTree) : Nat → List String → String → List ResourceId
  -- Directories are searched whatever their names are.
  | 0, _, _ => []
  | depth + 1, directory, above =>
    (tree.children directory).flatMap fun name =>
      let names := directory ++ [name]
      match tree.node? names with
      | some .directory => templateFilesWithin tree depth names (above ++ name ++ "/")
      | some (.file _) => if isTemplateFileName name then [ResourceId.parse (above ++ name)] else []
      | none => []

/-- The template files below a directory, named relative to it. -/
def FileTree.templateFiles (tree : FileTree) (directory : List String) : List ResourceId :=
  -- No path is longer than there are nodes.
  tree.templateFilesWithin (tree.nodes.length + 1) directory ""

/-- The names of the templates that a file of a directory defines, or the fault of the file. -/
def FileTree.templateNames (tree : FileTree) (directory : String) (resource : ResourceId) :
    Except (String × FileFault) (List String) :=
  -- Imports do not count.
  let path := joinPath directory resource.id
  match tree.read path with
  | .error fault => .error (path, fault)
  | .ok content => .ok ((TemplateFile.parse content path).templates.map (·.name))

/-- The coverage of a localized file, given the templates of the file without a locale. -/
def FileTree.coverageOf (tree : FileTree) (directory : String) (expected : List String) (resource : ResourceId) :
    Except (String × FileFault) Coverage :=
  -- The order of templates in a file does not matter.
  (tree.templateNames directory resource).map fun names =>
    let missing := (expected.filter fun name => !names.contains name).mergeSort fun a b => decide (a ≤ b)
    ⟨resource.name, resource.locale, expected.length, missing⟩

/-- The coverage of the files that share a name. -/
def FileTree.coverageOfGroup (tree : FileTree) (directory : String) (locales : LocaleGroups) :
    Except (String × FileFault) (List Coverage) :=
  -- Files whose name has no file without a locale are passed over.
  match locales.get? "" with
  | some (neutral :: _) => do
    let expected ← tree.templateNames directory neutral
    let localized := (locales.filter (·.1 != "")).flatMap (·.2)
    localized.mapM (tree.coverageOf directory expected)
  | _ => .ok []

/-- The coverage of all localized files below a directory, sorted by name and locale. -/
def FileTree.coverage (tree : FileTree) (directory : String) (names : List String) :
    Except (String × FileFault) (List Coverage) := do
  -- A single file that cannot be read spoils the whole.
  let groups := groupByLocale (tree.templateFiles names)
  let coverage ← groups.mapM fun (_, locales) => tree.coverageOfGroup directory locales
  return coverage.flatten

end Phrasebook
