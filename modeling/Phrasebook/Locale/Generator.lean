import Phrasebook.Locale.Selection
import Phrasebook.Evaluation.Evaluate

/-! A generator evaluates templates of localized files, each of which it loads when first needed. -/

namespace Phrasebook

/-- Why nothing is generated. -/
inductive LocaleError where
  /-- No file of this name has a locale in the chain of the requested one. -/
  | noResource (name locale : String)
  /-- The file cannot be loaded. -/
  | load (error : ResolveError)
  /-- The template cannot be evaluated. -/
  | template (error : TemplateError)

/-- The wording of a locale error. -/
def LocaleError.message : LocaleError → String
  -- Errors of loading and evaluation are told as they are.
  | .noResource name locale => "no resource '" ++ name ++ "' for locale '" ++ locale ++ "' or its fallbacks"
  | .load error => error.message
  | .template error => error.message

/-- The files of a locale in the chain of a requested one, or the error that there are none. -/
def selectResources (groups : SortedMap LocaleGroups) (name locale : String) : Except LocaleError (List ResourceId) :=
  -- A name without files has no locales.
  match selectLocale ((groups.get? name).getD []) locale with
  | some resources => .ok resources
  | none => .error (.noResource name locale)

/-- A generator, with what it has loaded so far. -/
structure Generator where
  /-- The locale that is used if none is requested. -/
  defaultLocale : String
  /-- Where files come from. -/
  resolver : Resolver
  /-- The ids of the localized files. -/
  resources : List ResourceId
  /-- The files that templates can include. -/
  files : FileTree := {}
  /-- The collections loaded so far, by id. -/
  cache : List (String × Collection) := []
  /-- The registered functions. -/
  functions : FunctionTable := []
  /-- The requests made so far, in order. -/
  requests : List Request := []

namespace Generator

/-- Add a localized file by its id. -/
def addResource (generator : Generator) (id : String) : Generator :=
  -- It comes after the files that are there.
  { generator with resources := generator.resources ++ [ResourceId.parse id] }

/-- The file of a name for a requested locale. -/
def resolve (generator : Generator) (name : String) (locale : Option String) : Except LocaleError ResourceId :=
  -- Of several files of one locale the first is used.
  let locale := locale.getD generator.defaultLocale
  match selectResources (groupByLocale generator.resources) name locale with
  | .ok (first :: _) => .ok first
  | .ok [] => .error (.noResource name locale)
  | .error error => .error error

/-- The collection of a localized file, which is loaded unless it has been before. -/
def collectionOf (generator : Generator) (resource : ResourceId) : Generator × Except LocaleError Collection :=
  -- A failure is not remembered.
  match generator.cache.find? (·.1 == resource.id) with
  | some (_, collection) => (generator, .ok collection)
  | none =>
    match generator.resolver.resolve "" resource.id with
    | .error error =>
      ({ generator with requests := generator.requests ++ [⟨"", resource.id, none⟩] }, .error (.load error))
    | .ok found =>
      let load := Collection.load generator.resolver found.content found.id
      ({ generator with
          cache := (resource.id, load.root) :: generator.cache
          functions := generator.functions.registerExports load.root
          requests := generator.requests ++ ⟨"", resource.id, some found.id⟩ :: load.requests },
        .ok load.root)

/-- Evaluate a template of the file of a name for a requested locale. -/
def generate (generator : Generator) (name template : String) (locale : Option String) (scope : Scope) :
    Generator × Except LocaleError (Evaluation Value) :=
  -- The options are those of the file.
  match generator.resolve name locale with
  | .error error => (generator, .error error)
  | .ok resource =>
    match generator.collectionOf resource with
    | (generator, .error error) => (generator, .error error)
    | (generator, .ok collection) =>
      (generator,
        match Environment.of collection {} generator.files generator.functions with
        | .error error => .error (.template error)
        | .ok environment => .ok (evaluate environment template scope))

end Generator

end Phrasebook
