import Phrasebook.Analysis
import Phrasebook.Proofs.Collection.Merged
import Phrasebook.Proofs.Evaluation.Gate

/-! What is found in any file that a file imports bars all that can be done with it, and nothing else does. -/

namespace Phrasebook

/-- The finding of an import, if it fails. -/
def Import.failure? (entry : Import) (resolver : Resolver) (source : String) : Option Finding :=
  -- It stands on the line of the import.
  match resolver.resolve source entry.target with
  | .error error => some ⟨.single entry.line, .failedImport entry.target error, source⟩
  | .ok _ => none

/-- An outcome has a finding just if the import fails. -/
theorem Import.ComesTo.finding?_eq {entry : Import} {resolver : Resolver} {source : String} {outcome : ImportOutcome}
    (comes : entry.ComesTo resolver source outcome) : outcome.finding? = entry.failure? resolver source := by
  -- An import that leads to a file does not fail.
  have reached {target : String} (reaches : entry.Reaches resolver source target) : none = entry.failure? resolver source := by
    obtain ⟨content, resolved⟩ := reaches
    rw [failure?, resolved]
  cases outcome with
  | reference target => exact reached comes.2
  | namedReference qualifier target => exact reached comes.2
  | cycle qualifier target => exact reached comes.2
  | failure finding =>
    obtain ⟨_, error, unresolved, rfl⟩ := comes
    rw [failure?, unresolved]
    rfl

/-- The findings of the outcomes of imports are those of the imports that fail. -/
theorem findings_of_comesTo {resolver : Resolver} {source : String} {entries : List Import} {outcomes : List ImportOutcome}
    (each : List.Forall₂ (fun entry outcome => entry.ComesTo resolver source outcome) entries outcomes) :
    outcomes.filterMap ImportOutcome.finding? = entries.filterMap (·.failure? resolver source) := by
  induction each with
  | nil => rfl
  | cons comes _ same => rw [List.filterMap_cons, List.filterMap_cons, comes.finding?_eq, same]

namespace Collection

variable {collection : Collection} {root : String}

/-- Whether the findings of a collection are those of some files, each taken once. -/
def Gathers (collection : Collection) (counts : LoadedFile → Prop) : Prop :=
  -- The findings of a file stay together.
  ∃ order : List LoadedFile, (order.map (·.id)).Nodup ∧ (∀ other, other ∈ order ↔ counts other) ∧
    collection.allFindings = order.flatMap (·.findings)

/-- While the root of a load is held, a file gathers the findings of all that it imports. -/
theorem gathers_of_isSettled (settled : collection.graph.IsSettled root) (whole : collection.dropped = [])
    (known : collection.id ∈ collection.graph.files.map (·.id)) :
    collection.Gathers fun other =>
      other ∈ collection.graph.files ∧ Relation.ReflTransGen collection.graph.Uses collection.id other.id := by
  have reached (id : String) : id ∈ collection.graph.reachable collection.imported collection.id ↔
      Relation.ReflTransGen collection.graph.Uses collection.id id := by
    rw [Graph.mem_reachable collection.graph fun _ => imported_eq_nil, leadsTo_imported_iff settled whole]
  -- Whatever is reached is a file of the load.
  have file {id : String} (inside : id ∈ collection.graph.reachable collection.imported collection.id) :
      collection.fileOf id ∈ collection.graph.files ∧ (collection.fileOf id).id = id := by
    obtain ⟨other, among, rfl⟩ := List.mem_map.mp (settled.mem_of_uses known ((reached id).mp inside))
    rw [fileOf_of_mem settled among]
    exact ⟨among, rfl⟩
  refine ⟨(collection.graph.reachable collection.imported collection.id).map collection.fileOf, ?_, fun other => ?_, ?_⟩
  · have same : ((collection.graph.reachable collection.imported collection.id).map collection.fileOf).map (·.id) =
        collection.graph.reachable collection.imported collection.id := by
      rw [List.map_map]
      exact (List.map_congr_left fun id inside => (file inside).2).trans (List.map_id _)
    rw [same]
    exact Graph.nodup_reachable collection.graph collection.id
  · constructor
    · intro inside
      obtain ⟨id, among, rfl⟩ := List.mem_map.mp inside
      exact ⟨(file among).1, (file among).2.symm ▸ (reached id).mp among⟩
    · rintro ⟨among, uses⟩
      exact List.mem_map.mpr ⟨other.id, (reached _).mpr uses, fileOf_of_mem settled among⟩
  · rw [List.flatMap_map]
    rfl

/-- Whether a result fails for the findings of a collection just if one of them is an error. -/
structure Bars {α : Type} (collection : Collection) (result : Except TemplateError α) : Prop where
  /-- It fails for findings just if there is an error. -/
  iff : (∃ errors, result = .error (.findings errors)) ↔ ∃ finding ∈ collection.allFindings, finding.isError = true
  /-- Then it tells all errors and nothing else. -/
  told : ∀ errors, result = .error (.findings errors) → errors = collection.allFindings.filter Finding.isError

/-- A result is barred that is the errors of a collection if there are any, and does not tell of findings if there are none. -/
theorem bars_of_errors {α : Type} {result : Except TemplateError α}
    (barred : collection.errors ≠ [] → result = .error (.findings collection.errors))
    (passes : collection.errors = [] → ∀ errors, result ≠ .error (.findings errors)) : collection.Bars result := by
  have found : (∃ finding ∈ collection.allFindings, finding.isError = true) ↔ collection.errors ≠ [] := by
    rw [errors, Ne, List.filter_eq_nil_iff]
    simp
  by_cases sound : collection.errors = []
  · have never := passes sound
    exact ⟨⟨fun ⟨errors, failed⟩ => absurd failed (never errors), fun error => absurd sound (found.mp error)⟩,
      fun errors failed => absurd failed (never errors)⟩
  · have fails := barred sound
    refine ⟨⟨fun _ => found.mpr sound, fun _ => ⟨_, fails⟩⟩, fun errors failed => ?_⟩
    rw [fails] at failed
    exact (TemplateError.findings.inj (Except.error.inj failed)).symm

/-- What is analyzed is barred by errors. -/
theorem bars_analyze (collection : Collection) (name : String) : collection.Bars (collection.analyze name) := by
  refine bars_of_errors (fun barred => ?_) fun sound errors failed => ?_
  · unfold analyze
    split
    · contradiction
    · rfl
  · rw [analyze, sound] at failed
    unfold Registry.analyze at failed
    dsimp only at failed
    split at failed <;> cases failed

/-- A computation that never ends with findings by itself is barred by errors of the collection whose environment it has. -/
theorem bars_of_environment {α : Type} (collection : Collection) (options : Options) (files : FileTree)
    (functions : FunctionTable) {body : Environment → Evaluation α} (passes : ∀ environment, (body environment).PassesGate)
    (stack : CallStack) (picks : List Nat) :
    collection.Bars (Environment.of collection options files functions >>= fun environment =>
      ((body environment).ending stack picks).result) := by
  refine bars_of_errors (fun barred => ?_) fun sound errors failed => ?_
  · unfold Environment.of
    split
    · contradiction
    · rfl
  · rw [Environment.of, sound] at failed
    exact passes _ stack picks errors failed

end Collection

namespace Workspace

/-- What the evaluation of a template comes to, given a collection and options, under some picks. -/
def evaluated (workspace : Workspace) (collection : Collection) (options : Options) (name : String) (scope : Scope)
    (picks : List Nat) : Except TemplateError Value := do
  -- The collection is checked for errors first.
  let environment ← workspace.environment collection options
  (Evaluation.ending (evaluate environment name scope) {} picks).result

/-- What the expansion of a template comes to, given a collection and options, under some picks. -/
def expanded (workspace : Workspace) (collection : Collection) (options : Options) (name : String) (scope : Scope)
    (picks : List Nat) : Except TemplateError (List Value) := do
  -- The collection is checked for errors first.
  let environment ← workspace.environment collection options
  (Evaluation.ending (expand environment name scope) expansionStack picks).result

end Workspace

/--
**The check before evaluation covers all imports.**

While the root of a load is held, every file of the load gathers the findings of each file that it reaches by imports of any kind,
once for each file. They are those of its text, one for each import that fails, and those of its exports and of its calls, which
are checked against all files. Evaluation, expansion and analysis fail for findings just if one of these is an error.
-/
theorem bars_of_load {workspace : Workspace} (resources : ResourceTable) (content : String) {root : String} {number : Nat}
    (alive : root ∈ workspace.heldDirectly number) {file : LoadedFile}
    (loaded : file ∈ (Collection.load (.table resources) content root).root.graph.files) :
    let graph := (Collection.load (.table resources) content root).root.graph
    let seen := workspace.seen resources content root number
    ((seen file.id).Gathers fun other => other ∈ graph.files ∧ Relation.ReflTransGen graph.Uses file.id other.id) ∧
      (∀ target, Relation.ReflTransGen graph.Uses file.id target → ∃ other ∈ graph.files, other.id = target) ∧
      (∀ other ∈ graph.files, other.findings = (TemplateFile.parse other.content other.id).findings ++
        other.imports.filterMap (·.failure? (.table resources) other.id) ++ other.checkExports ++ (seen other.id).checkCalls) ∧
      ∀ options name scope picks,
        (seen file.id).Bars (workspace.evaluated (seen file.id) options name scope picks) ∧
          (seen file.id).Bars (workspace.expanded (seen file.id) options name scope picks) ∧
          (seen file.id).Bars ((seen file.id).analyze name) := by
  intro graph seen
  have settled : graph.IsSettled root := Collection.isSettled_load resources content root
  have known : file.id ∈ graph.files.map (·.id) := List.mem_map_of_mem loaded
  refine ⟨?_, fun target uses => List.mem_map.mp (settled.mem_of_uses known uses), fun other inside => ?_,
    fun options name scope picks => ⟨?_, ?_, Collection.bars_analyze _ name⟩⟩
  · obtain ⟨whole, settled⟩ := Workspace.seen_eq resources content alive file.id
    show (workspace.seen resources content root number file.id).Gathers _
    rw [whole]
    exact Collection.gathers_of_isSettled settled rfl known
  · obtain ⟨read, loading, loads⟩ := exists_loads resources ⟨root, content⟩
    have files : graph.files = (Graph.check { resolver := .table resources, files := loading.files }).files := by
      rw [show graph = _ from congrArg (·.root.graph) loads.load_eq]
    obtain ⟨outcomes, comes, findings⟩ := loads.comesTo_check files inside
    have view : (seen other.id).SeesLike ((Collection.load (.table resources) content root).root.viewFrom other.id) := by
      show (workspace.seen resources content root number other.id).SeesLike _
      rw [(Workspace.seen_eq resources content alive other.id).1]
      exact ⟨rfl, rfl, rfl, fun _ => rfl, fun _ => rfl⟩
    rw [view.checkCalls, ← findings_of_comesTo comes.imports]
    exact findings
  · exact Collection.bars_of_environment _ options workspace.files workspace.currentFunctions
      (fun environment => (passesGate_within environment.depthLimit environment name scope).1) {} picks
  · exact Collection.bars_of_environment _ options workspace.files workspace.currentFunctions
      (fun environment => (passesGate_within environment.depthLimit environment name scope).2) expansionStack picks

/-- Two files that import each other, one of them by an alias, which also imports a file that is missing. -/
def frayed : ResourceTable :=
  -- The first file has no errors of its own.
  [("a.lg", "[b](b.lg) as b\n# x\n- a"), ("b.lg", "[a](a.lg)\n[gone](gone.lg)\n# y\n- b")]

/-- A workspace that holds a file which imports the two. -/
def frayedOpen : Workspace :=
  -- It is the first load.
  Workspace.openText ⟨.table frayed, {}, [], [], [], 0⟩ "slot" (.table frayed) "[a](a.lg)" "root.lg"

/-- The missing file bars the evaluation of templates in the file that imports the other one by its alias. -/
theorem frayed_bars :
    let graph := (Collection.load (.table frayed) "[a](a.lg)" "root.lg").root.graph
    let seen := frayedOpen.seen frayed "[a](a.lg)" "root.lg" 1
    "root.lg" ∈ frayedOpen.heldDirectly 1 ∧ ((seen "a.lg").allFindings.map (·.isError)) = [true] ∧
      (∃ file ∈ graph.files, file.id = "a.lg" ∧ file.findings.length = 0) ∧
      ∀ options scope picks, ∃ errors,
        frayedOpen.evaluated (seen "a.lg") options "x" scope picks = .error (.findings errors) := by
  intro graph seen
  have alive : "root.lg" ∈ frayedOpen.heldDirectly 1 := Workspace.mem_heldDirectly_openText _ _ _ _ _
  obtain ⟨file, loaded, named, clean⟩ : ∃ file ∈ graph.files, file.id = "a.lg" ∧ file.findings.length = 0 := by
    decide +kernel
  have found : ((seen "a.lg").allFindings.map (·.isError)) = [true] := by decide +kernel
  refine ⟨alive, found, ⟨file, loaded, named, clean⟩, fun options scope picks => ?_⟩
  have bars := (bars_of_load frayed "[a](a.lg)" alive loaded).2.2.2 options "x" scope picks
  rw [named] at bars
  obtain ⟨finding, inside, error⟩ := List.mem_map.mp (found ▸ List.mem_singleton_self true)
  exact bars.1.iff.mpr ⟨finding, inside, error⟩

end Phrasebook
