import Phrasebook.Proofs.Collection.Held
import Phrasebook.Proofs.Template.Cuts

/-! What is seen from a file of a load is told by its import lines, whichever of them close cycles. -/

namespace Phrasebook

/-- Where elements of two lists correspond, each of either list has one of the other. -/
theorem exists_of_forall₂ {α β : Type} {Same : α → β → Prop} {left : List α} {right : List β}
    (each : List.Forall₂ Same left right) :
    (∀ first ∈ left, ∃ second ∈ right, Same first second) ∧
      ∀ second ∈ right, ∃ first ∈ left, Same first second := by
  induction each with
  | nil => exact ⟨nofun, nofun⟩
  | @cons first second left right same _ ih =>
    refine ⟨List.forall_mem_cons.mpr ⟨⟨second, List.mem_cons_self, same⟩, fun other among => ?_⟩,
      List.forall_mem_cons.mpr ⟨⟨first, List.mem_cons_self, same⟩, fun other among => ?_⟩⟩
    · obtain ⟨found, inside, same⟩ := ih.1 other among
      exact ⟨found, List.mem_cons_of_mem _ inside, same⟩
    · obtain ⟨found, inside, same⟩ := ih.2 other among
      exact ⟨found, List.mem_cons_of_mem _ inside, same⟩

/-- An import leads to one file at most. -/
theorem Import.Reaches.unique {entry : Import} {resolver : Resolver} {source first second : String}
    (reaches : entry.Reaches resolver source first) (reaches' : entry.Reaches resolver source second) : first = second := by
  obtain ⟨content, resolved⟩ := reaches
  obtain ⟨content', resolved'⟩ := reaches'
  rw [resolved] at resolved'
  exact congrArg Resource.id (Except.ok.inj resolved')

/-- A file has a link to another one, with an alias or none, just if one of its imports leads there. -/
theorem LoadedFile.ComesTo.exists_link_iff {file : LoadedFile} {resolver : Resolver} {outcomes : List ImportOutcome}
    (comes : file.ComesTo resolver outcomes) (qualifier : Option String) (target : String) :
    (∃ link ∈ file.links, link.qualifier = qualifier ∧ link.target = target) ↔
      ∃ entry ∈ file.imports, entry.qualifier = qualifier ∧ entry.Reaches resolver file.id target := by
  obtain ⟨forward, backward⟩ := exists_of_forall₂ comes.imports
  rw [comes.links]
  constructor
  · rintro ⟨link, among, rfl, rfl⟩
    obtain ⟨outcome, inside, linked⟩ := List.mem_filterMap.mp among
    obtain ⟨entry, imported, came⟩ := backward outcome inside
    refine ⟨entry, imported, ?_⟩
    cases outcome <;> cases linked <;> exact came
  · rintro ⟨entry, imported, rfl, reaches⟩
    obtain ⟨outcome, inside, came⟩ := forward entry imported
    have linked : ∃ link, outcome.link? = some link ∧ link.qualifier = entry.qualifier ∧ link.target = target := by
      cases outcome with
      | reference other => exact ⟨_, rfl, came.1.symm, came.2.unique reaches⟩
      | namedReference qualifier other => exact ⟨_, rfl, came.1.symm, came.2.unique reaches⟩
      | cycle qualifier other => exact ⟨_, rfl, came.1.symm, came.2.unique reaches⟩
      | failure finding =>
        -- An import that fails leads nowhere.
        obtain ⟨_, error, unresolved, _⟩ := came
        obtain ⟨content, resolved⟩ := reaches
        rw [unresolved] at resolved
        cases resolved
    obtain ⟨link, told, same⟩ := linked
    exact ⟨link, List.mem_filterMap.mpr ⟨outcome, inside, told⟩, same⟩

namespace Graph

variable {graph : Graph} {root : String}

/-- A file of a load has an import, with an alias or none, that leads to another file. -/
def Imports (graph : Graph) (source : String) (qualifier : Option String) (target : String) : Prop :=
  -- What the import has come to does not matter.
  ∃ file ∈ graph.files, file.id = source ∧
    ∃ entry ∈ file.imports, entry.qualifier = qualifier ∧ entry.Reaches graph.resolver source target

/-- One file of a load imports another without an alias. -/
def Merges (graph : Graph) (source target : String) : Prop :=
  -- Their templates share names.
  graph.Imports source none target

/-- One file of a load imports another, with an alias or none. -/
def Uses (graph : Graph) (source target : String) : Prop :=
  -- Their templates may have different names.
  ∃ qualifier, graph.Imports source qualifier target

/-- A file that shares its names with another uses it. -/
theorem Merges.uses {source target : String} (merges : graph.Merges source target) : graph.Uses source target :=
  ⟨none, merges⟩

/-- In a load, the files that are used are among its files. -/
theorem IsSettled.mem_of_uses (settled : graph.IsSettled root) {start target : String} (known : start ∈ graph.files.map (·.id))
    (uses : Relation.ReflTransGen graph.Uses start target) : target ∈ graph.files.map (·.id) := by
  induction uses with
  | refl => exact known
  | tail _ step _ =>
    obtain ⟨qualifier, file, inside, rfl, imported⟩ := step
    obtain ⟨outcomes, comes⟩ := settled.comes file inside
    obtain ⟨link, among, _, rfl⟩ := (comes.exists_link_iff qualifier _).mpr imported
    exact settled.targets file inside link among

end Graph

namespace Collection

variable {collection : Collection} {root : String}

/-- The file of an identifier that a file of a load has is that file. -/
theorem fileOf_of_mem (settled : collection.graph.IsSettled root) {file : LoadedFile}
    (inside : file ∈ collection.graph.files) : collection.fileOf file.id = file := by
  rw [fileOf, Graph.file?_of_mem settled.distinct inside]
  rfl

/-- The links of a file of a load are told by its imports. -/
theorem exists_link_iff (settled : collection.graph.IsSettled root) (source : String) (qualifier : Option String)
    (target : String) : (∃ link ∈ (collection.fileOf source).links, link.qualifier = qualifier ∧ link.target = target) ↔
      collection.graph.Imports source qualifier target := by
  constructor
  · rintro ⟨link, among, told⟩
    cases found : collection.graph.file? source with
    | none => simp [fileOf, found] at among
    | some file =>
      have inside := List.mem_of_find?_eq_some found
      obtain rfl : file.id = source := by simpa using List.find?_some found
      obtain ⟨outcomes, comes⟩ := settled.comes file inside
      rw [fileOf, found] at among
      exact ⟨file, inside, rfl, (comes.exists_link_iff qualifier target).mp ⟨link, among, told⟩⟩
  · rintro ⟨file, inside, rfl, imported⟩
    obtain ⟨outcomes, comes⟩ := settled.comes file inside
    rw [fileOf_of_mem settled inside]
    exact (comes.exists_link_iff qualifier target).mpr imported

/-- While no file is gone, the files that share names with a file are those of its links without an alias. -/
theorem mem_linked_iff (whole : collection.dropped = []) {source target : String} : target ∈ collection.linked source ↔
    ∃ link ∈ (collection.fileOf source).links, link.qualifier = none ∧ link.target = target := by
  have live (link : Link) : collection.isLive link = link.closesCycle := by simp [isLive, whole]
  simp only [linked, LoadedFile.references, live, List.mem_append, List.mem_filterMap, ← exists_or, ← and_or_left]
  refine exists_congr fun link => and_congr_right fun _ => ?_
  cases link.closesCycle <;> cases link.qualifier <;> simp

/-- While no file is gone, the files that a file calls by an alias are those of its links with one. -/
theorem mem_linkedNamed_iff (whole : collection.dropped = []) {source qualifier target : String} :
    (qualifier, target) ∈ collection.linkedNamed source ↔
      ∃ link ∈ (collection.fileOf source).links, link.qualifier = some qualifier ∧ link.target = target := by
  have live (link : Link) : collection.isLive link = link.closesCycle := by simp [isLive, whole]
  simp only [linkedNamed, LoadedFile.namedReferences, live, List.mem_append, List.mem_filterMap, ← exists_or, ← and_or_left]
  refine exists_congr fun link => and_congr_right fun _ => ?_
  cases link.closesCycle <;> cases link.qualifier <;> simp

/-- While the root of a load is held, the files that share names are those that are imported without an alias. -/
theorem leadsTo_linked_iff (settled : collection.graph.IsSettled root) (whole : collection.dropped = []) :
    Graph.LeadsTo collection.linked = collection.graph.Merges := by
  funext source target
  exact propext ((mem_linked_iff whole).trans (exists_link_iff settled source none target))

/-- While the root of a load is held, the files that count for its findings are those that are imported. -/
theorem leadsTo_imported_iff (settled : collection.graph.IsSettled root) (whole : collection.dropped = []) :
    Graph.LeadsTo collection.imported = collection.graph.Uses := by
  funext source target
  have named : target ∈ (collection.linkedNamed source).map (·.2) ↔
      ∃ qualifier, collection.graph.Imports source (some qualifier) target := by
    simp only [List.mem_map, Prod.exists, exists_eq_right, mem_linkedNamed_iff whole, exists_link_iff settled]
  have plain := (mem_linked_iff whole).trans (exists_link_iff settled source none target)
  rw [Graph.LeadsTo, imported, List.mem_append, plain, named, Graph.Uses, Option.exists]

/-- Whether a collection merges the templates of other files behind those of its own file. -/
structure MergesInto (collection : Collection) (file : LoadedFile) (shares : LoadedFile → Prop) : Prop where
  /-- No name has two templates. -/
  distinct : (collection.allTemplates.map (·.name)).Nodup
  /-- A name has a template just if one of the files defines it. -/
  names : ∀ name, name ∈ collection.allTemplates.map (·.name) ↔
    ∃ other, shares other ∧ name ∈ other.templates.map (·.name)
  /-- Every template is defined in one of the files. -/
  defined : ∀ template ∈ collection.allTemplates, ∃ other, shares other ∧ template ∈ other.templates
  /-- A template of the file itself stands for its name. -/
  own : ∀ template ∈ file.templates, collection.allTemplates.find? (·.name == template.name) = some template
  /-- The templates of the file come first, in their order. -/
  first : file.templates <+: collection.allTemplates

/-- While the root of a load is held, a file merges the templates of all that it imports without an alias. -/
theorem IsLoaded.mergesInto (loaded : collection.IsLoaded) (settled : collection.graph.IsSettled root)
    (whole : collection.dropped = []) {file : LoadedFile} (inside : file ∈ collection.graph.files)
    (named : file.id = collection.id) :
    collection.MergesInto file fun other =>
      other ∈ collection.graph.files ∧ Relation.ReflTransGen collection.graph.Merges file.id other.id := by
  have merged (id : String) : id ∈ collection.merged ↔ Relation.ReflTransGen collection.graph.Merges file.id id := by
    rw [Collection.merged, Graph.mem_reachable collection.graph fun _ => linked_eq_nil,
      leadsTo_linked_iff settled whole, named]
  -- Whatever is merged belongs to a file of the load that is imported.
  have origin {template : Template} (listed : template ∈ collection.merged.flatMap fun id => (collection.fileOf id).templates) :
      ∃ other, (other ∈ collection.graph.files ∧ Relation.ReflTransGen collection.graph.Merges file.id other.id) ∧
        template ∈ other.templates := by
    obtain ⟨id, among, defined⟩ := List.mem_flatMap.mp listed
    have uses := Relation.ReflTransGen.mono (fun _ _ step => Graph.Merges.uses step) _ _ ((merged id).mp among)
    obtain ⟨other, known, rfl⟩ := List.mem_map.mp (settled.mem_of_uses (List.mem_map_of_mem inside) uses)
    exact ⟨other, ⟨known, (merged _).mp among⟩, fileOf_of_mem settled known ▸ defined⟩
  have ownNames : (file.templates.map (·.name)).Nodup := by
    rw [(loaded.isOfText (Graph.file?_of_mem settled.distinct inside)).templates]
    exact FileReading.nodup_names file.id _
  obtain ⟨others, files⟩ := Graph.exists_reachable_eq_cons collection.graph collection.id
  have first : file.templates <+: collection.allTemplates := by
    rw [allTemplates, Collection.merged, files, List.flatMap_cons, ← named, fileOf_of_mem settled inside]
    exact prefix_firstByKey ownNames (fun _ _ => List.not_mem_nil) _
  refine ⟨nodup_firstByKey _ _ _, fun name => ?_, fun template listed => origin (mem_of_mem_firstByKey listed),
    fun template defined => find?_of_mem_firstByKey (first.subset defined), first⟩
  rw [allTemplates, mem_keys_firstByKey List.not_mem_nil]
  constructor
  · intro listed
    obtain ⟨template, among, rfl⟩ := List.mem_map.mp listed
    obtain ⟨other, shares, defined⟩ := origin among
    exact ⟨other, shares, List.mem_map_of_mem defined⟩
  · rintro ⟨other, ⟨known, shares⟩, defined⟩
    obtain ⟨template, among, rfl⟩ := List.mem_map.mp defined
    exact List.mem_map_of_mem (List.mem_flatMap.mpr ⟨other.id, (merged _).mpr shares, (fileOf_of_mem settled known).symm ▸ among⟩)

end Collection

/-- A file of a load of a table, seen from a workspace: links to files that nothing holds any more are gone. -/
def Workspace.seen (workspace : Workspace) (resources : ResourceTable) (content root : String) (number : Nat) (id : String) :
    Collection :=
  -- The number tells the load apart from others.
  workspace.refresh (((Collection.load (.table resources) content root).root.numbered number).focus id)

/-- While its root is held, a file of a load is seen with all files, and they are settled. -/
theorem Workspace.seen_eq {workspace : Workspace} (resources : ResourceTable) (content : String) {root : String} {number : Nat}
    (alive : root ∈ workspace.heldDirectly number) (id : String) :
    workspace.seen resources content root number id =
        ((Collection.load (.table resources) content root).root.numbered number).focus id ∧
      (((Collection.load (.table resources) content root).root.numbered number).focus id).graph.IsSettled root := by
  have settled := Collection.isSettled_load resources content root
  have numbered : (((Collection.load (.table resources) content root).root.numbered number).focus id).graph.IsSettled root :=
    ⟨settled.distinct, settled.comes, settled.targets, settled.held⟩
  exact ⟨Workspace.refresh_eq numbered alive rfl, numbered⟩

/--
**The merged view is reachability.**

While the root of a load is held, every file of the load has exactly one template for each name that is defined in a file which it
reaches by imports without an alias: its own templates first, in their order, and for other names one from such a file.
-/
theorem mergesInto_of_load {workspace : Workspace} (resources : ResourceTable) (content : String) {root : String} {number : Nat}
    (alive : root ∈ workspace.heldDirectly number) {file : LoadedFile}
    (loaded : file ∈ (Collection.load (.table resources) content root).root.graph.files) :
    let graph := (Collection.load (.table resources) content root).root.graph
    (∀ target, Relation.ReflTransGen graph.Merges file.id target → ∃ other ∈ graph.files, other.id = target) ∧
      (workspace.seen resources content root number file.id).MergesInto file fun other =>
        other ∈ graph.files ∧ Relation.ReflTransGen graph.Merges file.id other.id := by
  intro graph
  have settled : graph.IsSettled root := Collection.isSettled_load resources content root
  constructor
  · intro target reaches
    have uses := Relation.ReflTransGen.mono (fun _ _ step => Graph.Merges.uses step) _ _ reaches
    exact List.mem_map.mp (settled.mem_of_uses (List.mem_map_of_mem loaded) uses)
  · obtain ⟨whole, settled⟩ := Workspace.seen_eq resources content alive file.id
    rw [whole]
    have loads : (((Collection.load (.table resources) content root).root.numbered number).focus file.id).IsLoaded :=
      ⟨.table resources, content, root, rfl⟩
    exact loads.mergesInto settled rfl loaded rfl

/-- Files that import each other in a circle, one of them with an alias as well. -/
def roundRobin : ResourceTable :=
  -- The file with the alias is in no circle.
  [("a.lg", "[b](b.lg)\n# x\n- a"), ("b.lg", "[a](a.lg)\n[c](c.lg) as c\n# y\n- b"), ("c.lg", "# z\n- c")]

/-- A file that imports the circle and has a name of its own for one of its templates. -/
def roundRobinRoot : String :=
  -- It is in no circle either.
  "[a](a.lg)\n# x\n- root"

/-- A workspace that holds the file. -/
def roundRobinOpen : Workspace :=
  -- It is the first load.
  Workspace.openText ⟨.table roundRobin, {}, [], [], [], 0⟩ "slot" (.table roundRobin) roundRobinRoot "root.lg"

/-- From the file that closes the circle both files of the circle are seen, but neither the root nor the file with the alias. -/
theorem roundRobin_mergesInto :
    let graph := (Collection.load (.table roundRobin) roundRobinRoot "root.lg").root.graph
    let seen := roundRobinOpen.seen roundRobin roundRobinRoot "root.lg" 1 "b.lg"
    "root.lg" ∈ roundRobinOpen.heldDirectly 1 ∧ seen.allTemplates.map (·.name) = ["y", "x"] ∧
      ∃ file ∈ graph.files, file.id = "b.lg" ∧
        seen.MergesInto file fun other => other ∈ graph.files ∧ Relation.ReflTransGen graph.Merges "b.lg" other.id := by
  intro graph seen
  have alive : "root.lg" ∈ roundRobinOpen.heldDirectly 1 := Workspace.mem_heldDirectly_openText _ _ _ _ _
  obtain ⟨file, loaded, named⟩ : ∃ file ∈ graph.files, file.id = "b.lg" := List.mem_map.mp (by decide +kernel)
  have merges := (mergesInto_of_load roundRobin roundRobinRoot alive loaded).2
  rw [named] at merges
  exact ⟨alive, by decide +kernel, file, loaded, named, merges⟩

end Phrasebook
