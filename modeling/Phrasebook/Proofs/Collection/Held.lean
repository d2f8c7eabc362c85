import Phrasebook.Proofs.Collection.Loading
import Phrasebook.Workspace

/-! The files of a load are held by its root: as long as the root is held, no link leads to a file that is gone. -/

namespace Phrasebook

/-- One file of a list holds another. -/
def HoldsIn (files : List LoadedFile) (source target : String) : Prop :=
  -- A link that closes a cycle holds nothing.
  ∃ file ∈ files, file.id = source ∧ target ∈ file.heldTargets

/-- What files hold they hold among more files as well. -/
theorem reaches_of_subset {files more : List LoadedFile} (among : files ⊆ more) {source target : String}
    (holds : Relation.ReflTransGen (HoldsIn files) source target) : Relation.ReflTransGen (HoldsIn more) source target :=
  Relation.ReflTransGen.mono (fun _ _ ⟨file, inside, step⟩ => ⟨file, among inside, step⟩) _ _ holds

/-- A file holds the files to which its links lead that close no cycle. -/
theorem Following.holdsIn_of_link {following : Following} {resource : Resource} {files : List LoadedFile}
    (inside : following.file resource ∈ files) {link : Link} (among : link ∈ following.links) (holds : link.closesCycle = false) :
    HoldsIn files resource.id link.target := by
  refine ⟨following.file resource, inside, rfl, List.mem_map_of_mem (List.mem_filter.mpr ⟨among, ?_⟩)⟩
  simp [holds]

section FollowsImports

variable {resolver : Resolver} {ids : List String} {source : String} {following next last : Following} {entry : Import}
  {entries : List Import} {read : List String}

/-- A run loses no files. -/
theorem FollowsImports.files_subset (follows : FollowsImports resolver ids source following entries read last) :
    following.loading.files ⊆ last.loading.files := by
  obtain ⟨new, files, _⟩ := follows.exists_files
  rw [files]
  exact List.subset_append_left _ _

/-- A run loses no links. -/
theorem FollowsImports.links_subset (follows : FollowsImports resolver ids source following entries read last) :
    following.links ⊆ last.links := by
  obtain ⟨outcomes, _, links, _⟩ := follows.exists_outcomes
  rw [links]
  exact List.subset_append_left _ _

/-- Every file that a run adds is held through one of the links that it adds. -/
theorem FollowsImports.exists_held (follows : FollowsImports resolver ids source following entries read last)
    {file : LoadedFile} (inside : file ∈ last.loading.files) : file ∈ following.loading.files ∨
      ∃ link ∈ last.links, link.closesCycle = false ∧
        Relation.ReflTransGen (HoldsIn last.loading.files) link.target file.id := by
  induction follows with
  | done => exact .inl inside
  | atOnce step rest ih => rw [← step.loading_eq.1]; exact ih inside
  | @loads ids source following inner last entry entries resource within read _ _ _ followed rest within_ih ih =>
    rcases ih inside with before | new
    · -- The file of the import has a link, and holds all that is loaded before it is there itself.
      have here : inner.file resource ∈ last.loading.files :=
        rest.files_subset (inner.file_mem_close resource)
      have linked : (⟨entry.qualifier, resource.id, false⟩ : Link) ∈ last.links :=
        rest.links_subset (List.mem_append_right _ (List.mem_singleton_self _))
      have kept : inner.loading.files ⊆ last.loading.files :=
        fun _ inside => rest.files_subset (List.mem_append_left _ inside)
      rcases Following.mem_close.mp before with earlier | rfl
      · rcases within_ih earlier with old | ⟨link, among, holds, reaches⟩
        · exact .inl old
        · have first := Following.holdsIn_of_link here among holds
          exact .inr ⟨_, linked, rfl, .head first (reaches_of_subset kept reaches)⟩
      · exact .inr ⟨_, linked, rfl, .refl⟩
    · exact .inr new

/-- The links that a run adds lead to files that are being loaded or have been, and so do those of the files that it adds. -/
theorem FollowsImports.target_mem (follows : FollowsImports resolver ids source following entries read last) :
    (∀ link ∈ last.links, link ∈ following.links ∨ link.target ∈ ids ∨ link.target ∈ last.loading.files.map (·.id)) ∧
      ∀ file ∈ last.loading.files, file ∈ following.loading.files ∨
        ∀ link ∈ file.links, link.target ∈ ids ∨ link.target ∈ last.loading.files.map (·.id) := by
  induction follows with
  | done => exact ⟨fun _ inside => .inl inside, fun _ inside => .inl inside⟩
  | @atOnce ids source following next last entry entries read step rest ih =>
    obtain ⟨links, files⟩ := ih
    obtain ⟨outcome, _, added, _, settled⟩ := step.exists_outcome
    have kept := List.map_subset (·.id) rest.files_subset
    rw [step.loading_eq.1] at kept files
    refine ⟨fun link inside => ?_, files⟩
    rcases links link inside with before | told
    · rw [added, List.mem_append, Option.mem_toList] at before
      exact before.imp id fun new => (settled link new).imp id fun known => kept known
    · exact .inr told
  | @loads ids source following inner last entry entries resource within read _ _ _ followed rest within_ih ih =>
    obtain ⟨links₁, files₁⟩ := within_ih
    obtain ⟨links₂, files₂⟩ := ih
    have here : resource.id ∈ last.loading.files.map (·.id) :=
      List.mem_map.mpr ⟨_, rest.files_subset (inner.file_mem_close resource), rfl⟩
    have kept : inner.loading.files.map (·.id) ⊆ last.loading.files.map (·.id) :=
      List.map_subset _ fun _ inside => rest.files_subset (List.mem_append_left _ inside)
    -- The file itself is loaded by now, and no longer being loaded.
    have settled {target : String} (told : target ∈ resource.id :: ids ∨ target ∈ inner.loading.files.map (·.id)) :
        target ∈ ids ∨ target ∈ last.loading.files.map (·.id) := by
      rcases told with loading | loaded
      · rcases List.mem_cons.mp loading with rfl | outer
        · exact .inr here
        · exact .inl outer
      · exact .inr (kept loaded)
    constructor
    · intro link inside
      rcases links₂ link inside with before | told
      · rcases List.mem_append.mp before with old | new
        · exact .inl old
        · rw [List.mem_singleton.mp new]
          exact .inr (.inr here)
      · exact .inr told
    · intro file inside
      rcases files₂ file inside with before | told
      · rcases Following.mem_close.mp before with earlier | rfl
        · exact (files₁ file earlier).imp id fun told link among => settled (told link among)
        · exact .inr fun link among => settled ((links₁ link among).resolve_left List.not_mem_nil)
      · exact .inr told

end FollowsImports

namespace Loads

variable {resolver : Resolver} {root : Resource} {read : List String} {loading : Loading}

/-- Every file of a load is held by the root. -/
theorem reaches_of_mem (loads : Loads resolver root read loading) {file : LoadedFile} (inside : file ∈ loading.files) :
    Relation.ReflTransGen (HoldsIn loading.files) root.id file.id := by
  cases loads with
  | @root within last follows =>
    rcases Following.mem_close.mp inside with earlier | rfl
    · obtain ⟨link, among, holds, reaches⟩ := (follows.exists_held earlier).resolve_left List.not_mem_nil
      have first := Following.holdsIn_of_link (last.file_mem_close root) among holds
      exact .head first (reaches_of_subset (List.subset_append_left _ _) reaches)
    · exact .refl

/-- Every link of a load leads to one of its files. -/
theorem target_mem (loads : Loads resolver root read loading) {file : LoadedFile} (inside : file ∈ loading.files) {link : Link}
    (among : link ∈ file.links) : link.target ∈ loading.files.map (·.id) := by
  cases loads with
  | @root within last follows =>
    obtain ⟨links, files⟩ := follows.target_mem
    have settled (told : link.target ∈ [root.id] ∨ link.target ∈ last.loading.files.map (·.id)) :
        link.target ∈ (last.close root).files.map (·.id) := by
      rw [last.ids_close, List.mem_append]
      exact told.symm
    rcases Following.mem_close.mp inside with earlier | rfl
    · exact settled ((files file earlier).resolve_left List.not_mem_nil link among)
    · exact settled ((links link among).resolve_left List.not_mem_nil)

end Loads

/-- What holds of the files of a load with a root. -/
structure Graph.IsSettled (graph : Graph) (root : String) : Prop where
  /-- Each file has an id of its own. -/
  distinct : (graph.files.map (·.id)).Nodup
  /-- The imports of every file come to something. -/
  comes : ∀ file ∈ graph.files, ∃ outcomes, file.ComesTo graph.resolver outcomes
  /-- Every link leads to a file. -/
  targets : ∀ file ∈ graph.files, ∀ link ∈ file.links, link.target ∈ graph.files.map (·.id)
  /-- Every file is held by the root. -/
  held : ∀ file ∈ graph.files, Relation.ReflTransGen (HoldsIn graph.files) root file.id

/-- The files of a load of a table are settled. -/
theorem Collection.isSettled_load (resources : ResourceTable) (content id : String) :
    (load (.table resources) content id).root.graph.IsSettled id := by
  obtain ⟨read, loading, loads⟩ := exists_loads resources ⟨id, content⟩
  have same : load (.table resources) content id = _ := loads.load_eq
  rw [same]
  have names : ((Graph.check { resolver := .table resources, files := loading.files }).files.map (·.id)) =
      loading.files.map (·.id) := by
    simp [Graph.check, Function.comp_def]
  refine ⟨?_, fun file inside => ?_, fun file inside link among => ?_, fun file inside => ?_⟩
  · rw [names]
    exact loads.nodup_files
  · have checked : (Collection.mk (Graph.check { resolver := .table resources, files := loading.files }) id []).graph.files = _ :=
      rfl
    obtain ⟨outcomes, comes, _⟩ := loads.comesTo_check checked inside
    exact ⟨outcomes, comes⟩
  · obtain ⟨before, earlier, rfl⟩ := List.mem_map.mp inside
    rw [names]
    exact loads.target_mem earlier among
  · obtain ⟨before, earlier, rfl⟩ := List.mem_map.mp inside
    -- Checking a file does not change what it holds.
    have reaches : Relation.ReflTransGen (HoldsIn loading.files) id before.id := loads.reaches_of_mem earlier
    refine Relation.ReflTransGen.mono ?_ _ _ reaches
    rintro source target ⟨holder, among, named, holds⟩
    exact ⟨_, List.mem_map.mpr ⟨holder, among, rfl⟩, named, holds⟩

/-- The root of a load that is told apart from other loads by a number. -/
def Collection.numbered (collection : Collection) (number : Nat) : Collection :=
  { collection with graph := { collection.graph with number := number } }

namespace Workspace

variable {workspace : Workspace}

/-- While the root of a load is held, none of its files is gone. -/
theorem refresh_eq {collection : Collection} {root : String} (settled : collection.graph.IsSettled root)
    (alive : root ∈ workspace.heldDirectly collection.graph.number) (whole : collection.dropped = []) :
    workspace.refresh collection = collection := by
  have kept : (collection.graph.files.map (·.id)).filter (fun id =>
      !(collection.graph.heldFrom (workspace.heldDirectly collection.graph.number)).contains id) = [] := by
    refine List.filter_eq_nil_iff.mpr fun id inside => ?_
    obtain ⟨file, among, rfl⟩ := List.mem_map.mp inside
    have reached : file.id ∈ collection.graph.heldFrom (workspace.heldDirectly collection.graph.number) := by
      refine Graph.mem_foldl_visit collection.graph (fun id absent => ?_) alive ?_
      · rw [Graph.file?_eq_none absent]
        rfl
      · refine Relation.ReflTransGen.mono ?_ _ _ (settled.held file among)
        rintro source target ⟨holder, inside, rfl, holds⟩
        rw [Graph.LeadsTo, Graph.file?_of_mem settled.distinct inside]
        exact holds
    simp [reached]
  rw [refresh]
  simp only [kept, ← whole]

/-- A load that is opened in a slot is held by it. -/
theorem mem_heldDirectly_openText (workspace : Workspace) (slot : String) (resolver : Resolver) (content id : String) :
    id ∈ (workspace.openText slot resolver content id).heldDirectly (workspace.loads + 1) := by
  simp [heldDirectly, openText, put, Collection.load]

end Workspace

end Phrasebook
