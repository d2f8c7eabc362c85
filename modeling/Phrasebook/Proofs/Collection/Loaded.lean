import Phrasebook.Evaluation.Environment
import Phrasebook.Proofs.Collection.Reachable
import Phrasebook.Proofs.Template.Files

/-! The templates that can be called from a collection come from the files that it imports, which have been checked. -/

namespace Phrasebook

namespace Collection

variable (collection : Collection)

/-- The files that a file imports, by an alias or not. -/
def imported (id : String) : List String :=
  -- Links that close a cycle count as long as they live.
  collection.linked id ++ (collection.linkedNamed id).map (·.2)

/-- One file of a collection leads to another by imports. -/
def Leads (source target : String) : Prop :=
  -- Any number of imports may lie in between.
  Relation.ReflTransGen (Graph.LeadsTo collection.imported) source target

section FirstByKey

variable {α : Type} {key : α → String} {seen : List String} {entries : List α} {entry : α}

/-- Keeping the first entry of each key adds none. -/
theorem mem_of_mem_firstByKey (inside : entry ∈ firstByKey key seen entries) : entry ∈ entries := by
  induction entries generalizing seen with
  | nil => exact inside
  | cons head rest ih =>
    rw [firstByKey] at inside
    split at inside
    · exact List.mem_cons_of_mem head (ih inside)
    · rcases List.mem_cons.mp inside with rfl | later
      · exact List.mem_cons_self
      · exact List.mem_cons_of_mem head (ih later)

/-- Keeping the first entry of each key does not change which one is found. -/
theorem find?_firstByKey {wanted : String} (new : wanted ∉ seen) :
    (firstByKey key seen entries).find? (key · == wanted) = entries.find? (key · == wanted) := by
  induction entries generalizing seen with
  | nil => rfl
  | cons head rest ih =>
    rw [firstByKey]
    by_cases here : key head = wanted
    · rw [if_neg (by simpa [here] using new)]
      simp [here]
    · split
      · simp [here, ih new]
      · have others : wanted ∉ key head :: seen := by simp [new, Ne.symm here]
        simp [here, ih others]

/-- Entries that are kept have keys that were not there before. -/
theorem key_not_mem_of_mem_firstByKey (inside : entry ∈ firstByKey key seen entries) : key entry ∉ seen := by
  induction entries generalizing seen with
  | nil => cases inside
  | cons head rest ih =>
    rw [firstByKey] at inside
    split at inside
    · exact ih inside
    · rename_i fresh
      rcases List.mem_cons.mp inside with rfl | later
      · simpa using fresh
      · exact fun before => ih later (List.mem_cons_of_mem _ before)

/-- An entry that is kept is the one that its key finds. -/
theorem find?_of_mem_firstByKey (inside : entry ∈ firstByKey key seen entries) :
    (firstByKey key seen entries).find? (key · == key entry) = some entry := by
  induction entries generalizing seen with
  | nil => cases inside
  | cons head rest ih =>
    rw [firstByKey] at inside ⊢
    split at inside
    · rename_i before
      rw [if_pos before]
      exact ih inside
    · rename_i fresh
      rw [if_neg fresh]
      rcases List.mem_cons.mp inside with rfl | later
      · simp
      · have other : key head ≠ key entry := fun same => key_not_mem_of_mem_firstByKey later (same ▸ List.mem_cons_self)
        simpa [other] using ih later

/-- Every key is kept that was not there before. -/
theorem mem_keys_firstByKey {wanted : String} (new : wanted ∉ seen) :
    wanted ∈ (firstByKey key seen entries).map key ↔ wanted ∈ entries.map key := by
  have found (list : List α) : wanted ∈ list.map key ↔ (list.find? (key · == wanted)).isSome = true := by
    simp [List.find?_isSome]
  rw [found, found, find?_firstByKey new]

/-- No key is kept twice. -/
theorem nodup_firstByKey (key : α → String) (seen : List String) (entries : List α) :
    ((firstByKey key seen entries).map key).Nodup := by
  induction entries generalizing seen with
  | nil => exact .nil
  | cons head rest ih =>
    rw [firstByKey]
    split
    · exact ih seen
    · refine List.nodup_cons.mpr ⟨fun again => ?_, ih _⟩
      obtain ⟨entry, inside, same⟩ := List.mem_map.mp again
      exact key_not_mem_of_mem_firstByKey inside (same ▸ List.mem_cons_self)

/-- Entries with different keys are kept in front of all others. -/
theorem prefix_firstByKey {front : List α} (distinct : (front.map key).Nodup) (new : ∀ entry ∈ front, key entry ∉ seen)
    (others : List α) : front <+: firstByKey key seen (front ++ others) := by
  induction front generalizing seen with
  | nil => exact List.nil_prefix
  | cons head rest ih =>
    obtain ⟨single, distinct⟩ := List.nodup_cons.mp distinct
    rw [List.cons_append, firstByKey, if_neg (by simpa using new head List.mem_cons_self)]
    refine List.cons_prefix_cons.mpr ⟨rfl, ih distinct fun entry inside => ?_⟩
    rw [List.mem_cons, not_or]
    exact ⟨fun same => single (same ▸ List.mem_map_of_mem inside), new entry (List.mem_cons_of_mem head inside)⟩

end FirstByKey

variable {collection}

/-- The files that share the names of a file are imported by it. -/
theorem leads_of_mem_merged {id : String} (inside : id ∈ collection.merged) : collection.Leads collection.id id := by
  rw [merged, Graph.reachable, List.mem_reverse] at inside
  rcases Graph.visit_sound _ _ _ _ _ inside with before | leads
  · cases before
  · exact Relation.ReflTransGen.mono (fun source target step => List.mem_append_left _ step) _ _ leads

/-- The templates that share the names of a file come from files that it imports. -/
theorem exists_of_mem_allTemplates {template : Template} (inside : template ∈ collection.allTemplates) :
    ∃ id, collection.Leads collection.id id ∧ template ∈ (collection.fileOf id).templates := by
  obtain ⟨id, among, defined⟩ := List.mem_flatMap.mp (mem_of_mem_firstByKey inside)
  exact ⟨id, leads_of_mem_merged among, defined⟩

/-- The templates that are called by an alias come from files that are imported. -/
theorem exists_of_mem_aliasedTemplates {entry : String × Template} (inside : entry ∈ collection.aliasedTemplates) :
    ∃ id qualifier, collection.Leads collection.id id ∧ entry.2 ∈ (collection.fileOf id).templates ∧
      entry.1 = qualifier ++ "." ++ entry.2.name := by
  obtain ⟨⟨qualifier, target⟩, named, among⟩ := List.mem_flatMap.mp inside
  obtain ⟨template, shared, rfl⟩ := List.mem_map.mp among
  obtain ⟨id, leads, defined⟩ := exists_of_mem_allTemplates shared
  obtain ⟨source, merged, link⟩ := List.mem_flatMap.mp (mem_of_mem_firstByKey named)
  -- The alias leads to a file, whose own imports lead on.
  have step : Graph.LeadsTo collection.imported source target :=
    List.mem_append_right _ (List.mem_map.mpr ⟨(qualifier, target), link, rfl⟩)
  exact ⟨id, qualifier, ((leads_of_mem_merged merged).tail step).trans leads, defined, rfl⟩

/-- Entries of a map into which others were put if their keys were new are among those of both. -/
theorem mem_of_mem_foldl_insertNew {α : Type} {pairs : List (String × α)} {map : SortedMap α} {pair : String × α}
    (inside : pair ∈ pairs.foldl (fun map (key, entry) => SortedMap.insertNew key entry map) map) :
    pair ∈ pairs ∨ pair ∈ map := by
  have one : ∀ (key : String) (entry : α) (map : SortedMap α), pair ∈ SortedMap.insertNew key entry map →
      pair = (key, entry) ∨ pair ∈ map := by
    intro key entry map inside
    induction map with
    | nil => exact .inl (List.mem_singleton.mp inside)
    | cons head rest ih =>
      simp only [SortedMap.insertNew, SortedMap.alter] at inside
      split at inside
      · exact .inr inside
      · split at inside
        · rcases List.mem_cons.mp inside with rfl | later
          · exact .inl rfl
          · exact .inr later
        · rcases List.mem_cons.mp inside with rfl | later
          · exact .inr List.mem_cons_self
          · rcases ih later with new | old
            · exact .inl new
            · exact .inr (List.mem_cons_of_mem _ old)
  induction pairs generalizing map with
  | nil => exact .inr inside
  | cons head rest ih =>
    rcases ih inside with later | before
    · exact .inl (List.mem_cons_of_mem head later)
    · rcases one head.1 head.2 map before with rfl | old
      · exact .inl List.mem_cons_self
      · exact .inr old

/-- A template that can be called is defined in a file that is imported, and its own name ends the name of the call. -/
theorem exists_of_mem_registry {name : String} {template : Template} (inside : (name, template) ∈ collection.registry) :
    ∃ id before, collection.Leads collection.id id ∧ template ∈ (collection.fileOf id).templates ∧
      (name = template.name ∨ name = before ++ "." ++ template.name) := by
  rcases mem_of_mem_foldl_insertNew inside with among | before
  · rcases List.mem_append.mp among with plain | aliased
    · obtain ⟨_, shared, same⟩ := List.mem_map.mp plain
      obtain ⟨rfl, rfl⟩ := Prod.mk.inj same
      obtain ⟨id, leads, defined⟩ := exists_of_mem_allTemplates shared
      exact ⟨id, "", leads, defined, .inl rfl⟩
    · obtain ⟨id, qualifier, leads, defined, named⟩ := exists_of_mem_aliasedTemplates aliased
      exact ⟨id, qualifier, leads, defined, .inr named⟩
  · cases before

/-- A file that is not there imports nothing. -/
theorem imported_eq_nil {id : String} (absent : id ∉ collection.graph.files.map (·.id)) : collection.imported id = [] := by
  have missing := Graph.file?_eq_none absent
  simp [imported, linked, linkedNamed, fileOf, missing, LoadedFile.references, LoadedFile.namedReferences]

/-- A file that is not there shares its names with none. -/
theorem linked_eq_nil {id : String} (absent : id ∉ collection.graph.files.map (·.id)) : collection.linked id = [] :=
  (List.append_eq_nil_iff.mp (imported_eq_nil absent)).1

/-- The findings of a collection are those of the files that it imports, and its own. -/
theorem mem_allFindings_iff {finding : Finding} :
    finding ∈ collection.allFindings ↔ ∃ id, collection.Leads collection.id id ∧ finding ∈ (collection.fileOf id).findings := by
  have reached (id : String) : id ∈ collection.graph.reachable collection.imported collection.id ↔
      collection.Leads collection.id id := Graph.mem_reachable collection.graph fun _ => imported_eq_nil
  exact List.mem_flatMap.trans (exists_congr fun id => and_congr_left fun _ => reached id)

/-- Every file that a collection imports counts for its findings. -/
theorem mem_allFindings {id : String} (leads : collection.Leads collection.id id) {finding : Finding}
    (found : finding ∈ (collection.fileOf id).findings) : finding ∈ collection.allFindings :=
  mem_allFindings_iff.mpr ⟨id, leads, found⟩

end Collection

/-- Whether a file of a load is what its text is read as. -/
structure LoadedFile.IsOfText (file : LoadedFile) : Prop where
  /-- It has the templates of the text. -/
  templates : file.templates = (TemplateFile.parse file.content file.id).templates
  /-- It has the imports of the text. -/
  imports : file.imports = (TemplateFile.parse file.content file.id).imports
  /-- It has the option lines of the text. -/
  options : file.options = (TemplateFile.parse file.content file.id).options
  /-- It keeps what reading the text found. -/
  findings : (TemplateFile.parse file.content file.id).findings ⊆ file.findings
  /-- Each of its links has the alias of an import. -/
  links : ∀ link ∈ file.links, ∃ entry ∈ file.imports, entry.qualifier = link.qualifier

/-- The templates of a file are as reading makes them. -/
theorem LoadedFile.IsOfText.isRead {file : LoadedFile} (read : file.IsOfText) {template : Template}
    (inside : template ∈ file.templates) : template.IsRead :=
  TemplateFile.isRead_of_mem_parse (read.templates ▸ inside)

section Following

variable {resolver : Resolver} {load : Loading → Resource → Option Loading} {ids : List String} {source : String}

/-- Following imports adds nothing but what loading the imported files adds. -/
theorem mem_files_followImports {New : LoadedFile → Prop}
    (loads : ∀ {loading resource later}, load loading resource = some later → resource.id ∉ ids →
      ∀ file ∈ later.files, file ∈ loading.files ∨ New file) (entries : List Import) {following : Following} {file : LoadedFile}
    (inside : file ∈ (entries.foldl (followImport resolver load ids source) following).loading.files) :
    file ∈ following.loading.files ∨ New file := by
  induction entries generalizing following with
  | nil => exact .inl inside
  | cons entry entries later =>
    refine (later inside).elim (fun before => ?_) .inr
    simp only [followImport] at before
    split at before
    · exact .inl before
    · split at before
      · exact .inl before
      · rename_i fresh
        split at before
        · exact .inl before
        · split at before
          · rename_i loaded
            exact loads loaded (by simpa using fresh) file before
          · exact .inl before

/-- Following imports adds links that have the aliases of the imports. -/
theorem mem_links_followImports (entries : List Import) {following : Following} {link : Link}
    (inside : link ∈ (entries.foldl (followImport resolver load ids source) following).links) :
    link ∈ following.links ∨ ∃ entry ∈ entries, entry.qualifier = link.qualifier := by
  induction entries generalizing following with
  | nil => exact .inl inside
  | cons entry entries later =>
    have added {links : List Link} {new : Link} (inside : link ∈ links ++ [new]) (same : entry.qualifier = new.qualifier) :
        link ∈ links ∨ ∃ other ∈ entry :: entries, other.qualifier = link.qualifier := by
      rcases List.mem_append.mp inside with before | here
      · exact .inl before
      · rw [List.mem_singleton.mp here]
        exact .inr ⟨entry, List.mem_cons_self, same⟩
    rcases later inside with before | ⟨other, among, same⟩
    · simp only [followImport] at before
      split at before
      · exact .inl before
      · split at before
        · exact added before rfl
        · split at before
          · exact added before rfl
          · split at before
            · exact added before rfl
            · exact .inl before
    · exact .inr ⟨other, List.mem_cons_of_mem _ among, same⟩

end Following

/-- Loading a file adds files that are what their texts are read as, and none that was being loaded. -/
theorem mem_of_loadFile {resolver : Resolver} {depth : Nat} {ids : List String} {loading later : Loading}
    {resource : Resource} (loads : loadFile resolver depth ids loading resource = some later) (fresh : resource.id ∉ ids) :
    ∀ file ∈ later.files, file ∈ loading.files ∨ file.IsOfText ∧ file.id ∉ ids := by
  induction depth generalizing ids loading later resource with
  | zero => cases loads
  | succ depth deeper =>
    rw [loadFile] at loads
    cases loads
    intro file inside
    rcases List.mem_append.mp inside with earlier | new
    · refine (mem_files_followImports deeper _ earlier).imp id fun new => ⟨new.1, fun among => new.2 ?_⟩
      exact List.mem_cons_of_mem _ among
    · rw [List.mem_singleton.mp new]
      exact .inr ⟨⟨rfl, rfl, rfl, List.subset_append_left _ _, fun link among =>
        (mem_links_followImports _ among).resolve_left List.not_mem_nil⟩, fresh⟩

namespace Collection

/-- Whether the files of a collection are those of a load. -/
def IsLoaded (collection : Collection) : Prop :=
  -- The file itself may be any of them, and links that close a cycle may have died since.
  ∃ resolver content id, collection.graph.files = (load resolver content id).root.graph.files

variable {collection : Collection}

/-- The files of a load have been read and then checked. -/
theorem IsLoaded.exists_check (loaded : collection.IsLoaded) :
    ∃ graph : Graph, (∀ file ∈ graph.files, file.IsOfText) ∧ collection.graph.files = graph.check.files := by
  obtain ⟨resolver, content, id, files⟩ := loaded
  refine ⟨⟨resolver, ((loadFile resolver (resolver.size + 2) [] {} ⟨id, content⟩).getD {}).files, 0⟩, ?_, files⟩
  cases loads : loadFile resolver (resolver.size + 2) [] {} ⟨id, content⟩ with
  | none => exact nofun
  | some loading =>
    exact fun file inside => ((mem_of_loadFile loads List.not_mem_nil file inside).resolve_left List.not_mem_nil).1

/-- A file whose templates are of use is one of the load. -/
theorem file?_of_mem_templates {id : String} {template : Template}
    (defined : template ∈ (collection.fileOf id).templates) :
    collection.graph.file? id = some (collection.fileOf id) := by
  unfold fileOf at defined ⊢
  cases found : collection.graph.file? id with
  | none =>
    rw [found] at defined
    cases defined
  | some file => rfl

/-- A file of a checked load has the templates of one that was read, and the findings of checking their calls. -/
theorem exists_of_file?_check {graph : Graph} {id : String} {file : LoadedFile}
    (files : collection.graph.files = graph.check.files) (found : collection.graph.file? id = some file) :
    ∃ before ∈ graph.files, file = { before with findings := file.findings } ∧ before.findings ⊆ file.findings ∧
      (Collection.mk graph before.id []).file = before ∧
      ∀ finding ∈ (Collection.mk graph before.id []).checkCalls, finding ∈ file.findings := by
  simp only [Graph.file?, files, Graph.check, List.find?_map, Option.map_eq_some_iff] at found
  obtain ⟨before, first, rfl⟩ := found
  have same : before.id = id := by simpa using List.find?_some first
  refine ⟨before, List.mem_of_find?_eq_some first, rfl, ?_, ?_, fun finding inside => List.mem_append_right _ inside⟩
  · exact fun finding found => List.mem_append_left _ (List.mem_append_left _ found)
  -- It is the first file of its id before the check as well.
  have here : graph.files.find? (·.id == before.id) = some before := by
    rw [same]
    exact first
  simp [Collection.file, fileOf, Graph.file?, here]

/-- The files of a load are what their texts are read as. -/
theorem IsLoaded.isOfText (loaded : collection.IsLoaded) {id : String} {file : LoadedFile}
    (found : collection.graph.file? id = some file) : file.IsOfText := by
  obtain ⟨graph, read, files⟩ := loaded.exists_check
  obtain ⟨before, among, same, kept, _⟩ := exists_of_file?_check files found
  have text := read before among
  rw [same]
  exact ⟨text.templates, text.imports, text.options, List.Subset.trans text.findings kept, text.links⟩

/-- The root of a load is what the text is read as. -/
theorem file_load (resolver : Resolver) (content id : String) :
    (load resolver content id).root.file.IsOfText ∧ (load resolver content id).root.file.content = content ∧
      (load resolver content id).root.file.id = id := by
  have loaded : (load resolver content id).root.IsLoaded := ⟨resolver, content, id, rfl⟩
  -- No file in front of the root has its id.
  obtain ⟨before, root, loads, apart, text⟩ : ∃ before root, loadFile resolver (resolver.size + 2) [] {} ⟨id, content⟩ =
      some ⟨before ++ [root], (((TemplateFile.parse content id).imports.foldl (followImport resolver
        (loadFile resolver (resolver.size + 1) [id]) [id] id) { loading := {} }).loading.requests)⟩ ∧
      (∀ file ∈ before, file.id ≠ id) ∧ root.content = content ∧ root.id = id := by
    refine ⟨_, _, rfl, fun file inside => ?_, rfl, rfl⟩
    have new := (mem_files_followImports mem_of_loadFile _ inside).resolve_left List.not_mem_nil
    exact fun same => new.2 (List.mem_singleton.mpr same)
  have found : ∃ checked, (load resolver content id).root.graph.file? id = some checked ∧ checked.content = content ∧
      checked.id = id := by
    have none : before.find? (·.id == id) = none := List.find?_eq_none.mpr fun file inside => by simpa using apart file inside
    simp [load, loads, Graph.file?, Graph.check, List.find?_append, none, Function.comp_def, text.2, text.1]
  obtain ⟨checked, found, same⟩ := found
  have whole : (load resolver content id).root.file = checked := by
    rw [Collection.file, fileOf, show (load resolver content id).root.id = id from rfl, found]
    rfl
  rw [whole]
  exact ⟨loaded.isOfText found, same⟩

/-- The templates of the files of a load are as reading makes them. -/
theorem IsLoaded.isRead (loaded : collection.IsLoaded) {id : String} {template : Template}
    (defined : template ∈ (collection.fileOf id).templates) : template.IsRead :=
  (loaded.isOfText (file?_of_mem_templates defined)).isRead defined

end Collection

/-- A template is called by a name without an exclamation mark at its end. -/
theorem Collection.splitRerun_of_mem_registry {collection : Collection}
    (read : ∀ id, ∀ template ∈ (collection.fileOf id).templates, template.IsRead) {name : String} {template : Template}
    (inside : (name, template) ∈ collection.registry) : splitRerun name = (name, false) := by
  obtain ⟨id, before, _, defined, named⟩ := exists_of_mem_registry inside
  have unmarked := (read id template defined).unmarked
  refine splitRerun_of_getLast? fun last => ?_
  rcases named with rfl | rfl
  · exact unmarked (List.mem_of_getLast? last)
  · -- The dot stands between the alias and the name of the template.
    rw [String.append_assoc, String.toList_append, String.toList_append] at last
    have dotted : (".".toList ++ template.name.toList).getLast? = some '!' := by
      rw [List.getLast?_append_of_ne_nil _ (by simp)] at last
      exact last
    rcases List.mem_append.mp (List.mem_of_getLast? dotted) with dot | marked
    · exact absurd dot (by decide)
    · exact unmarked marked

namespace Collection

/-- Whether two collections have the same imports and templates, file by file. -/
structure SeesLike (first second : Collection) : Prop where
  /-- They are roots of the same id. -/
  id : first.id = second.id
  /-- The same files are gone. -/
  dropped : first.dropped = second.dropped
  /-- They have equally many files. -/
  count : first.graph.files.length = second.graph.files.length
  /-- Files define the same templates. -/
  templates : ∀ id, (first.fileOf id).templates = (second.fileOf id).templates
  /-- Files have the same links. -/
  links : ∀ id, (first.fileOf id).links = (second.fileOf id).links

namespace SeesLike

variable {first second : Collection} (same : first.SeesLike second)

include same

/-- Files import the same files. -/
theorem linked : first.linked = second.linked ∧ first.linkedNamed = second.linkedNamed := by
  constructor <;> funext id <;>
    simp only [Collection.linked, linkedNamed, LoadedFile.references, LoadedFile.namedReferences, isLive, same.links,
      same.dropped] <;> rfl

/-- The same templates share their names. -/
theorem allTemplates : first.allTemplates = second.allTemplates := by
  simp only [Collection.allTemplates, merged, Graph.reachable, same.id, same.count, same.linked, same.templates]

/-- The same files are imported by an alias. -/
theorem allNamedReferences : first.allNamedReferences = second.allNamedReferences := by
  simp only [Collection.allNamedReferences, merged, Graph.reachable, same.id, same.count, same.linked]

/-- Other files of theirs have the same imports and templates as well. -/
theorem focus (id : String) : (first.focus id).SeesLike (second.focus id) :=
  ⟨rfl, same.dropped, same.count, same.templates, same.links⟩

/-- The same templates can be called from them. -/
theorem registry : first.registry = second.registry := by
  simp only [Collection.registry, aliasedTemplates, same.allTemplates, same.allNamedReferences, (same.focus _).allTemplates]

/-- Checking the calls of the file finds the same. -/
theorem checkCalls : first.checkCalls = second.checkCalls := by
  simp only [Collection.checkCalls, same.registry, Collection.file, same.id, same.templates]

end SeesLike

/-- What a file of a collection can call when it is checked: no file of the load has gone yet. -/
def viewFrom (collection : Collection) (id : String) : Collection :=
  ⟨collection.graph, id, []⟩

/-- Checking the files of a load adds findings and nothing else. -/
theorem seesLike_of_check {collection : Collection} {graph : Graph} (files : collection.graph.files = graph.check.files)
    (id : String) : (collection.viewFrom id).SeesLike ⟨graph, id, []⟩ := by
  have kept (other : String) : ((collection.viewFrom id).fileOf other).templates = ((mk graph id []).fileOf other).templates ∧
      ((collection.viewFrom id).fileOf other).links = ((mk graph id []).fileOf other).links := by
    simp only [fileOf, Graph.file?, viewFrom, files, Graph.check, List.find?_map, Function.comp_def]
    cases graph.files.find? (·.id == other) <;> exact ⟨rfl, rfl⟩
  exact ⟨rfl, rfl, by simp [viewFrom, files, Graph.check], fun other => (kept other).1, fun other => (kept other).2⟩

/-- In a collection without errors, every call fits what can be called from the file of its template. -/
theorem IsLoaded.callFault?_eq_none {collection : Collection} (loaded : collection.IsLoaded) (sound : collection.errors = [])
    {id : String} (leads : collection.Leads collection.id id) {template : Template}
    (defined : template ∈ (collection.fileOf id).templates) {embedded : Embedded} (among : embedded ∈ template.expressions)
    {name : String} {args : List Expression} (node : .call name args ∈ embedded.expression.nodes) :
    callFault? (collection.viewFrom id).registry name args = none := by
  obtain ⟨graph, _, files⟩ := loaded.exists_check
  have found := file?_of_mem_templates defined
  obtain ⟨before, _, same, _, first, checked⟩ := exists_of_file?_check files found
  obtain rfl : before.id = id := by
    have named : (collection.fileOf id).id = id := by simpa using List.find?_some found
    rwa [same] at named
  have view := seesLike_of_check files before.id
  rw [view.registry]
  cases fault : callFault? (mk graph before.id []).registry name args with
  | none => rfl
  | some fault' =>
    let finding : Finding := ⟨template.range, .badCall template.name fault', template.source⟩
    have found : finding ∈ (mk graph before.id []).checkCalls := by
      refine List.mem_flatMap.mpr ⟨template, ?_, List.mem_map.mpr ⟨fault', ?_, rfl⟩⟩
      · rw [first]
        rwa [same] at defined
      · exact List.mem_flatMap.mpr ⟨embedded, among, List.mem_filterMap.mpr ⟨_, node, fault⟩⟩
    have error : finding ∈ collection.errors :=
      List.mem_filter.mpr ⟨mem_allFindings leads (checked finding found), rfl⟩
    rw [sound] at error
    cases error

/-- In a collection without errors, a template that is called by a literal name has no exclamation mark in the call. -/
theorem IsLoaded.splitRerun_of_call {collection : Collection} (loaded : collection.IsLoaded)
    (sound : collection.errors = []) {id : String} (leads : collection.Leads collection.id id) {template : Template}
    (defined : template ∈ (collection.fileOf id).templates) {embedded : Embedded}
    (among : embedded ∈ template.expressions) {name target : String} {rest : List Expression}
    (node : .call name (.literal (.str target) :: rest) ∈ embedded.expression.nodes)
    (called : (splitRerun name).1 = "template") : splitRerun target = (target, false) := by
  have fits := loaded.callFault?_eq_none sound leads defined among node
  cases known : (collection.viewFrom id).registry.get? target with
  | none => simp [callFault?, called, known] at fits
  | some callee =>
    have read : ∀ other, ∀ template ∈ ((collection.viewFrom id).fileOf other).templates, template.IsRead :=
      fun _ _ defined => loaded.isRead defined
    exact splitRerun_of_mem_registry read (SortedMap.mem_of_get? known)

end Collection

/-- The environment of a collection alone, without given options, files and registered functions. -/
def Collection.alone (collection : Collection) : Environment :=
  -- The options are those of the file.
  ⟨collection.registry, Options.orElse {} collection.file.evaluationOptions, collection.id, {}, []⟩

/-- The load of a text by itself. -/
def Collection.ofText (content : String) : Collection :=
  -- It can import nothing.
  (Collection.load (.table []) content "").root

/-- A collection without errors can be evaluated alone. -/
theorem Collection.alone_eq {collection : Collection} (sound : collection.errors.length = 0) :
    Environment.of collection {} {} [] = .ok collection.alone := by
  rw [Environment.of, List.eq_nil_of_length_eq_zero sound]
  rfl

/-- The calls that expressions hold. -/
def callsOf (expressions : List Embedded) : List (String × List Expression) :=
  -- Calls inside arguments count as well.
  expressions.flatMap fun embedded => embedded.expression.nodes.filterMap fun node =>
    match node with
    | .call name args => some (name, args)
    | _ => none

/-- A call is held where it stands anywhere in one of the expressions. -/
theorem mem_callsOf_iff {expressions : List Embedded} {name : String} {args : List Expression} :
    (name, args) ∈ callsOf expressions ↔ ∃ embedded ∈ expressions, .call name args ∈ embedded.expression.nodes := by
  simp only [callsOf, List.mem_flatMap, List.mem_filterMap]
  constructor
  · intro ⟨embedded, among, node, inside, given⟩
    split at given <;> cases given
    exact ⟨embedded, among, inside⟩
  · intro ⟨embedded, among, inside⟩
    exact ⟨embedded, among, _, inside, rfl⟩

/-- A result that is there when looked at as an option is that result. -/
theorem eq_ok_of_toOption {ε α : Type} {result : Except ε α} {value : α}
    (given : result.toOption = some value) : result = .ok value := by
  cases result with
  | ok other => exact congrArg Except.ok (Option.some.inj given)
  | error error => cases given

end Phrasebook
