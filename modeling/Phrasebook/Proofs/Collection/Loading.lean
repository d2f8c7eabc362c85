import Phrasebook.Proofs.Collection.Loaded

/-! Loading ends, however files import each other: it reads each of them once and resolves each of their imports once. -/

namespace Phrasebook

/-- The request that an import makes. -/
def Import.request (entry : Import) (resolver : Resolver) (source : String) : Request :=
  -- A failed request is one as well.
  ⟨source, entry.target, (resolver.resolve source entry.target).toOption.map (·.id)⟩

namespace Following

/-- Note the request that an import makes. -/
def ask (following : Following) (resolver : Resolver) (source : String) (entry : Import) : Following :=
  -- The resolver is asked before anything else.
  following.request source entry.target (entry.request resolver source).resolved

/-- The file whose imports have been followed. -/
def file (following : Following) (resource : Resource) : LoadedFile :=
  -- What is wrong with its imports comes behind what is wrong with its text.
  let file := TemplateFile.parse resource.content resource.id
  ⟨resource.id, resource.content, file.templates, file.imports, file.options, following.links,
    file.findings ++ following.findings⟩

/-- The load once the imports of a file have been followed. -/
def close (following : Following) (resource : Resource) : Loading :=
  -- The files that it imports are there already.
  { following.loading with files := following.loading.files ++ [following.file resource] }

/-- The files are those that were loaded before and the file itself. -/
theorem mem_close {following : Following} {resource : Resource} {file : LoadedFile} :
    file ∈ (following.close resource).files ↔ file ∈ following.loading.files ∨ file = following.file resource := by
  rw [close, List.mem_append, List.mem_singleton]

/-- The file itself is loaded then. -/
theorem file_mem_close (following : Following) (resource : Resource) :
    following.file resource ∈ (following.close resource).files :=
  mem_close.mpr (.inr rfl)

/-- The id of the file comes behind those of the files that were loaded before. -/
theorem ids_close (following : Following) (resource : Resource) :
    (following.close resource).files.map (·.id) = following.loading.files.map (·.id) ++ [resource.id] :=
  List.map_append

end Following

/-- An import that is followed without loading a file. -/
inductive FollowsAtOnce (resolver : Resolver) (ids : List String) (source : String) (following : Following) (entry : Import) :
    Following → Prop where
  /-- An import that cannot be resolved is a finding. -/
  | failed {error : ResolveError} (unresolved : resolver.resolve source entry.target = .error error) :
    FollowsAtOnce resolver ids source following entry
      ((following.ask resolver source entry).fail entry source (.failedImport entry.target error))
  /-- A file that is still being loaded closes a cycle. -/
  | closing {resource : Resource} (resolved : resolver.resolve source entry.target = .ok resource)
    (loading : resource.id ∈ ids) :
    FollowsAtOnce resolver ids source following entry ((following.ask resolver source entry).link entry resource.id true)
  /-- A file that has been loaded is shared. -/
  | shared {resource : Resource} (resolved : resolver.resolve source entry.target = .ok resource) (fresh : resource.id ∉ ids)
    (known : resource.id ∈ following.loading.files.map (·.id)) :
    FollowsAtOnce resolver ids source following entry ((following.ask resolver source entry).link entry resource.id false)

/--
A run over the imports of a file, given the files that are still being loaded.

It tells which files are read in turn, and nothing bounds how deep it may lead.
-/
inductive FollowsImports (resolver : Resolver) :
    List String → String → Following → List Import → List String → Following → Prop where
  /-- Nothing is left to follow. -/
  | done {ids : List String} {source : String} {following : Following} :
    FollowsImports resolver ids source following [] [] following
  /-- No file has to be loaded for the next import. -/
  | atOnce {ids : List String} {source : String} {following next last : Following} {entry : Import} {entries : List Import}
    {read : List String} (step : FollowsAtOnce resolver ids source following entry next)
    (rest : FollowsImports resolver ids source next entries read last) :
    FollowsImports resolver ids source following (entry :: entries) read last
  /-- The file of the next import is read, and its own imports are followed before those that are left. -/
  | loads {ids : List String} {source : String} {following inner last : Following} {entry : Import} {entries : List Import}
    {resource : Resource} {within read : List String} (resolved : resolver.resolve source entry.target = .ok resource)
    (fresh : resource.id ∉ ids) (new : resource.id ∉ following.loading.files.map (·.id))
    (inside : FollowsImports resolver (resource.id :: ids) resource.id
      { loading := (following.ask resolver source entry).loading }
      (TemplateFile.parse resource.content resource.id).imports within inner)
    (rest : FollowsImports resolver ids source
      ({ following.ask resolver source entry with loading := inner.close resource }.link entry resource.id false)
      entries read last) :
    FollowsImports resolver ids source following (entry :: entries) (resource.id :: within ++ read) last

/-- A run that loads a text and everything that it imports, with the files that are read in turn. -/
inductive Loads (resolver : Resolver) (root : Resource) : List String → Loading → Prop where
  /-- The text is read, and then its imports are followed. -/
  | root {within : List String} {last : Following} (follows : FollowsImports resolver [root.id] root.id { loading := {} }
      (TemplateFile.parse root.content root.id).imports within last) : Loads resolver root (root.id :: within) (last.close root)

/-- The requests that the imports of a file make. -/
def LoadedFile.asks (file : LoadedFile) (resolver : Resolver) : List Request :=
  -- Each of them makes one.
  file.imports.map (·.request resolver file.id)

/-- What an import comes to. -/
inductive ImportOutcome where
  /-- A file whose templates share the names of the importer. -/
  | reference (target : String)
  /-- A file whose templates are called by an alias. -/
  | namedReference (qualifier target : String)
  /-- A file that was still being loaded, with or without an alias. -/
  | cycle (qualifier : Option String) (target : String)
  /-- A finding instead of a file. -/
  | failure (finding : Finding)

namespace ImportOutcome

/-- The link of an import. -/
def link? : ImportOutcome → Option Link
  -- A failed import has none.
  | .reference target => some ⟨none, target, false⟩
  | .namedReference qualifier target => some ⟨some qualifier, target, false⟩
  | .cycle qualifier target => some ⟨qualifier, target, true⟩
  | .failure _ => none

/-- The file of an import without an alias. -/
def reference? : ImportOutcome → Option String
  -- Cycles are kept apart.
  | .reference target => some target
  | _ => none

/-- The alias of an import and its file. -/
def namedReference? : ImportOutcome → Option (String × String)
  -- Cycles are kept apart.
  | .namedReference qualifier target => some (qualifier, target)
  | _ => none

/-- The link of an import that closes a cycle. -/
def cycle? : ImportOutcome → Option Link
  -- It may have an alias or none.
  | .cycle qualifier target => some ⟨qualifier, target, true⟩
  | _ => none

/-- The finding of an import. -/
def finding? : ImportOutcome → Option Finding
  -- Only a failed import has one.
  | .failure finding => some finding
  | _ => none

end ImportOutcome

/-- Whether an import leads to a file. -/
def Import.Reaches (entry : Import) (resolver : Resolver) (source target : String) : Prop :=
  -- The file may have any text.
  ∃ content, resolver.resolve source entry.target = .ok ⟨target, content⟩

/-- Whether an import of a file can come to an outcome. -/
def Import.ComesTo (entry : Import) (resolver : Resolver) (source : String) : ImportOutcome → Prop
  -- The alias decides between two of them, and a finding is an error on the line of the import.
  | .reference target => entry.qualifier = none ∧ entry.Reaches resolver source target
  | .namedReference qualifier target => entry.qualifier = some qualifier ∧ entry.Reaches resolver source target
  | .cycle qualifier target => entry.qualifier = qualifier ∧ entry.Reaches resolver source target
  | .failure finding => finding.isError = true ∧ ∃ error, resolver.resolve source entry.target = .error error ∧
      finding = ⟨.single entry.line, .failedImport entry.target error, source⟩

/-- Whether the imports of a file come to outcomes, one for each in turn, and its links are those of the outcomes. -/
structure LoadedFile.ComesTo (file : LoadedFile) (resolver : Resolver) (outcomes : List ImportOutcome) : Prop where
  /-- The imports are those of the text. -/
  lines : file.imports = (TemplateFile.parse file.content file.id).imports
  /-- Each import has an outcome of its own. -/
  imports : List.Forall₂ (fun entry outcome => entry.ComesTo resolver file.id outcome) file.imports outcomes
  /-- The links are those of the outcomes. -/
  links : file.links = outcomes.filterMap ImportOutcome.link?
  /-- The files imported without an alias are those of the outcomes. -/
  references : file.references = outcomes.filterMap ImportOutcome.reference?
  /-- The files imported by an alias are those of the outcomes. -/
  namedReferences : file.namedReferences = outcomes.filterMap ImportOutcome.namedReference?
  /-- The links that close a cycle are those of the outcomes. -/
  cycles : file.links.filter (·.closesCycle) = outcomes.filterMap ImportOutcome.cycle?

variable {resolver : Resolver} {ids keys : List String} {source : String} {following next last : Following} {entry : Import}
  {entries : List Import} {read : List String}

/-- The request of an import that can be resolved tells the file. -/
theorem Following.ask_of_ok {resource : Resource} (resolved : resolver.resolve source entry.target = .ok resource) :
    following.ask resolver source entry = following.request source entry.target (some resource.id) := by
  simp [ask, Import.request, Except.toOption, resolved]

/-- The request of an import that cannot be resolved tells no file. -/
theorem Following.ask_of_error {error : ResolveError} (unresolved : resolver.resolve source entry.target = .error error) :
    following.ask resolver source entry = following.request source entry.target none := by
  simp [ask, Import.request, Except.toOption, unresolved]

/-- Where nothing has to be loaded, following an import does what the run says. -/
theorem FollowsAtOnce.followImport_eq (step : FollowsAtOnce resolver ids source following entry next)
    (load : Loading → Resource → Option Loading) : followImport resolver load ids source following entry = next := by
  cases step with
  | failed unresolved => simp [followImport, Following.ask_of_error, unresolved]
  | closing resolved loading => simp [followImport, Following.ask_of_ok resolved, resolved, loading]
  | @shared resource resolved fresh known =>
    have there : (following.request source entry.target (some resource.id)).loading.files.any (·.id == resource.id) := by
      simpa [Following.request] using known
    simp [followImport, Following.ask_of_ok resolved, resolved, fresh, there]

/-- What a run over imports says is what following them does, if files may be loaded at a depth that not all files fill. -/
theorem FollowsImports.foldl_eq
    (known : ∀ source target resource, resolver.resolve source target = .ok resource → resource.id ∈ keys)
    (follows : FollowsImports resolver ids source following entries read last) {depth : Nat}
    (deep : (Graph.unvisited keys ids).length ≤ depth) :
    entries.foldl (followImport resolver (loadFile resolver depth ids) ids source) following = last := by
  induction follows generalizing depth with
  | done => rfl
  | atOnce step rest ih => rw [List.foldl_cons, step.followImport_eq, ih deep]
  | @loads ids source following inner last entry entries resource within read resolved fresh new inside rest within_ih ih =>
    -- The file has not been visited, so that a level is left for it.
    have fewer := Graph.length_unvisited_cons_lt (known _ _ _ resolved) fresh
    obtain ⟨depth, rfl⟩ : ∃ lower, depth = lower + 1 := ⟨depth - 1, by omega⟩
    have loaded : loadFile resolver (depth + 1) ids (following.ask resolver source entry).loading resource =
        some (inner.close resource) := by
      rw [loadFile, within_ih (by omega)]
      rfl
    have absent : ¬(following.request source entry.target (some resource.id)).loading.files.any (·.id == resource.id) := by
      simpa [Following.request] using new
    rw [Following.ask_of_ok resolved] at loaded ih
    rw [List.foldl_cons, ← ih deep]
    congr 1
    simp [followImport, resolved, fresh, absent, loaded]

/-- Every list of imports has a run, since each file that is loaded leaves fewer to load. -/
theorem exists_follows
    (known : ∀ source target resource, resolver.resolve source target = .ok resource → resource.id ∈ keys)
    (ids : List String) (source : String) (following : Following) (entries : List Import) :
    ∃ read last, FollowsImports resolver ids source following entries read last := by
  induction left : (Graph.unvisited keys ids).length using Nat.strongRecOn generalizing ids source following entries with
  | _ left deeper =>
    subst left
    induction entries generalizing following with
    | nil => exact ⟨[], following, .done⟩
    | cons entry entries later =>
      cases resolved : resolver.resolve source entry.target with
      | error error =>
        obtain ⟨read, last, rest⟩ := later
          ((following.ask resolver source entry).fail entry source (.failedImport entry.target error))
        exact ⟨read, last, .atOnce (.failed resolved) rest⟩
      | ok resource =>
        by_cases loading : resource.id ∈ ids
        · obtain ⟨read, last, rest⟩ := later ((following.ask resolver source entry).link entry resource.id true)
          exact ⟨read, last, .atOnce (.closing resolved loading) rest⟩
        by_cases there : resource.id ∈ following.loading.files.map (·.id)
        · obtain ⟨read, last, rest⟩ := later ((following.ask resolver source entry).link entry resource.id false)
          exact ⟨read, last, .atOnce (.shared resolved loading there) rest⟩
        · obtain ⟨within, inner, inside⟩ := deeper _ (Graph.length_unvisited_cons_lt (known _ _ _ resolved) loading)
            (resource.id :: ids) resource.id { loading := (following.ask resolver source entry).loading }
            (TemplateFile.parse resource.content resource.id).imports rfl
          obtain ⟨read, last, rest⟩ := later
            ({ following.ask resolver source entry with loading := inner.close resource }.link entry resource.id false)
          exact ⟨_, last, .loads resolved loading there inside rest⟩

/-- Following an import at once loads nothing, and makes its request. -/
theorem FollowsAtOnce.loading_eq (step : FollowsAtOnce resolver ids source following entry next) :
    next.loading.files = following.loading.files ∧
      next.loading.requests = following.loading.requests ++ [entry.request resolver source] := by
  cases step <;> exact ⟨rfl, rfl⟩

/-- A run adds the files that are read, and makes a request for each import of its own and of theirs. -/
theorem FollowsImports.exists_files (follows : FollowsImports resolver ids source following entries read last) :
    ∃ new, last.loading.files = following.loading.files ++ new ∧ (new.map (·.id)).Perm read ∧
      last.loading.requests.Perm (following.loading.requests ++
        (entries.map (·.request resolver source) ++ new.flatMap (·.asks resolver))) := by
  induction follows with
  | done => exact ⟨[], by simp⟩
  | atOnce step rest ih =>
    obtain ⟨new, files, names, requests⟩ := ih
    obtain ⟨sameFiles, asked⟩ := step.loading_eq
    refine ⟨new, by rw [files, sameFiles], names, ?_⟩
    rw [asked] at requests
    simpa using requests
  | @loads ids source following inner last entry entries resource within read _ _ _ _ _ within_ih ih =>
    obtain ⟨new₁, files₁, names₁, requests₁⟩ := within_ih
    obtain ⟨new₂, files₂, names₂, requests₂⟩ := ih
    refine ⟨new₁ ++ inner.file resource :: new₂, ?_, ?_, ?_⟩
    · rw [files₂]
      show inner.loading.files ++ [inner.file resource] ++ new₂ = _
      rw [files₁]
      simp [Following.ask, Following.request]
    · rw [List.map_append, List.map_cons]
      exact List.perm_middle.trans (.cons _ (names₁.append names₂))
    · -- The same requests stand on both sides, only in another order.
      refine List.perm_iff_count.mpr fun request => ?_
      have within := List.perm_iff_count.mp requests₁ request
      have later : last.loading.requests.count request = _ := List.perm_iff_count.mp requests₂ request
      simp only [Following.link, Following.close, Following.ask, Following.request, Following.file, LoadedFile.asks,
        List.count_append, List.count_cons, List.count_nil, List.map_cons, List.flatMap_append,
        List.flatMap_cons] at within later ⊢
      rw [show (⟨source, entry.target, (entry.request resolver source).resolved⟩ : Request) = entry.request resolver source
        from rfl] at within
      omega

/-- A run keeps the files apart from each other and from those that are being loaded. -/
theorem FollowsImports.nodup_files (follows : FollowsImports resolver ids source following entries read last)
    (distinct : (following.loading.files.map (·.id)).Nodup)
    (apart : ∀ id ∈ ids, id ∉ following.loading.files.map (·.id)) :
    (last.loading.files.map (·.id)).Nodup ∧ ∀ id ∈ ids, id ∉ last.loading.files.map (·.id) := by
  induction follows with
  | done => exact ⟨distinct, apart⟩
  | atOnce step rest ih =>
    rw [step.loading_eq.1] at ih
    exact ih distinct apart
  | @loads ids source following inner last entry entries resource within read _ fresh new _ _ within_ih ih =>
    obtain ⟨distinct₁, apart₁⟩ := within_ih distinct fun id among => by
      rcases List.mem_cons.mp among with rfl | outer
      · exact new
      · exact apart id outer
    -- The file comes behind all that it imports, none of which is the file itself.
    refine ih ?_ fun id among => ?_
    · show ((inner.close resource).files.map (·.id)).Nodup
      rw [inner.ids_close, List.nodup_append_comm]
      exact List.nodup_cons.mpr ⟨apart₁ _ List.mem_cons_self, distinct₁⟩
    · show id ∉ (inner.close resource).files.map (·.id)
      rw [inner.ids_close, List.mem_append, not_or, List.mem_singleton]
      exact ⟨apart₁ id (List.mem_cons_of_mem _ among), fun same => fresh (same ▸ among)⟩

/-- An import that leads to a file has an outcome with a link that closes no cycle, according to its alias. -/
theorem Import.Reaches.exists_outcome {target : String} (reaches : entry.Reaches resolver source target) :
    ∃ outcome, entry.ComesTo resolver source outcome ∧ outcome.link? = some ⟨entry.qualifier, target, false⟩ ∧
      outcome.finding? = none := by
  cases named : entry.qualifier with
  | none => exact ⟨.reference target, ⟨named, reaches⟩, rfl, rfl⟩
  | some qualifier => exact ⟨.namedReference qualifier target, ⟨named, reaches⟩, rfl, rfl⟩

/-- What an import comes to at once is added, and its link leads to a file that is being loaded or has been. -/
theorem FollowsAtOnce.exists_outcome (step : FollowsAtOnce resolver ids source following entry next) :
    ∃ outcome, entry.ComesTo resolver source outcome ∧ next.links = following.links ++ outcome.link?.toList ∧
      next.findings = following.findings ++ outcome.finding?.toList ∧
      ∀ link ∈ outcome.link?, link.target ∈ ids ∨ link.target ∈ following.loading.files.map (·.id) := by
  cases step with
  | failed unresolved => exact ⟨.failure _, ⟨rfl, _, unresolved, rfl⟩, (List.append_nil _).symm, rfl, nofun⟩
  | @closing resource resolved loading =>
    refine ⟨.cycle _ _, ⟨rfl, _, resolved⟩, rfl, (List.append_nil _).symm, ?_⟩
    rintro _ ⟨⟩
    exact .inl loading
  | @shared resource resolved fresh known =>
    have reaches : entry.Reaches resolver source resource.id := ⟨_, resolved⟩
    obtain ⟨outcome, comes, link, finding⟩ := reaches.exists_outcome
    refine ⟨outcome, comes, by rw [link]; rfl, by rw [finding]; exact (List.append_nil _).symm, ?_⟩
    rw [link]
    rintro _ ⟨⟩
    exact .inr known

/-- Each import of a run comes to an outcome, and the links and findings of the outcomes are added in turn. -/
theorem FollowsImports.exists_outcomes (follows : FollowsImports resolver ids source following entries read last) :
    ∃ outcomes, List.Forall₂ (fun entry outcome => entry.ComesTo resolver source outcome) entries outcomes ∧
      last.links = following.links ++ outcomes.filterMap ImportOutcome.link? ∧
      last.findings = following.findings ++ outcomes.filterMap ImportOutcome.finding? := by
  induction follows with
  | done => exact ⟨[], .nil, by simp, by simp⟩
  | atOnce step rest ih =>
    obtain ⟨outcomes, each, links, findings⟩ := ih
    obtain ⟨outcome, comes, link, finding, _⟩ := step.exists_outcome
    refine ⟨outcome :: outcomes, .cons comes each, ?_, ?_⟩
    · rw [links, link, List.append_assoc]
      cases told : outcome.link? <;> simp [told]
    · rw [findings, finding, List.append_assoc]
      cases told : outcome.finding? <;> simp [told]
  | @loads ids source following inner last entry entries resource within read resolved _ _ _ _ _ ih =>
    obtain ⟨outcomes, each, links, findings⟩ := ih
    have reaches : entry.Reaches resolver source resource.id := ⟨_, resolved⟩
    obtain ⟨outcome, comes, link, finding⟩ := reaches.exists_outcome
    refine ⟨outcome :: outcomes, .cons comes each, ?_, ?_⟩
    · rw [links, List.filterMap_cons, link]
      simp [Following.link, Following.ask, Following.request]
    · rw [findings, List.filterMap_cons, finding]
      rfl

/-- The file whose imports have been followed has the outcomes of the run. -/
theorem Following.comesTo_file {resource : Resource} {outcomes : List ImportOutcome}
    (each : List.Forall₂ (fun entry outcome => entry.ComesTo resolver resource.id outcome)
      (TemplateFile.parse resource.content resource.id).imports outcomes)
    (links : last.links = outcomes.filterMap ImportOutcome.link?) : (last.file resource).ComesTo resolver outcomes := by
  -- Every link tells its outcome.
  refine ⟨rfl, each, links, ?_, ?_, ?_⟩
  · simp only [LoadedFile.references, file, links, List.filterMap_filterMap]
    refine List.filterMap_congr fun outcome _ => ?_
    cases outcome <;> simp [ImportOutcome.link?, ImportOutcome.reference?]
  · simp only [LoadedFile.namedReferences, file, links, List.filterMap_filterMap]
    refine List.filterMap_congr fun outcome _ => ?_
    cases outcome <;> rfl
  · simp only [file, links, ← List.filterMap_eq_filter, List.filterMap_filterMap]
    refine List.filterMap_congr fun outcome _ => ?_
    cases outcome <;> rfl

/-- Every file that a run adds has outcomes of its imports, and their findings come behind those of its text. -/
theorem FollowsImports.comesTo (follows : FollowsImports resolver ids source following entries read last) {file : LoadedFile}
    (inside : file ∈ last.loading.files) : file ∈ following.loading.files ∨ ∃ outcomes, file.ComesTo resolver outcomes ∧
      file.findings = (TemplateFile.parse file.content file.id).findings ++ outcomes.filterMap ImportOutcome.finding? := by
  induction follows with
  | done => exact .inl inside
  | atOnce step rest ih => rw [← step.loading_eq.1]; exact ih inside
  | @loads ids source following inner last entry entries resource within read _ _ _ followed _ within_ih ih =>
    rcases ih inside with before | new
    · rcases Following.mem_close.mp before with earlier | rfl
      · exact within_ih earlier
      · obtain ⟨outcomes, each, links, findings⟩ := followed.exists_outcomes
        exact .inr ⟨outcomes, Following.comesTo_file each links, congrArg _ findings⟩
    · exact .inr new

namespace Loads

variable {root : Resource} {loading : Loading}

/-- The files of a load are those that are read, and each of their imports has made one request. -/
theorem perm_files (loads : Loads resolver root read loading) : (loading.files.map (·.id)).Perm read ∧
    loading.requests.Perm (loading.files.flatMap (·.asks resolver)) := by
  cases loads with
  | @root within last follows =>
    obtain ⟨new, files, names, requests⟩ := follows.exists_files
    have whole : (last.close root).files = new ++ [last.file root] := congrArg (· ++ [last.file root]) files
    rw [whole]
    refine ⟨?_, ?_⟩
    · rw [List.map_append]
      exact List.perm_append_comm.trans (.cons _ names)
    · rw [List.flatMap_append, List.flatMap_singleton]
      rw [List.nil_append] at requests
      exact requests.trans List.perm_append_comm

/-- No two files of a load have the same id. -/
theorem nodup_files (loads : Loads resolver root read loading) : (loading.files.map (·.id)).Nodup := by
  cases loads with
  | @root within last follows =>
    obtain ⟨distinct, apart⟩ := follows.nodup_files .nil fun _ _ => List.not_mem_nil
    rw [last.ids_close, List.nodup_append_comm]
    exact List.nodup_cons.mpr ⟨apart _ List.mem_cons_self, distinct⟩

/-- Every file of a load has outcomes of its imports, and their findings come behind those of its text. -/
theorem comesTo (loads : Loads resolver root read loading) {file : LoadedFile} (inside : file ∈ loading.files) :
    ∃ outcomes, file.ComesTo resolver outcomes ∧
      file.findings = (TemplateFile.parse file.content file.id).findings ++ outcomes.filterMap ImportOutcome.finding? := by
  cases loads with
  | @root within last follows =>
    rcases Following.mem_close.mp inside with earlier | rfl
    · exact (follows.comesTo earlier).resolve_left List.not_mem_nil
    · obtain ⟨outcomes, each, links, findings⟩ := follows.exists_outcomes
      exact ⟨outcomes, Following.comesTo_file each links, congrArg _ findings⟩

end Loads

/-- What a table of texts gives has one of its ids. -/
theorem ResourceTable.mem_keys_of_resolve {resources : ResourceTable} {source target : String} {resource : Resource}
    (resolved : (Resolver.table resources).resolve source target = .ok resource) : resource.id ∈ resources.map (·.1) := by
  simp only [Resolver.resolve, ResourceTable.resolve] at resolved
  split at resolved
  · rename_i found
    cases resolved
    exact SortedMap.mem_keys_of_get? found
  · split at resolved
    · rename_i found
      cases resolved
      exact SortedMap.mem_keys_of_get? found
    · cases resolved

section Table

variable {resources : ResourceTable} {root : Resource} {loading : Loading}

/-- Whatever the texts of a table import, a load of them ends. -/
theorem exists_loads (resources : ResourceTable) (root : Resource) :
    ∃ read loading, Loads (.table resources) root read loading := by
  obtain ⟨within, last, follows⟩ := exists_follows (fun _ _ _ => ResourceTable.mem_keys_of_resolve) [root.id] root.id
    { loading := {} } (TemplateFile.parse root.content root.id).imports
  exact ⟨_, _, .root follows⟩

/-- A depth that the files of the table cannot fill does not cut a load off. -/
theorem Loads.loadFile_eq (loads : Loads (.table resources) root read loading) {depth : Nat} (deep : resources.length < depth) :
    loadFile (.table resources) depth [] {} root = some loading := by
  cases loads with
  | root follows =>
    obtain ⟨depth, rfl⟩ : ∃ lower, depth = lower + 1 := ⟨depth - 1, by omega⟩
    have enough : (Graph.unvisited (resources.map (·.1)) [root.id]).length ≤ depth := by
      have all := List.length_filter_le (fun id => !([root.id] : List String).contains id) (resources.map (·.1))
      rw [List.length_map] at all
      exact all.trans (Nat.le_of_lt_succ deep)
    rw [loadFile, follows.foldl_eq (fun _ _ _ => ResourceTable.mem_keys_of_resolve) enough]
    rfl

/-- A load of a table has the files of the run, checked, and its requests. -/
theorem Loads.load_eq (loads : Loads (.table resources) root read loading) :
    Collection.load (.table resources) root.content root.id =
      ⟨⟨Graph.check { resolver := .table resources, files := loading.files }, root.id, []⟩, loading.requests⟩ := by
  have deep : resources.length < (Resolver.table resources).size + 2 := by
    show resources.length < resources.length + 2
    omega
  rw [Collection.load, loads.loadFile_eq deep]
  rfl

/-- Every file of a checked load has outcomes of its imports, and the findings of its text, of the outcomes and of the checks. -/
theorem Loads.comesTo_check (loads : Loads (.table resources) root read loading) {collection : Collection}
    (files : collection.graph.files = (Graph.check { resolver := .table resources, files := loading.files }).files)
    {file : LoadedFile} (inside : file ∈ collection.graph.files) :
    ∃ outcomes, file.ComesTo (.table resources) outcomes ∧
      file.findings = (TemplateFile.parse file.content file.id).findings ++ outcomes.filterMap ImportOutcome.finding? ++
        file.checkExports ++ (collection.viewFrom file.id).checkCalls := by
  have view := Collection.seesLike_of_check files
  rw [files] at inside
  obtain ⟨before, among, rfl⟩ := List.mem_map.mp inside
  obtain ⟨outcomes, comes, findings⟩ := loads.comesTo among
  refine ⟨outcomes, ⟨comes.lines, comes.imports, comes.links, comes.references, comes.namedReferences, comes.cycles⟩, ?_⟩
  rw [(view before.id).checkCalls, ← findings]
  rfl

end Table

/--
**A load reads each file once.**

However the texts of a table import each other, loading one of them or another text with their help ends, at whatever depth
it leads to: no file is read twice, every import of a file that is loaded makes one request, and it comes to exactly one of
four things.
-/
theorem load_reads_once (resources : ResourceTable) (content id : String) :
    (∃ read loading, Loads (.table resources) ⟨id, content⟩ read loading) ∧
      ∀ read loading, Loads (.table resources) ⟨id, content⟩ read loading →
        (∀ depth, resources.length < depth → loadFile (.table resources) depth [] {} ⟨id, content⟩ = some loading) ∧
        Collection.load (.table resources) content id =
          ⟨⟨Graph.check { resolver := .table resources, files := loading.files }, id, []⟩, loading.requests⟩ ∧
        read.Nodup ∧
        let load := Collection.load (.table resources) content id
        (load.root.graph.files.map (·.id)).Perm read ∧
          load.requests.Perm (load.root.graph.files.flatMap (·.asks (.table resources))) ∧
          ∀ file ∈ load.root.graph.files, ∃ outcomes, file.ComesTo (.table resources) outcomes ∧
            file.findings = (TemplateFile.parse file.content file.id).findings ++ outcomes.filterMap ImportOutcome.finding? ++
              file.checkExports ++ (load.root.viewFrom file.id).checkCalls := by
  refine ⟨exists_loads resources ⟨id, content⟩, fun read loading loads => ?_⟩
  refine ⟨fun depth => loads.loadFile_eq, loads.load_eq, loads.perm_files.1.nodup loads.nodup_files, ?_⟩
  obtain ⟨names, requests⟩ := loads.perm_files
  have same : Collection.load (.table resources) content id = _ := loads.load_eq
  simp only [same]
  refine ⟨?_, ?_, fun file inside => loads.comesTo_check rfl inside⟩
  · simpa [Graph.check, Function.comp_def] using names
  · simpa [Graph.check, List.flatMap_map, LoadedFile.asks] using requests

example : (Collection.load (.table [("a.lg", "[b](b.lg)"), ("b.lg", "[a](a.lg)\n[b](b.lg)\n[gone](gone.lg)")])
    "[a](a.lg)\n[a](a.lg) as a" "root.lg").requests.length = 6 := by
  -- There are two imports in the root, one in the first file and three in the second.
  decide +kernel

end Phrasebook
