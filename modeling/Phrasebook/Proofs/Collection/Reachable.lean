import Mathlib.Data.List.Nodup
import Mathlib.Logic.Relation
import Phrasebook.Collection.Basic

/-! The files reachable in a load are exactly those to which links lead. -/

namespace Phrasebook

namespace Graph

/-- One file leads to another directly. -/
def LeadsTo (next : String → List String) (source target : String) : Prop :=
  -- The target is one of those listed.
  target ∈ next source

/-- No file is found by an id that none of them has. -/
theorem file?_eq_none {graph : Graph} {id : String} (absent : id ∉ graph.files.map (·.id)) : graph.file? id = none := by
  refine List.find?_eq_none.mpr fun file among same => absent ?_
  exact List.mem_map.mpr ⟨file, among, by simpa using same⟩

/-- A file is found by its id if no other one has it. -/
theorem file?_of_mem {graph : Graph} (distinct : (graph.files.map (·.id)).Nodup) {file : LoadedFile}
    (inside : file ∈ graph.files) : graph.file? file.id = some file := by
  cases found : graph.file? file.id with
  | none =>
    have other := List.find?_eq_none.mp found file inside
    simp at other
  | some other =>
    have same : other.id = file.id := by simpa using List.find?_some found
    rw [List.inj_on_of_nodup_map distinct (List.mem_of_find?_eq_some found) inside same]

/-- The ids that have not been visited. -/
def unvisited (ids visited : List String) : List String :=
  -- Their number bounds how many more files can be visited.
  ids.filter fun id => !visited.contains id

/-- The more ids have been visited, the fewer are left. -/
theorem length_unvisited_le {ids visited later : List String} (more : visited ⊆ later) :
    (unvisited ids later).length ≤ (unvisited ids visited).length := by
  -- What is left later was left before.
  refine (List.monotone_filter_right ids fun id left => ?_).length_le
  simp only [Bool.not_eq_true', List.contains_eq_mem, decide_eq_false_iff_not] at left ⊢
  exact fun before => left (more before)

/-- Visiting one more id leaves fewer. -/
theorem length_unvisited_cons_lt {ids visited : List String} {id : String} (known : id ∈ ids) (new : id ∉ visited) :
    (unvisited ids (id :: visited)).length < (unvisited ids visited).length := by
  have before : id ∈ unvisited ids visited := by
    simp [unvisited, known, new]
  have after : unvisited ids (id :: visited) = (unvisited ids visited).filter (· != id) := by
    simp only [unvisited, List.filter_filter]
    refine List.filter_congr fun other _ => ?_
    by_cases same : other = id <;> simp [same]
  rw [after]
  -- The id itself is among those that are dropped.
  refine Nat.lt_of_le_of_ne (List.length_filter_le _ _) fun equal => ?_
  have kept := List.length_filter_eq_length_iff.mp equal id before
  simp at kept

/-- Steps that put files in front of those that have been visited do so when they are taken one after the other. -/
theorem suffix_foldl {step : List String → String → List String} (kept : ∀ visited id, visited <:+ step visited id)
    (ids visited : List String) : visited <:+ ids.foldl step visited := by
  induction ids generalizing visited with
  | nil => exact List.suffix_refl visited
  | cons head rest ih => exact (kept visited head).trans (ih _)

variable (next : String → List String)

/-- What has been visited stays visited, behind all that is visited later. -/
theorem suffix_visit (depth : Nat) (visited : List String) (id : String) : visited <:+ visit next depth visited id := by
  induction depth generalizing visited id with
  | zero => exact List.suffix_refl visited
  | succ depth kept =>
    rw [visit]
    split
    · exact List.suffix_refl visited
    · exact (List.suffix_cons id visited).trans (suffix_foldl kept _ _)

/-- Only files are visited to which links lead. -/
theorem visit_sound (depth : Nat) (visited : List String) (id found : String)
    (inside : found ∈ visit next depth visited id) :
    found ∈ visited ∨ Relation.ReflTransGen (LeadsTo next) id found := by
  induction depth generalizing visited id with
  | zero => exact .inl inside
  | succ depth sound =>
    -- Each file that is visited in turn is led to by one of the list.
    have fold : ∀ (ids visited : List String), found ∈ ids.foldl (visit next depth) visited →
        found ∈ visited ∨ ∃ start ∈ ids, Relation.ReflTransGen (LeadsTo next) start found := by
      intro ids
      induction ids with
      | nil => exact fun _ inside => .inl inside
      | cons head rest ih =>
        intro visited inside
        rcases ih _ inside with earlier | ⟨start, among, leads⟩
        · rcases sound visited head earlier with before | leads
          · exact .inl before
          · exact .inr ⟨head, List.mem_cons_self, leads⟩
        · exact .inr ⟨start, List.mem_cons_of_mem head among, leads⟩
    rw [visit] at inside
    split at inside
    · exact .inl inside
    · rcases fold _ _ inside with here | ⟨start, among, leads⟩
      · rcases List.mem_cons.mp here with rfl | before
        · exact .inr .refl
        · exact .inl before
      · exact .inr (.head among leads)

/-- Whether a visit has reached a file, and everything that files newly visited lead to. -/
structure Completes (id : String) (visited later : List String) : Prop where
  /-- The file has been visited. -/
  reached : id ∈ later
  /-- So has all to which files lead that were not visited before. -/
  closed : ∀ found ∈ later, found ∈ visited ∨ ∀ target ∈ next found, target ∈ later

/-- Visits that reach everything do so when they are made one after the other. -/
theorem foldl_complete {ids : List String} {depth : Nat}
    (complete : ∀ visited id, (unvisited ids visited).length < depth → Completes next id visited (visit next depth visited id))
    (starts visited : List String) (deep : (unvisited ids visited).length < depth) :
    (∀ start ∈ starts, start ∈ starts.foldl (visit next depth) visited) ∧
      ∀ found ∈ starts.foldl (visit next depth) visited,
        found ∈ visited ∨ ∀ target ∈ next found, target ∈ starts.foldl (visit next depth) visited := by
  induction starts generalizing visited with
  | nil => exact ⟨nofun, fun found inside => .inl inside⟩
  | cons head rest ih =>
    have first := complete visited head deep
    have kept := (suffix_visit next depth visited head).subset
    have deeper : (unvisited ids (visit next depth visited head)).length < depth :=
      Nat.lt_of_le_of_lt (length_unvisited_le kept) deep
    obtain ⟨others, closed⟩ := ih _ deeper
    -- What the first visit reaches is not lost by the later ones.
    have later := (suffix_foldl (suffix_visit next depth) rest (visit next depth visited head)).subset
    refine ⟨fun start among => ?_, fun found inside => ?_⟩
    · rcases List.mem_cons.mp among with rfl | among
      · exact later first.reached
      · exact others start among
    · rcases closed found inside with earlier | targets
      · rcases first.closed found earlier with before | targets
        · exact .inl before
        · exact .inr fun target among => later (targets target among)
      · exact .inr targets

/-- A visit that is deep enough reaches the file itself, and everything that files newly visited lead to. -/
theorem visit_complete {ids : List String} (leaves : ∀ id, id ∉ ids → next id = []) (depth : Nat)
    (visited : List String) (id : String) (deep : (unvisited ids visited).length < depth) :
    Completes next id visited (visit next depth visited id) := by
  induction depth generalizing visited id with
  | zero => omega
  | succ depth complete =>
    rw [visit]
    by_cases seen : visited.contains id = true
    · rw [if_pos seen]
      exact ⟨by simpa using seen, fun found inside => .inl inside⟩
    · rw [if_neg seen]
      have new : id ∉ visited := by simpa using seen
      by_cases known : id ∈ ids
      · have fewer := length_unvisited_cons_lt known new
        obtain ⟨targets, closed⟩ := foldl_complete next complete (next id) (id :: visited) (by omega)
        refine ⟨?_, fun found inside => ?_⟩
        · exact (suffix_foldl (suffix_visit next depth) _ _).subset List.mem_cons_self
        · rcases closed found inside with here | among
          · rcases List.mem_cons.mp here with rfl | before
            · exact .inr targets
            · exact .inl before
          · exact .inr among
      · -- Such a file leads nowhere.
        rw [leaves id known, List.foldl_nil]
        refine ⟨List.mem_cons_self, fun found inside => ?_⟩
        rcases List.mem_cons.mp inside with rfl | before
        · exact .inr (by simp [leaves _ known])
        · exact .inl before

variable {next}

/-- The file itself is the first that is reached. -/
theorem exists_reachable_eq_cons (graph : Graph) (id : String) : ∃ others, graph.reachable next id = id :: others := by
  have last : [id] <:+ visit next (graph.files.length + 1) [] id := suffix_foldl (suffix_visit next _) _ _
  obtain ⟨front, whole⟩ := last
  exact ⟨front.reverse, by rw [reachable, ← whole, List.reverse_append, List.reverse_singleton, List.singleton_append]⟩

/-- Visits of several files, as deep as there are files, reach all to which links lead from one of them. -/
theorem mem_foldl_visit (graph : Graph) (leaves : ∀ id, id ∉ graph.files.map (·.id) → next id = []) {starts : List String}
    {start found : String} (among : start ∈ starts) (leads : Relation.ReflTransGen (LeadsTo next) start found) :
    found ∈ starts.foldl (visit next (graph.files.length + 1)) [] := by
  have deep : (unvisited (graph.files.map (·.id)) []).length < graph.files.length + 1 := by
    have all := List.length_filter_le (fun id => !([] : List String).contains id) (graph.files.map (·.id))
    rw [List.length_map] at all
    exact Nat.lt_succ_of_le all
  obtain ⟨first, closed⟩ := foldl_complete next (visit_complete next leaves (graph.files.length + 1)) starts [] deep
  -- Nothing has been visited before, so every step stays among the visited files.
  induction leads with
  | refl => exact first start among
  | tail _ step earlier =>
    rcases closed _ earlier with before | targets
    · cases before
    · exact targets _ step

/-- A file is reachable exactly if links lead to it, provided that only files of the load lead anywhere. -/
theorem mem_reachable (graph : Graph) (leaves : ∀ id, id ∉ graph.files.map (·.id) → next id = []) {id found : String} :
    found ∈ graph.reachable next id ↔ Relation.ReflTransGen (LeadsTo next) id found := by
  rw [reachable, List.mem_reverse]
  constructor
  · intro inside
    rcases visit_sound next _ [] id found inside with before | leads
    · cases before
    · exact leads
  · exact mem_foldl_visit graph leaves (List.mem_singleton_self id)

/-- No file is visited twice. -/
theorem nodup_visit {depth : Nat} {visited : List String} (distinct : visited.Nodup) (id : String) :
    (visit next depth visited id).Nodup := by
  induction depth generalizing visited id with
  | zero => exact distinct
  | succ depth once =>
    rw [visit]
    split
    · exact distinct
    · rename_i unseen
      have new : id ∉ visited := by simpa using unseen
      exact List.foldlRecOn (next id) _ (List.nodup_cons.mpr ⟨new, distinct⟩) fun _ distinct target _ => once distinct target

/-- No file is reached twice. -/
theorem nodup_reachable (graph : Graph) (id : String) : (graph.reachable next id).Nodup :=
  List.nodup_reverse.mpr (nodup_visit .nil id)

end Graph

end Phrasebook
