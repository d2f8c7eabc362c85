import Phrasebook.Proofs.Reading.Splitting
import Phrasebook.Resource.Resolver

/-! An id in normal form stands for all spellings of a path, and paths may be put together before or after normalization. -/

namespace Phrasebook

section Segments

/-- The segments of a path that goes on are those of its parts. -/
theorem pathSegments_append (front back : String) :
    pathSegments (front ++ "/" ++ back) = pathSegments front ++ pathSegments back := by
  have chars : (front ++ "/" ++ back).toList = front.toList ++ '/' :: back.toList := by simp
  rw [pathSegments, chars, splitAt_append, List.map_append]
  rfl

/-- No segment holds a slash. -/
theorem slash_not_mem_of_mem_pathSegments {path segment : String} (inside : segment ∈ pathSegments path) :
    '/' ∉ segment.toList := by
  obtain ⟨part, among, rfl⟩ := List.mem_map.mp inside
  rw [String.toList_ofList]
  exact not_mem_of_mem_splitAt among

/-- The segments of a path make it up again. -/
theorem joinSegments_pathSegments (path : String) : joinSegments (pathSegments path) = path := by
  refine String.toList_inj.mp ?_
  rw [joinSegments, String.toList_intercalate, pathSegments, List.map_map]
  simpa [Function.comp_def] using intercalate_splitAt '/' path.toList

/-- Segments are found again in the path that they make up. -/
theorem pathSegments_joinSegments {segments : List String} (some : segments ≠ [])
    (plain : ∀ segment ∈ segments, '/' ∉ segment.toList) : pathSegments (joinSegments segments) = segments := by
  have parts : segments.map String.toList ≠ [] := fun none => some (List.map_eq_nil_iff.mp none)
  have chars : (joinSegments segments).toList = List.intercalate ['/'] (segments.map String.toList) := by
    rw [joinSegments, String.toList_intercalate]
    rfl
  rw [pathSegments, chars, splitAt_intercalate parts (List.forall_mem_map.mpr plain), List.map_map]
  simp [Function.comp_def]

end Segments

section Normalization

/-- Whether a segment is a name: it neither stays where it is nor leads upwards. -/
def IsNameSegment (segment : String) : Prop :=
  -- An empty segment stays as a dot does.
  segment ≠ "" ∧ segment ≠ "." ∧ segment ≠ ".."

/-- Whether an id is in normal form: it is empty, or all of its segments are names. -/
def IsNormalId (id : String) : Prop :=
  -- The segment of the empty id is no name.
  id = "" ∨ ∀ segment ∈ pathSegments id, IsNameSegment segment

instance : DecidablePred IsNormalId := fun id =>
  inferInstanceAs (Decidable (id = "" ∨ ∀ segment ∈ pathSegments id, segment ≠ "" ∧ segment ≠ "." ∧ segment ≠ ".."))

/-- What a path leaves of names in front of it, the last one first. -/
def keptNames (kept : List String) (path : String) : List String :=
  (pathSegments path).foldl normalizeStep kept

/-- A normalized path is made up of the names that the path leaves. -/
theorem normalizeId_eq (path : String) : normalizeId path = joinSegments (keptNames [] path).reverse :=
  rfl

/-- Paths that leave the same names are the same once they have been normalized. -/
theorem normalizeId_congr {path other : String} (same : keptNames [] path = keptNames [] other) :
    normalizeId path = normalizeId other := by
  rw [normalizeId_eq, normalizeId_eq, same]

/-- One more segment adds itself if it is a name, and else nothing. -/
theorem mem_normalizeStep {kept : List String} {segment name : String} (inside : name ∈ normalizeStep kept segment) :
    name ∈ kept ∨ name = segment ∧ IsNameSegment segment := by
  unfold normalizeStep at inside
  split at inside
  · exact .inl inside
  · rename_i moves
    split at inside
    · exact .inl (List.mem_of_mem_tail inside)
    · rename_i forward
      rcases List.mem_cons.mp inside with rfl | before
      · rw [Bool.or_eq_true, beq_iff_eq, beq_iff_eq, not_or] at moves
        exact .inr ⟨rfl, moves.1, moves.2, by simpa using forward⟩
      · exact .inl before

/-- What is kept of segments are names among them. -/
theorem mem_foldl_normalizeStep {segments kept : List String} {name : String}
    (inside : name ∈ segments.foldl normalizeStep kept) : name ∈ kept ∨ name ∈ segments ∧ IsNameSegment name := by
  induction segments generalizing kept with
  | nil => exact .inl inside
  | cons segment segments ih =>
    rcases ih inside with earlier | ⟨later, named⟩
    · rcases mem_normalizeStep earlier with before | ⟨rfl, named⟩
      · exact .inl before
      · exact .inr ⟨List.mem_cons_self, named⟩
    · exact .inr ⟨List.mem_cons_of_mem segment later, named⟩

/-- Names are kept as they are. -/
theorem foldl_normalizeStep_of_names {segments : List String} (named : ∀ segment ∈ segments, IsNameSegment segment)
    (kept : List String) : segments.foldl normalizeStep kept = segments.reverse ++ kept := by
  induction segments generalizing kept with
  | nil => rfl
  | cons segment segments ih =>
    obtain ⟨⟨some, moves, forward⟩, others⟩ := List.forall_mem_cons.mp named
    have step : normalizeStep kept segment = segment :: kept := by simp [normalizeStep, some, moves, forward]
    rw [List.foldl_cons, step, ih others, List.reverse_cons, List.append_assoc, List.singleton_append]

/-- What a whole path leaves are names without slashes. -/
theorem name_of_mem_keptNames {path name : String} (inside : name ∈ keptNames [] path) :
    IsNameSegment name ∧ '/' ∉ name.toList := by
  obtain ⟨among, named⟩ := (mem_foldl_normalizeStep inside).resolve_left List.not_mem_nil
  exact ⟨named, slash_not_mem_of_mem_pathSegments among⟩

/-- A normalized path has the segments that were kept, or it is empty. -/
theorem normalizeId_cases (id : String) :
    keptNames [] id = [] ∧ normalizeId id = "" ∨ pathSegments (normalizeId id) = (keptNames [] id).reverse := by
  by_cases none : keptNames [] id = []
  · refine .inl ⟨none, ?_⟩
    rw [normalizeId_eq, none]
    rfl
  · refine .inr ?_
    rw [normalizeId_eq]
    exact pathSegments_joinSegments (fun empty => none (List.reverse_eq_nil_iff.mp empty)) fun name inside =>
      (name_of_mem_keptNames (List.mem_reverse.mp inside)).2

/-- A path leaves the same names once it has been normalized. -/
theorem keptNames_normalizeId (id : String) : keptNames [] (normalizeId id) = keptNames [] id := by
  rcases normalizeId_cases id with ⟨none, empty⟩ | segments
  · rw [none, empty]
    rfl
  · rw [keptNames, segments, foldl_normalizeStep_of_names fun name inside => ?_, List.reverse_reverse, List.append_nil]
    exact (name_of_mem_keptNames (List.mem_reverse.mp inside)).1

/-- Normalizing an id again changes nothing. -/
theorem normalizeId_normalizeId (id : String) : normalizeId (normalizeId id) = normalizeId id :=
  normalizeId_congr (keptNames_normalizeId id)

/-- A path may be normalized before it goes on. -/
theorem normalizeId_append (front back : String) :
    normalizeId (normalizeId front ++ "/" ++ back) = normalizeId (front ++ "/" ++ back) := by
  -- The back goes on from the names that the front has left.
  have goesOn (front : String) : keptNames [] (front ++ "/" ++ back) = keptNames (keptNames [] front) back := by
    rw [keptNames, pathSegments_append, List.foldl_append]
    rfl
  refine normalizeId_congr ?_
  rw [goesOn, goesOn, keptNames_normalizeId]

/-- A normalized id is in normal form. -/
theorem isNormalId_normalizeId (id : String) : IsNormalId (normalizeId id) := by
  rcases normalizeId_cases id with ⟨_, empty⟩ | segments
  · exact .inl empty
  · refine .inr fun segment inside => ?_
    rw [segments, List.mem_reverse] at inside
    exact (name_of_mem_keptNames inside).1

/-- The ids in normal form are those that normalization leaves as they are. -/
theorem normalizeId_eq_self_iff {id : String} : normalizeId id = id ↔ IsNormalId id := by
  constructor
  · intro same
    exact same ▸ isNormalId_normalizeId id
  · rintro (rfl | named)
    · rfl
    · have kept : keptNames [] id = (pathSegments id).reverse := by
        rw [keptNames, foldl_normalizeStep_of_names named, List.append_nil]
      rw [normalizeId_eq, kept, List.reverse_reverse, joinSegments_pathSegments]

end Normalization

end Phrasebook
