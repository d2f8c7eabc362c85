/-! Maps from texts to entries, kept sorted by their keys. -/

namespace Phrasebook

/-- Entries by their keys, sorted by key. -/
abbrev SortedMap (α : Type) := List (String × α)

namespace SortedMap

/-- The entry under a key. -/
def get? {α : Type} (map : SortedMap α) (key : String) : Option α :=
  -- Each key occurs once, so the first hit is the only one.
  (map.find? (·.1 == key)).map (·.2)

/-- Whether a key has an entry. -/
def has {α : Type} (map : SortedMap α) (key : String) : Bool :=
  -- Keys are the first components.
  map.any (·.1 == key)

/-- The keys, in order. -/
def keys {α : Type} (map : SortedMap α) : List String :=
  -- Keys are the first components.
  map.map (·.1)

/-- Change the entry under a key, starting from a default. -/
def alter {α : Type} (key : String) (start : α) (change : α → α) : SortedMap α → SortedMap α
  -- A new key is put in front of the first that is larger.
  | [] => [(key, change start)]
  | (other, entry) :: rest =>
    if other == key then (other, change entry) :: rest
    else if key < other then (key, change start) :: (other, entry) :: rest
    else (other, entry) :: alter key start change rest

/-- Put an entry under a key, replacing an earlier one. -/
def put {α : Type} (key : String) (entry : α) (map : SortedMap α) : SortedMap α :=
  -- What was there before does not matter.
  alter key entry (fun _ => entry) map

/-- Add an entry unless the key has one. -/
def insertNew {α : Type} (key : String) (entry : α) (map : SortedMap α) : SortedMap α :=
  -- The first entry of a key wins.
  alter key entry id map

/-- The map of a list of pairs, in which a later pair replaces an earlier one. -/
def ofList {α : Type} (pairs : List (String × α)) : SortedMap α :=
  -- The pairs are put in from left to right.
  pairs.foldl (fun map (key, entry) => map.put key entry) []

/-- Whether the keys ascend, so that none of them is repeated. -/
def IsSorted {α : Type} (map : SortedMap α) : Prop :=
  -- Every key is smaller than all behind it.
  map.Pairwise fun left right => left.1 < right.1

/-- A key has an entry just if looking it up finds one. -/
theorem has_eq_isSome_get? {α : Type} (map : SortedMap α) (key : String) :
    map.has key = (map.get? key).isSome := by
  -- Both look for the same pair.
  induction map with
  | nil => rfl
  | cons head rest same =>
    by_cases hit : (head.1 == key) = true <;> simp_all [has, get?]

/-- An entry that is found is in the map under its key. -/
theorem mem_of_get? {α : Type} {map : SortedMap α} {key : String} {entry : α}
    (found : map.get? key = some entry) : (key, entry) ∈ map := by
  -- The pair that is found has the key.
  simp only [get?, Option.map_eq_some_iff] at found
  obtain ⟨pair, hit, rfl⟩ := found
  have same : pair.1 = key := by simpa using List.find?_some hit
  exact same ▸ List.mem_of_find?_eq_some hit

/-- An entry is found only if its key is among the keys. -/
theorem mem_keys_of_get? {α : Type} {map : SortedMap α} {key : String} {entry : α}
    (found : map.get? key = some entry) : key ∈ map.keys :=
  -- The pair that is found has the key.
  List.mem_map.mpr ⟨(key, entry), mem_of_get? found, rfl⟩

/-- A map has at least as many entries as there are different keys in a list. -/
theorem length_le_of_subset_keys {α : Type} {map : SortedMap α} {names : List String} (distinct : names.Nodup)
    (known : names ⊆ map.keys) : names.length ≤ map.length := by
  -- Every entry has one key.
  have fewer := distinct.length_le_of_subset known
  simpa [keys] using fewer

/-- The keys after a change are those before it and the changed one. -/
theorem mem_alter {α : Type} {key : String} {start : α} {change : α → α} {map : SortedMap α}
    {pair : String × α} (inside : pair ∈ map.alter key start change) : pair.1 = key ∨ pair ∈ map := by
  -- All pairs but one stay as they are.
  induction map with
  | nil => simp_all [alter]
  | cons head rest unchanged =>
    simp only [alter] at inside
    split at inside <;> grind

/-- Changing an entry keeps a map sorted. -/
theorem isSorted_alter {α : Type} (key : String) (start : α) (change : α → α) {map : SortedMap α}
    (sorted : map.IsSorted) : (map.alter key start change).IsSorted := by
  -- A new key stands behind all smaller keys and in front of all larger ones.
  induction map with
  | nil => simp [alter, IsSorted]
  | cons head rest kept =>
    obtain ⟨other, entry⟩ := head
    obtain ⟨smallest, behind⟩ := List.pairwise_cons.mp sorted
    simp only [alter]
    split
    · exact List.pairwise_cons.mpr ⟨smallest, behind⟩
    · rename_i differ
      split
      · rename_i smaller
        refine List.pairwise_cons.mpr ⟨fun pair inside => ?_, sorted⟩
        rcases List.mem_cons.mp inside with rfl | inside
        · exact smaller
        · exact String.lt_trans smaller (smallest pair inside)
      · rename_i larger
        refine List.pairwise_cons.mpr ⟨fun pair inside => ?_, kept behind⟩
        rcases mem_alter inside with same | inside
        · grind
        · exact smallest pair inside

/-- The entry under the changed key is the changed one. -/
theorem get?_alter_self {α : Type} (key : String) (start : α) (change : α → α) {map : SortedMap α}
    (sorted : map.IsSorted) :
    (map.alter key start change).get? key = some (change ((map.get? key).getD start)) := by
  -- Where a larger key stands, the key cannot follow any more.
  induction map with
  | nil => simp [alter, get?]
  | cons head rest found =>
    obtain ⟨other, entry⟩ := head
    obtain ⟨smallest, behind⟩ := List.pairwise_cons.mp sorted
    simp only [alter]
    split
    · simp_all [get?]
    · rename_i differ
      split
      · rename_i smaller
        have absent : rest.find? (·.1 == key) = none := by
          refine List.find?_eq_none.mpr fun pair inside same => ?_
          have larger := String.lt_trans smaller (smallest pair inside)
          simp_all
        simp [get?, differ, absent]
      · simpa [get?, differ] using found behind

/-- The entries under all other keys stay. -/
theorem get?_alter_of_ne {α : Type} {key other : String} (start : α) (change : α → α) (map : SortedMap α)
    (differ : other ≠ key) : (map.alter key start change).get? other = map.get? other := by
  -- The changed pair is passed over.
  induction map with
  | nil => simp [alter, get?, differ.symm]
  | cons head rest unchanged =>
    obtain ⟨here, entry⟩ := head
    simp only [alter]
    split
    · rename_i same
      have passed : (here == other) = false := by
        simpa [eq_of_beq same] using differ.symm
      simp [get?, passed]
    · split
      · simp [get?, differ.symm]
      · by_cases hit : here = other <;> simp_all [get?]

/-- An entry that was put in is found. -/
theorem get?_put_self {α : Type} (key : String) (entry : α) {map : SortedMap α} (sorted : map.IsSorted) :
    (map.put key entry).get? key = some entry :=
  -- The change forgets what was there.
  get?_alter_self key entry (fun _ => entry) sorted

/-- Putting an entry in does not touch the others. -/
theorem get?_put_of_ne {α : Type} {key other : String} (entry : α) (map : SortedMap α) (differ : other ≠ key) :
    (map.put key entry).get? other = map.get? other :=
  -- Only one key is changed.
  get?_alter_of_ne entry (fun _ => entry) map differ

/-- An entry that is there already wins over a new one. -/
theorem get?_insertNew_self {α : Type} (key : String) (entry : α) {map : SortedMap α} (sorted : map.IsSorted) :
    (map.insertNew key entry).get? key = some ((map.get? key).getD entry) :=
  -- Nothing is changed but what is missing.
  get?_alter_self key entry id sorted

/-- The map of a list of pairs is sorted. -/
theorem isSorted_ofList {α : Type} (pairs : List (String × α)) : (ofList pairs).IsSorted := by
  -- It starts out empty, and every step keeps it sorted.
  suffices step : ∀ map : SortedMap α, map.IsSorted →
      IsSorted (pairs.foldl (fun map (key, entry) => map.put key entry) map) from step [] List.Pairwise.nil
  induction pairs with
  | nil => exact fun _ sorted => sorted
  | cons pair rest kept =>
    exact fun map sorted => kept _ (isSorted_alter pair.1 pair.2 (fun _ => pair.2) sorted)

end SortedMap

end Phrasebook
