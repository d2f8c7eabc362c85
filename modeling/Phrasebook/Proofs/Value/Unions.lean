import Phrasebook.Evaluation.Structure

/-! The object of a structured body is the union of what its lines contribute, in which the first writer of a name wins. -/

namespace Phrasebook

namespace SortedMap

variable {α : Type}

/-- Add pairs to a map, each unless its key has an entry by then. -/
def unite (map : SortedMap α) (pairs : List (String × α)) : SortedMap α :=
  -- The pairs are taken from left to right.
  pairs.foldl (fun map pair => insertNew pair.1 pair.2 map) map

/-- Pairs are added in parts. -/
theorem unite_append (map : SortedMap α) (pairs more : List (String × α)) :
    map.unite (pairs ++ more) = (map.unite pairs).unite more :=
  List.foldl_append

/-- Adding pairs finds the entries of the map first, and the first pair of a key then. -/
theorem get?_unite (pairs : List (String × α)) {map : SortedMap α} (sorted : map.IsSorted) (key : String) :
    (map.unite pairs).get? key = (map.get? key <|> (pairs.find? (·.1 == key)).map (·.2)) := by
  induction pairs generalizing map with
  | nil => simp [unite]
  | cons head rest ih =>
    have kept : (insertNew head.1 head.2 map).IsSorted := isSorted_alter head.1 head.2 id sorted
    change ((insertNew head.1 head.2 map).unite rest).get? key = _
    rw [ih kept]
    by_cases same : head.1 = key
    · subst same
      rw [get?_insertNew_self head.1 head.2 sorted]
      cases map.get? head.1 <;> simp
    · have others : (insertNew head.1 head.2 map).get? key = map.get? key :=
        get?_alter_of_ne head.2 id map fun other => same other.symm
      simp [others, same]

/-- A list of pairs gives a key the entry of its last pair. -/
theorem get?_ofList (pairs : List (String × α)) (key : String) :
    (ofList pairs).get? key = (pairs.reverse.find? (·.1 == key)).map (·.2) := by
  -- Pairs that are put into a map come before what it holds.
  suffices onto : ∀ map : SortedMap α, map.IsSorted →
      get? (pairs.foldl (fun map pair => put pair.1 pair.2 map) map) key =
        ((pairs.reverse.find? (·.1 == key)).map (·.2) <|> map.get? key) by
    have whole := onto [] List.Pairwise.nil
    rw [show get? ([] : SortedMap α) key = none from rfl, Option.orElse_eq_orElse, Option.orElse_eq_or, Option.or_none] at whole
    exact whole
  induction pairs with
  | nil => simp
  | cons head rest ih =>
    intro map sorted
    obtain ⟨first, entry⟩ := head
    have kept : (map.put first entry).IsSorted := isSorted_alter first entry (fun _ => entry) sorted
    rw [List.foldl_cons, ih _ kept, List.reverse_cons, List.find?_append]
    by_cases same : first = key
    · subst same
      rw [get?_put_self first entry sorted]
      cases rest.reverse.find? (·.1 == first) <;> simp
    · have others : (map.put first entry).get? key = map.get? key := get?_put_of_ne entry map fun other => same other.symm
      simp [others, same]

/-- Different keys find the entries that they are paired with. -/
theorem map_get?_ofList_zip {keys : List String} (distinct : keys.Nodup) {entries : List α}
    (fit : entries.length = keys.length) : keys.map (ofList (keys.zip entries)).get? = entries.map some := by
  induction keys generalizing entries with
  | nil => simp [List.length_eq_zero_iff.mp fit]
  | cons key rest ih =>
    obtain ⟨new, others⟩ := List.nodup_cons.mp distinct
    cases entries with
    | nil => cases fit
    | cons entry more =>
      have absent : (rest.zip more).reverse.find? (·.1 == key) = none := by
        refine List.find?_eq_none.mpr fun pair inside same => new ?_
        exact beq_iff_eq.mp same ▸ (List.of_mem_zip (List.mem_reverse.mp inside)).1
      have later (other : String) (inside : other ∈ rest) :
          (ofList ((key, entry) :: rest.zip more)).get? other = (ofList (rest.zip more)).get? other := by
        have differ : key ≠ other := fun same => new (same ▸ inside)
        simp [get?_ofList, differ]
      rw [List.zip_cons_cons, List.map_cons, List.map_cons, List.map_congr_left later, ih others (Nat.succ.inj fit)]
      simp [get?_ofList, absent]

/-- A key that is smaller than all others has no entry. -/
theorem get?_eq_none_of_lt {map : SortedMap α} {key : String} (smaller : ∀ pair ∈ map, key < pair.1) :
    map.get? key = none := by
  rw [get?, Option.map_eq_none_iff, List.find?_eq_none]
  intro pair inside same
  obtain rfl := eq_of_beq same
  exact String.lt_irrefl _ (smaller pair inside)

/-- Looking up a key passes over the pair of another one. -/
theorem get?_cons_of_ne {other key : String} (differ : other ≠ key) (entry : α) (rest : SortedMap α) :
    get? ((other, entry) :: rest) key = get? rest key := by
  simp [get?, differ]

/-- The first pair of a map is found under its key. -/
theorem get?_cons_self (key : String) (entry : α) (rest : SortedMap α) : get? ((key, entry) :: rest) key = some entry := by
  simp [get?]

/-- A key with an entry in a sorted map is not smaller than the first one. -/
theorem not_lt_of_get? {key₁ key₂ : String} {entry₁ entry₂ : α} {rest₁ rest₂ : SortedMap α}
    (sorted : IsSorted ((key₂, entry₂) :: rest₂))
    (same : ∀ key, get? ((key₁, entry₁) :: rest₁) key = get? ((key₂, entry₂) :: rest₂) key) : ¬ key₁ < key₂ := by
  intro less
  have absent : get? ((key₂, entry₂) :: rest₂) key₁ = none := by
    refine get?_eq_none_of_lt fun pair inside => ?_
    rcases List.mem_cons.mp inside with rfl | inside
    · exact less
    · exact String.lt_trans less ((List.pairwise_cons.mp sorted).1 pair inside)
  rw [← same, get?_cons_self] at absent
  cases absent

/-- Sorted maps in which the same is found under every key are the same. -/
theorem eq_of_get? {first second : SortedMap α} (sorted₁ : first.IsSorted) (sorted₂ : second.IsSorted)
    (same : ∀ key, first.get? key = second.get? key) : first = second := by
  induction first generalizing second with
  | nil =>
    cases second with
    | nil => rfl
    | cons head rest =>
      have found := same head.1
      rw [get?_cons_self] at found
      cases found
  | cons head₁ rest₁ ih =>
    obtain ⟨key₁, entry₁⟩ := head₁
    obtain ⟨smallest₁, behind₁⟩ := List.pairwise_cons.mp sorted₁
    cases second with
    | nil =>
      have found := same key₁
      rw [get?_cons_self] at found
      cases found
    | cons head₂ rest₂ =>
      obtain ⟨key₂, entry₂⟩ := head₂
      obtain ⟨smallest₂, behind₂⟩ := List.pairwise_cons.mp sorted₂
      have heads : key₁ = key₂ :=
        String.le_antisymm (String.not_lt.mp (not_lt_of_get? sorted₁ fun key => (same key).symm))
          (String.not_lt.mp (not_lt_of_get? sorted₂ same))
      subst heads
      have entries := same key₁
      rw [get?_cons_self, get?_cons_self] at entries
      rw [Option.some.inj entries, ih behind₁ behind₂ fun key => ?_]
      by_cases here : key₁ = key
      · subst here
        rw [get?_eq_none_of_lt smallest₁, get?_eq_none_of_lt smallest₂]
      · have found := same key
        rwa [get?_cons_of_ne here, get?_cons_of_ne here] at found

end SortedMap

mutual

/-- The values in a list of any depth, in order; any other value by itself. -/
def flattened : Value → List Value
  -- Lists in lists are taken apart as well.
  | .arr items => flattenedItems items
  | value => [value]

/-- The values in the elements of a list, in order. -/
def flattenedItems : List Value → List Value
  -- Elements come one after the other.
  | [] => []
  | item :: rest => flattened item ++ flattenedItems rest

end

/-- What a line of a structured body has come to. -/
inductive LineValue where
  /-- The values of a property. -/
  | property (key : String) (values : List Value)
  /-- The value of a merged expression. -/
  | merge (value : Value)

/-- The fields that a value has to offer to an object of a type: those of an object of that type, but for the type itself. -/
def offered (typeName : String) : Value → Fields
  -- All other values offer nothing.
  | .obj fields => if hasType typeName fields then fields.filter (·.1 != typeKey) else []
  | _ => []

/-- What a line contributes to an object of a type. -/
def LineValue.contributions (typeName : String) : LineValue → List (String × Value)
  -- A merged value contributes what each of the values in it has to offer.
  | .property key values => [(key, propertyValue values)]
  | .merge value => (flattened value).flatMap (offered typeName)

/-- An object is a union of contributions, in which the first one of each name counts. -/
structure IsUnion (contributions : List (String × Value)) (object : Fields) : Prop where
  /-- Each name occurs once. -/
  sorted : object.IsSorted
  /-- Under each name stands what has been contributed first. -/
  first : ∀ key, SortedMap.get? object key = (contributions.find? (·.1 == key)).map (·.2)

/-- There is only one union of contributions. -/
theorem IsUnion.eq {contributions : List (String × Value)} {first second : Fields} (union₁ : IsUnion contributions first)
    (union₂ : IsUnion contributions second) : first = second :=
  SortedMap.eq_of_get? union₁.sorted union₂.sorted fun key => (union₁.first key).trans (union₂.first key).symm

/-- Merging fields adds those that are on offer. -/
theorem mergeFields_eq (target source : Fields) :
    mergeFields target source = SortedMap.unite target (source.filter (·.1 != typeKey)) := by
  rw [mergeFields, SortedMap.unite, List.foldl_filter]
  congr 1
  funext target pair
  by_cases named : pair.1 = typeKey <;> simp [named]

mutual

/-- Merging a value adds what it has to offer, in order. -/
theorem mergeValue_eq (typeName : String) (target : Fields) : ∀ value : Value,
    mergeValue typeName target value = SortedMap.unite target ((flattened value).flatMap (offered typeName))
  | .arr items => by
    rw [mergeValue, flattened]
    exact mergeItems_eq typeName target items
  | .obj fields => by
    have alone : flattened (.obj fields) = [.obj fields] := by simp [flattened]
    rw [mergeValue, alone, List.flatMap_singleton, offered]
    split
    · exact mergeFields_eq target fields
    · rfl
  | .null | .bool _ | .int _ | .float _ | .str _ => by
    rfl

/-- Merging the elements of a list adds what they have to offer, in order. -/
theorem mergeItems_eq (typeName : String) (target : Fields) : ∀ items : List Value,
    mergeItems typeName target items = SortedMap.unite target ((flattenedItems items).flatMap (offered typeName))
  | [] => by
    rfl
  | item :: rest => by
    rw [mergeItems, mergeValue_eq typeName target item, mergeItems_eq typeName _ rest, flattenedItems, List.flatMap_append,
      SortedMap.unite_append]

end

end Phrasebook
