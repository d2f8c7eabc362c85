import Mathlib.Data.List.Basic

/-! A result that is made of others succeeds exactly if these do. -/

namespace Phrasebook

variable {α β ε : Type}

/-- A result that goes on from another one succeeds if both do. -/
theorem bind_eq_ok {first : Except ε α} {next : α → Except ε β} {value : β} :
    first >>= next = .ok value ↔ ∃ earlier, first = .ok earlier ∧ next earlier = .ok value := by
  cases first with
  | error error => exact ⟨nofun, nofun⟩
  | ok earlier =>
    constructor
    · exact fun given => ⟨earlier, rfl, given⟩
    · rintro ⟨_, ⟨⟩, given⟩
      exact given

/-- A result that is changed succeeds if it did before. -/
theorem map_eq_ok {first : Except ε α} {change : α → β} {value : β} :
    first.map change = .ok value ↔ ∃ earlier, first = .ok earlier ∧ change earlier = value := by
  cases first with
  | error error => exact ⟨nofun, nofun⟩
  | ok earlier =>
    constructor
    · exact fun given => ⟨earlier, rfl, Except.ok.inj given⟩
    · rintro ⟨_, ⟨⟩, rfl⟩
      rfl

/-- A list of results succeeds if the first of them and the others do. -/
theorem mapM_cons_eq_ok {result : α → Except ε β} {item : α} {items : List α} {values : List β} :
    (item :: items).mapM result = .ok values ↔
      ∃ value others, values = value :: others ∧ result item = .ok value ∧ items.mapM result = .ok others := by
  rw [List.mapM_cons, bind_eq_ok]
  constructor
  · rintro ⟨value, head, given⟩
    obtain ⟨others, tail, ⟨⟩⟩ := bind_eq_ok.mp given
    exact ⟨value, others, rfl, head, tail⟩
  · rintro ⟨value, others, rfl, head, tail⟩
    exact ⟨value, head, bind_eq_ok.mpr ⟨others, tail, rfl⟩⟩

/-- A list of results succeeds as a whole if it succeeds one by one. -/
theorem mapM_eq_ok {result : α → Except ε β} {items : List α} {values : List β} :
    items.mapM result = .ok values ↔ items.map result = values.map .ok := by
  -- The induction takes one result off at a time.
  induction items generalizing values with
  | nil => cases values <;> simp [pure, Except.pure]
  | cons item items later =>
    rw [mapM_cons_eq_ok]
    constructor
    · rintro ⟨value, others, rfl, head, tail⟩
      rw [List.map_cons, List.map_cons, head, later.mp tail]
    · intro given
      obtain ⟨value, others, rfl, head, tail⟩ := List.map_eq_cons_iff.mp given.symm
      exact ⟨value, others, rfl, head.symm, later.mpr tail.symm⟩

section Lists

variable {result : α → Except ε β} {items : List α} {values : List β}

/-- Each value of a list of results is that of one of them. -/
theorem exists_of_mem_values (given : items.mapM result = .ok values) {value : β} (inside : value ∈ values) :
    ∃ item ∈ items, result item = .ok value := by
  have here : .ok value ∈ items.map result := by
    rw [mapM_eq_ok.mp given]
    exact List.mem_map_of_mem inside
  exact List.mem_map.mp here

/-- Each result of a list of them is one of the values. -/
theorem exists_of_mem_items (given : items.mapM result = .ok values) {item : α} (inside : item ∈ items) :
    ∃ value ∈ values, result item = .ok value := by
  have here : result item ∈ values.map .ok := by
    rw [← mapM_eq_ok.mp given]
    exact List.mem_map_of_mem inside
  obtain ⟨value, within, same⟩ := List.mem_map.mp here
  exact ⟨value, within, same.symm⟩

end Lists

end Phrasebook
