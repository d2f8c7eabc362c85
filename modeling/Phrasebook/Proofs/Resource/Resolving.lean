import Phrasebook.Proofs.Collection.Merged
import Phrasebook.Proofs.Resource.Ids
import Phrasebook.Proofs.Value.Unions

/-! A table is asked for ids in normal form only, so the spelling of a target does not matter, but that of an entry does. -/

namespace Phrasebook

/-- The id that a target spells next to the importing file. -/
def nearId (source target : String) : String :=
  -- A file without a directory stands beside everything that is given.
  match directoryOf? source with
  | some directory => normalizeId (directory ++ "/" ++ target)
  | none => normalizeId target

/-- Whether two targets spell the same ids, next to the importing file and as given. -/
def SpellAlike (source target other : String) : Prop :=
  nearId source target = nearId source other ∧ normalizeId target = normalizeId other

namespace ResourceTable

variable {table : ResourceTable} {source target : String}

/-- A table gives the first text that it has, next to the importing file or as given. -/
theorem resolve_eq (table : ResourceTable) (source target : String) :
    table.resolve source target =
      match [nearId source target, normalizeId target].findSome? fun id => (table.get? id).map (Resource.mk id) with
      | some resource => .ok resource
      | none => .error (.notFound source target) := by
  have turns : table.resolve source target =
      match table.get? (nearId source target) with
      | some content => .ok ⟨nearId source target, content⟩
      | none =>
        match table.get? (normalizeId target) with
        | some content => .ok ⟨normalizeId target, content⟩
        | none => .error (.notFound source target) := rfl
  rw [turns]
  cases near : table.get? (nearId source target) with
  | some content => simp [near]
  | none => cases plain : table.get? (normalizeId target) <;> simp [near, plain]

/-- What a table gives stands in it, under one of the two ids that the target spells. -/
theorem of_resolve {resource : Resource} (resolved : table.resolve source target = .ok resource) :
    (resource.id = nearId source target ∨ resource.id = normalizeId target) ∧ table.get? resource.id = some resource.content := by
  rw [resolve_eq] at resolved
  split at resolved
  · rename_i found
    cases resolved
    obtain ⟨id, among, told⟩ := List.exists_of_findSome?_eq_some found
    obtain ⟨content, stored, rfl⟩ := Option.map_eq_some_iff.mp told
    exact ⟨by simpa using among, stored⟩
  · cases resolved

/-- What a table gives has an id in normal form. -/
theorem isNormalId_of_resolve {resource : Resource} (resolved : table.resolve source target = .ok resource) :
    IsNormalId resource.id := by
  rcases (of_resolve resolved).1 with near | plain
  · rw [near, nearId]
    split <;> exact isNormalId_normalizeId _
  · rw [plain]
    exact isNormalId_normalizeId target

/-- A table gives the same for targets that spell the same ids. -/
theorem resolve_congr {other : String} (alike : SpellAlike source target other) :
    (table.resolve source target).toOption = (table.resolve source other).toOption := by
  rw [resolve_eq, resolve_eq, alike.1, alike.2]
  cases [nearId source other, normalizeId other].findSome? fun id => (table.get? id).map (Resource.mk id) <;> rfl

/-- Without an importing file, a table is asked for one id only. -/
theorem resolve_root (table : ResourceTable) (target : String) :
    table.resolve "" target =
      match table.get? (normalizeId target) with
      | some content => .ok ⟨normalizeId target, content⟩
      | none => .error (.notFound "" target) := by
  have near : nearId "" target = normalizeId target := rfl
  rw [resolve_eq, near]
  cases stored : table.get? (normalizeId target) <;> simp [stored]

end ResourceTable

section Insertion

/-- Whether a text is the last one that was inserted under an id. -/
def IsLastUnder (insertions : List (String × String)) (id content : String) : Prop :=
  ∃ before after, insertions = before ++ (id, content) :: after ∧ ∀ entry ∈ after, entry.1 ≠ id

/-- Every id of a table has the text that was last inserted under it. -/
theorem exists_isLastUnder {insertions : List (String × String)} {id : String}
    (listed : id ∈ (SortedMap.ofList insertions).keys) :
    ∃ content, IsLastUnder insertions id content ∧ (SortedMap.ofList insertions).get? id = some content := by
  have present : (SortedMap.ofList insertions).has id = true := by
    obtain ⟨entry, inside, same⟩ := List.mem_map.mp listed
    exact List.any_eq_true.mpr ⟨entry, inside, beq_iff_eq.mpr same⟩
  rw [SortedMap.has_eq_isSome_get?] at present
  obtain ⟨content, stored⟩ := Option.isSome_iff_exists.mp present
  refine ⟨content, ?_, stored⟩
  rw [SortedMap.get?_ofList] at stored
  obtain ⟨⟨other, text⟩, found, rfl⟩ := Option.map_eq_some_iff.mp stored
  obtain ⟨same, later, earlier, whole, others⟩ := List.find?_eq_some_iff_append.mp found
  obtain rfl : other = id := eq_of_beq same
  -- The pairs are searched from the last one on.
  refine ⟨earlier.reverse, later.reverse, ?_, fun entry inside => ?_⟩
  · simpa using congrArg List.reverse whole
  · simpa using others entry (List.mem_reverse.mp inside)

/--
Exactly the texts under ids in normal form can be fetched by their ids.

The text is the one that was last inserted.
Under any other id a table keeps a text that no import whatever leads to.
-/
theorem resolve_inserted (insertions : List (String × String)) :
    ∀ id ∈ (SortedMap.ofList insertions).keys, ∃ content, IsLastUnder insertions id content ∧
      (ResourceTable.resolve (SortedMap.ofList insertions) "" id = .ok ⟨id, content⟩ ↔ IsNormalId id) ∧
      (¬IsNormalId id → ∀ source target resource,
        ResourceTable.resolve (SortedMap.ofList insertions) source target = .ok resource → resource.id ≠ id) := by
  intro id listed
  obtain ⟨content, last, stored⟩ := exists_isLastUnder listed
  refine ⟨content, last, ⟨ResourceTable.isNormalId_of_resolve, fun normal => ?_⟩, fun odd source target resource resolved same => ?_⟩
  · rw [ResourceTable.resolve_root, normalizeId_eq_self_iff.mpr normal, stored]
  · exact odd (same ▸ ResourceTable.isNormalId_of_resolve resolved)

/-- A text that has been inserted twice is fetched as it was inserted last. -/
theorem resolve_inserted_twice :
    "lib/a.lg" ∈ (SortedMap.ofList [("lib/a.lg", "old"), ("b.lg", "b"), ("lib/a.lg", "new")]).keys ∧ IsNormalId "lib/a.lg" ∧
      ResourceTable.resolve (SortedMap.ofList [("lib/a.lg", "old"), ("b.lg", "b"), ("lib/a.lg", "new")]) "" "lib/a.lg" =
        .ok ⟨"lib/a.lg", "new"⟩ := by
  have listed : "lib/a.lg" ∈ (SortedMap.ofList [("lib/a.lg", "old"), ("b.lg", "b"), ("lib/a.lg", "new")]).keys := by decide +kernel
  have normal : IsNormalId "lib/a.lg" := by decide +kernel
  obtain ⟨content, _, fetched, _⟩ :=
    resolve_inserted [("lib/a.lg", "old"), ("b.lg", "b"), ("lib/a.lg", "new")] "lib/a.lg" listed
  have resolved := fetched.mpr normal
  have stored := (ResourceTable.of_resolve resolved).2
  obtain rfl : content = "new" := by
    have last : SortedMap.get? (SortedMap.ofList [("lib/a.lg", "old"), ("b.lg", "b"), ("lib/a.lg", "new")]) "lib/a.lg" =
        some "new" := by decide +kernel
    exact Option.some.inj (stored.symm.trans last)
  exact ⟨listed, normal, resolved⟩

/-- A text under an id that starts with a dot is in the table, but cannot be fetched by its id. -/
theorem dotted_isNotFetched :
    "./a.lg" ∈ (SortedMap.ofList [("./a.lg", "a")]).keys ∧ IsLastUnder [("./a.lg", "a")] "./a.lg" "a" ∧
      ResourceTable.resolve (SortedMap.ofList [("./a.lg", "a")]) "" "./a.lg" = .error (.notFound "" "./a.lg") := by
  refine ⟨by decide +kernel, ⟨[], [], rfl, nofun⟩, ?_⟩
  rw [ResourceTable.resolve_root]
  have absent : SortedMap.get? (SortedMap.ofList [("./a.lg", "a")]) (normalizeId "./a.lg") = none := by decide +kernel
  rw [absent]

end Insertion

section Spelling

/-- Imports of one file that spell the same ids lead to one file, which is loaded once. -/
theorem count_of_spellAlike (table : ResourceTable) (content id : String) {file : LoadedFile}
    (inside : file ∈ (Collection.load (.table table) content id).root.graph.files) {entry again : Import}
    (imported : entry ∈ file.imports) (alike : SpellAlike file.id entry.target again.target) {resource : Resource}
    (resolved : table.resolve file.id entry.target = .ok resource) :
    table.resolve file.id again.target = .ok resource ∧
      ((Collection.load (.table table) content id).root.graph.files.map (·.id)).count resource.id = 1 := by
  have settled := Collection.isSettled_load table content id
  obtain ⟨outcomes, comes⟩ := settled.comes file inside
  have reaches : entry.Reaches (Resolver.table table) file.id resource.id := ⟨resource.content, resolved⟩
  obtain ⟨link, among, _, same⟩ := (comes.exists_link_iff entry.qualifier resource.id).mpr ⟨entry, imported, rfl, reaches⟩
  refine ⟨?_, List.count_eq_one_of_mem settled.distinct (same ▸ settled.targets file inside link among)⟩
  have both : (table.resolve file.id entry.target).toOption = (table.resolve file.id again.target).toOption :=
    ResourceTable.resolve_congr alike
  rw [resolved] at both
  cases resolved' : table.resolve file.id again.target with
  | ok other =>
    rw [resolved'] at both
    exact congrArg Except.ok (Option.some.inj both).symm
  | error error =>
    rw [resolved'] at both
    cases both

/--
The id of a file does not depend on how the path to it is spelled.

A path can be normalized again, or before it goes on, without a difference.
What a table gives has an id in normal form, and it is the same for targets that spell the same ids from one file.
A load that imports one file under two such spellings loads it once.
-/
theorem resolve_isSpellingFree :
    (∀ id, normalizeId (normalizeId id) = normalizeId id) ∧
      (∀ front back, normalizeId (normalizeId front ++ "/" ++ back) = normalizeId (front ++ "/" ++ back)) ∧
      (∀ (table : ResourceTable) source target resource, table.resolve source target = .ok resource → IsNormalId resource.id) ∧
      (∀ (table : ResourceTable) source target other, SpellAlike source target other →
        (table.resolve source target).toOption = (table.resolve source other).toOption) ∧
      ∀ (table : ResourceTable) content id, ∀ file ∈ (Collection.load (.table table) content id).root.graph.files,
        ∀ entry ∈ file.imports, ∀ again ∈ file.imports, SpellAlike file.id entry.target again.target →
          ∀ resource, table.resolve file.id entry.target = .ok resource →
            table.resolve file.id again.target = .ok resource ∧
              ((Collection.load (.table table) content id).root.graph.files.map (·.id)).count resource.id = 1 :=
  ⟨normalizeId_normalizeId, normalizeId_append, fun _ _ _ _ => ResourceTable.isNormalId_of_resolve,
    fun _ _ _ _ => ResourceTable.resolve_congr,
    fun table content id _ inside _ imported _ _ alike _ => count_of_spellAlike table content id inside imported alike⟩

/-- A file that imports another one by two paths to it. -/
def respelled : Collection :=
  -- The second path goes upwards twice.
  (Collection.load (.table [("lib/a.lg", "# a\n- A")]) "[a](../lib/a.lg)\n[again](./..//lib/b/../a.lg)" "app/root.lg").root

/-- Both paths lead to the same file, which is loaded once. -/
theorem respelled_isLoadedOnce :
    SpellAlike "app/root.lg" "../lib/a.lg" "./..//lib/b/../a.lg" ∧
      (∃ file ∈ respelled.graph.files, file.id = "app/root.lg" ∧
        file.imports = [⟨"a", "../lib/a.lg", none, 1⟩, ⟨"again", "./..//lib/b/../a.lg", none, 2⟩]) ∧
      ResourceTable.resolve [("lib/a.lg", "# a\n- A")] "app/root.lg" "../lib/a.lg" = .ok ⟨"lib/a.lg", "# a\n- A"⟩ ∧
      ResourceTable.resolve [("lib/a.lg", "# a\n- A")] "app/root.lg" "./..//lib/b/../a.lg" = .ok ⟨"lib/a.lg", "# a\n- A"⟩ ∧
      (respelled.graph.files.map (·.id)).count "lib/a.lg" = 1 := by
  have alike : SpellAlike "app/root.lg" "../lib/a.lg" "./..//lib/b/../a.lg" := ⟨by decide +kernel, by decide +kernel⟩
  have there : ∃ file ∈ respelled.graph.files, file.id = "app/root.lg" ∧
      file.imports = [⟨"a", "../lib/a.lg", none, 1⟩, ⟨"again", "./..//lib/b/../a.lg", none, 2⟩] := by decide +kernel
  have near : nearId "app/root.lg" "../lib/a.lg" = "lib/a.lg" := by decide +kernel
  have resolved : ResourceTable.resolve [("lib/a.lg", "# a\n- A")] "app/root.lg" "../lib/a.lg" =
      .ok ⟨"lib/a.lg", "# a\n- A"⟩ := by
    rw [ResourceTable.resolve_eq, near]
    rfl
  obtain ⟨file, inside, named, imports⟩ := there
  have once := resolve_isSpellingFree.2.2.2.2 [("lib/a.lg", "# a\n- A")] _ "app/root.lg" file inside
    ⟨"a", "../lib/a.lg", none, 1⟩ (by simp [imports]) ⟨"again", "./..//lib/b/../a.lg", none, 2⟩ (by simp [imports])
    (named ▸ alike) _ (named ▸ resolved)
  rw [named] at once
  exact ⟨alike, ⟨file, inside, named, imports⟩, resolved, once⟩

end Spelling

end Phrasebook
