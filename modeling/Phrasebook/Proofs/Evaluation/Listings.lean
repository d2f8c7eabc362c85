import Phrasebook.Proofs.Evaluation.Listers

/-! Lists of results that tell what an evaluation can come to, perhaps with repetitions. -/

namespace Phrasebook

namespace Evaluation

variable {α β γ : Type} {exact : Prop} {stack : CallStack}

/--
The outcomes of a computation are some results in their order, from which repetitions may be missing.

A value may be told more often than there are picks that lead to it, but not if nothing has failed and the list is exact.
-/
structure Thins (exact : Prop) (stack : CallStack) (body : Evaluation α) (results : List (Except TemplateError α)) :
    Prop where
  /-- The stack is left as it was. -/
  restores : body.Restores stack
  /-- Every outcome is among the results, in order. -/
  sublist : (body.outcomesFrom stack).Sublist results
  /-- Every result is an outcome. -/
  subset : results ⊆ body.outcomesFrom stack
  /-- An exact list of values is the list of outcomes. -/
  same : exact → (∀ error, .error error ∉ results) → body.outcomesFrom stack = results

/-- There are no computations without results. -/
theorem Thins.ne_nil {body : Evaluation α} {results : List (Except TemplateError α)}
    (thins : body.Thins exact stack results) : results ≠ [] := by
  -- Every computation has an outcome.
  intro none
  have nothing := thins.sublist
  rw [none, List.sublist_nil] at nothing
  exact outcomesFrom_ne_nil body nothing

/-- A computation with the outcomes of another one, perhaps from another stack, has its results. -/
theorem Thins.of_outcomes {body : Evaluation α} {other : Evaluation α} {inner : CallStack}
    {results : List (Except TemplateError α)} (restores : body.Restores stack)
    (same : body.outcomesFrom stack = other.outcomesFrom inner) (thins : other.Thins exact inner results) :
    body.Thins exact stack results := by
  refine ⟨restores, ?_, ?_, ?_⟩ <;> rw [same]
  · exact thins.sublist
  · exact thins.subset
  · exact thins.same

/-- Only the tree from the stack matters. -/
theorem Thins.of_run {body other : Evaluation α} {results : List (Except TemplateError α)}
    (same : body.run.run stack = other.run.run stack) (thins : other.Thins exact stack results) :
    body.Thins exact stack results := by
  refine thins.of_outcomes ?_ (by rw [outcomesFrom, same, outcomesFrom])
  rw [Restores, same]
  exact thins.restores

/-- The outcomes of a computation are results of it. -/
theorem thins_outcomesFrom {body : Evaluation α} (restores : body.Restores stack) :
    body.Thins exact stack (body.outcomesFrom stack) :=
  ⟨restores, List.Sublist.refl _, List.Subset.refl _, fun _ _ => rfl⟩

/-- A computation that settles has just its result. -/
theorem thins_of_settles {body : Evaluation α} (settled : body.Settles stack) :
    body.Thins exact stack [body.firstResult stack] := by
  rw [← outcomesFrom_of_settles settled]
  exact thins_outcomesFrom (restores_of_settles settled)

/-- After each result of a first computation come those of a second one, and after a failure comes the failure. -/
theorem thins_bind {first : Evaluation α} {next : α → Evaluation β} {results : List (Except TemplateError α)}
    {onward : Except TemplateError α → List (Except TemplateError β)} (thins : first.Thins exact stack results)
    (further : ∀ value, .ok value ∈ results → (next value).Thins exact stack (onward (.ok value)))
    (failed : ∀ error, .error error ∈ results → onward (.error error) ≠ [] ∧
      ∀ result ∈ onward (.error error), result = .error error) :
    (first >>= next : Evaluation β).Thins exact stack (results.flatMap onward) := by
  have outcomes := outcomesFrom_bind thins.restores next
  -- What one result of the first computation leads to is thinned out by itself.
  have step : ∀ result ∈ results,
      (outcomesAfter stack next result).Sublist (onward result) ∧ onward result ⊆ outcomesAfter stack next result := by
    intro result inside
    cases result with
    | ok value => exact ⟨(further value inside).sublist, (further value inside).subset⟩
    | error error =>
      obtain ⟨some, all⟩ := failed error inside
      refine ⟨?_, fun result within => ?_⟩
      · obtain ⟨head, rest, shape⟩ := List.exists_cons_of_ne_nil some
        rw [outcomesAfter, List.singleton_sublist, ← all head (by simp [shape])]
        simp [shape]
      · rw [all result within]
        exact List.mem_singleton_self _
  refine ⟨restores_bind thins.restores fun value inside => ?_, ?_, ?_, fun precise fine => ?_⟩
  · exact (further value (thins.sublist.subset inside)).restores
  · rw [outcomes]
    exact (thins.sublist.flatMap _).trans (List.Sublist.flatMap_right results fun result inside => (step result inside).1)
  · rw [outcomes]
    intro result inside
    obtain ⟨earlier, among, later⟩ := List.mem_flatMap.mp inside
    exact List.mem_flatMap.mpr ⟨earlier, thins.subset among, (step earlier among).2 later⟩
  · -- A failure of the first computation would be a failure of both.
    have whole : ∀ error, .error error ∉ results := by
      intro error inside
      obtain ⟨some, all⟩ := failed error inside
      obtain ⟨head, rest, shape⟩ := List.exists_cons_of_ne_nil some
      refine fine error (List.mem_flatMap.mpr ⟨.error error, inside, ?_⟩)
      rw [← all head (by simp [shape])]
      simp [shape]
    rw [outcomes, thins.same precise whole]
    refine List.flatMap_congr fun result inside => ?_
    cases result with
    | error error => exact absurd inside (whole error)
    | ok value =>
      refine (further value inside).same precise fun error within => fine error ?_
      exact List.mem_flatMap.mpr ⟨_, inside, within⟩

/-- A second computation that settles changes every value of the first one. -/
theorem thins_map {first : Evaluation α} {next : α → Evaluation β} {results : List (Except TemplateError α)}
    (thins : first.Thins exact stack results) (settled : ∀ value, (next value).Settles stack) :
    (first >>= next : Evaluation β).Thins exact stack
      (results.map fun result => result >>= fun value => (next value).firstResult stack) := by
  rw [List.map_eq_flatMap]
  refine thins_bind thins (fun value _ => thins_of_settles (settled value)) fun error _ => ⟨by simp, ?_⟩
  intro result inside
  exact List.mem_singleton.mp inside

/-- Two computations whose values are put together have all combinations of their results. -/
theorem thins_product {first : Evaluation α} {second : Evaluation β} {next : α → β → Evaluation γ}
    {results₁ : List (Except TemplateError α)} {results₂ : List (Except TemplateError β)}
    (thins₁ : first.Thins exact stack results₁) (thins₂ : second.Thins exact stack results₂)
    (settled : ∀ value₁ value₂, (next value₁ value₂).Settles stack) :
    (first >>= fun value₁ => second >>= next value₁ : Evaluation γ).Thins exact stack
      (product (fun result₁ result₂ => result₁ >>= fun value₁ => result₂ >>= fun value₂ =>
        (next value₁ value₂).firstResult stack) results₁ results₂) := by
  refine thins_bind thins₁ (fun value _ => ?_) fun error _ => ⟨?_, ?_⟩
  · exact thins_map thins₂ (settled value)
  · -- A failure of the first computation is told once for each result of the second.
    intro none
    exact thins₂.ne_nil (List.map_eq_nil_iff.mp none)
  · intro result inside
    obtain ⟨_, _, same⟩ := List.mem_map.mp inside
    exact same.symm

/-- Failures that are handled are no failures any more, but an exact list must not hide any. -/
theorem thins_attempt_bind {body : Evaluation α} {handle : Except TemplateError α → Evaluation β}
    {results : List (Except TemplateError α)} (thins : body.Thins exact stack results)
    (settled : ∀ result ∈ results, (handle result).Settles stack)
    (shown : exact → ∀ error, .error error ∈ results → ∃ raised, (handle (.error error)).firstResult stack = .error raised) :
    (Evaluating.attempt body >>= handle : Evaluation β).Thins exact stack
      (results.map fun result => (handle result).firstResult stack) := by
  have outcomes : (Evaluating.attempt body >>= handle : Evaluation β).outcomesFrom stack =
      (body.outcomesFrom stack).map fun result => (handle result).firstResult stack := by
    rw [outcomesFrom_bind (restores_attempt thins.restores), outcomesFrom_attempt, List.flatMap_map,
      List.map_eq_flatMap]
    refine List.flatMap_congr fun result inside => ?_
    exact outcomesFrom_of_settles (settled result (thins.sublist.subset inside))
  refine ⟨restores_bind (restores_attempt thins.restores) fun result inside => ?_, ?_, ?_, fun precise fine => ?_⟩
  · rw [outcomesFrom_attempt, List.mem_map] at inside
    obtain ⟨_, among, same⟩ := inside
    cases same
    exact restores_of_settles (settled result (thins.sublist.subset among))
  · rw [outcomes]
    exact thins.sublist.map _
  · rw [outcomes]
    exact List.map_subset _ thins.subset
  · rw [outcomes, thins.same precise fun error inside => ?_]
    obtain ⟨raised, told⟩ := shown precise error inside
    exact fine raised (List.mem_map.mpr ⟨_, inside, told⟩)

/-- The results of a second computation that gives some values after each value of a first one. -/
def valuesAfter (onward : α → List β) : Except TemplateError α → List (Except TemplateError β)
  -- Nothing comes after a failure.
  | .ok value => (onward value).map .ok
  | .error error => [.error error]

/-- After each value of a first computation come those of a second one. -/
theorem thins_bind_values {first : Evaluation α} {next : α → Evaluation β} {values : List α} {onward : α → List β}
    (thins : first.Thins exact stack (values.map .ok))
    (further : ∀ value ∈ values, (next value).Thins exact stack ((onward value).map .ok)) :
    (first >>= next : Evaluation β).Thins exact stack ((values.flatMap onward).map .ok) := by
  have whole : (values.flatMap onward).map Except.ok = (values.map Except.ok).flatMap (valuesAfter onward) := by
    rw [List.map_flatMap, List.flatMap_map]
    rfl
  rw [whole]
  -- There is no failure that the second computation would be kept from.
  refine thins_bind thins (fun value inside => ?_) fun error inside => ?_
  · obtain ⟨_, among, same⟩ := List.mem_map.mp inside
    cases same
    exact further value among
  · obtain ⟨_, _, same⟩ := List.mem_map.mp inside
    cases same

/-- A second computation that gives a value at once changes every value of the first one. -/
theorem thins_map_values {first : Evaluation α} {next : α → Evaluation β} {values : List α} {change : α → β}
    (thins : first.Thins exact stack (values.map .ok))
    (given : ∀ value, (next value).run.run stack = .done (.ok (change value), stack)) :
    (first >>= next : Evaluation β).Thins exact stack ((values.map change).map .ok) := by
  have spread : values.map change = values.flatMap fun value => [change value] := List.map_eq_flatMap
  rw [spread]
  refine thins_bind_values thins fun value _ => ?_
  obtain ⟨settled, result⟩ := settles_of_run (given value)
  have only : (next value).Thins exact stack [(next value).firstResult stack] := thins_of_settles settled
  rwa [result] at only

/-- One of several alternatives is picked. -/
theorem thins_pickOne {alternatives : List α} (some : alternatives ≠ []) :
    (Evaluating.pickOne alternatives : Evaluation _).Thins exact stack ((alternatives.map Option.some).map .ok) := by
  have outcomes : (Evaluating.pickOne alternatives : Evaluation _).outcomesFrom stack = _ := outcomesFrom_pickOne some
  rw [List.map_map]
  exact outcomes ▸ thins_outcomesFrom (restores_pickOne some)

/-- A template has the results of its body. -/
theorem thins_withFrame {body : Evaluation α} {name : String} {results : List (Except TemplateError α)}
    (thins : body.Thins exact (stack.push name) results) :
    (Evaluating.withFrame name body : Evaluation α).Thins exact stack results :=
  thins.of_outcomes (restores_withFrame thins.restores) (outcomesFrom_withFrame thins.restores)

/-- Thinned out lists tell what computations come to. -/
def thinning (exact : Prop) (stack : CallStack) : Lister stack where
  -- No computation fails.
  Tells body values := body.Thins exact stack (values.map .ok)
  done value := thins_of_settles (settles_pure value)
  andThen := thins_bind_values
  pick := thins_pickOne

/-- A computation that settles and, unless it fails, lists all values of another one. -/
abbrev Enumerates (exact : Prop) (stack : CallStack) (listing : Evaluation (List α)) (single : Evaluation α) : Prop :=
  -- The list is thinned out.
  (thinning exact stack).Lists listing single

/-- A failure lists nothing. -/
theorem enumerates_fail {error : TemplateError} {single : Evaluation α} :
    Enumerates exact stack (Evaluating.fail error) single := by
  refine ⟨settles_fail error, fun values given => ?_⟩
  cases given

/-- What is done on both sides first has no part in the list. -/
theorem enumerates_bind {first : Evaluation γ} {listing : γ → Evaluation (List α)} {single : γ → Evaluation α}
    (settled : first.Settles stack)
    (further : ∀ value, first.firstResult stack = .ok value → Enumerates exact stack (listing value) (single value)) :
    Enumerates exact stack (first >>= listing) (first >>= single) := by
  refine ⟨settles_bind settled fun value given => (further value given).settles, fun values listed => ?_⟩
  obtain ⟨value, given, onward⟩ := exists_of_firstResult_bind settled listed
  exact ((further value given).tells values onward).of_run (run_bind_of_ok settled given)

/-- A template is listed by what lists its body. -/
theorem enumerates_withFrame {listing : Evaluation (List α)} {single : Evaluation α} {name : String}
    (enumerated : Enumerates exact (stack.push name) listing single) :
    Enumerates exact stack (Evaluating.withFrame name listing) (Evaluating.withFrame name single) := by
  obtain ⟨settled, result⟩ := settles_withFrame name enumerated.settles
  refine ⟨settled, fun values listed => ?_⟩
  rw [result] at listed
  exact thins_withFrame (enumerated.tells values listed)

end Evaluation

end Phrasebook
