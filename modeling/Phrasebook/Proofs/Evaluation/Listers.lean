import Mathlib.Data.List.Flatten
import Phrasebook.Proofs.Evaluation.Bodies
import Phrasebook.Proofs.Evaluation.Outcomes

/-! Whatever tells the values of expressions tells those of the texts that are made of them. -/

namespace Phrasebook

namespace Evaluation

variable {α β γ : Type} {stack : CallStack}

/-- The values that a computation lists from a stack, none if it fails. -/
def listed (stack : CallStack) (listing : Evaluation (List α)) : List α :=
  -- Nothing is picked.
  (listing.firstResult stack).toOption.getD []

/-- Lists that are put one behind the other succeed one by one. -/
theorem listed_of_flatten {listing : γ → Evaluation (List α)} {items : List γ} {values : List α}
    (settled : ∀ item ∈ items, (listing item).Settles stack)
    (given : (items.mapM listing >>= fun parts => pure parts.flatten : Evaluation _).firstResult stack = .ok values) :
    (∀ item ∈ items, (listing item).firstResult stack = .ok ((listing item).listed stack)) ∧
      values = items.flatMap fun item => (listing item).listed stack := by
  obtain ⟨together, results⟩ := settles_mapM items settled
  obtain ⟨parts, each, whole⟩ := exists_of_firstResult_bind together given
  cases whole
  rw [results] at each
  have same := mapM_eq_ok.mp each
  constructor
  · intro item inside
    have result : (listing item).firstResult stack ∈ items.map fun item => (listing item).firstResult stack :=
      List.mem_map_of_mem inside
    rw [same, List.mem_map] at result
    obtain ⟨part, _, result⟩ := result
    rw [listed, ← result]
    rfl
  · -- Looking at each result as a list leaves the parts.
    have lists := congrArg (List.map fun result => (result.toOption.getD [] : List α)) same
    simp only [List.map_map] at lists
    rw [List.flatMap, show (items.map fun item => (listing item).listed stack) = _ from lists]
    exact congrArg List.flatten (List.map_id parts).symm

/-- A way to tell the values of computations, which doing one after another respects. -/
structure Lister (stack : CallStack) where
  /-- What a computation comes to is told by a list of values. -/
  Tells : {α : Type} → Evaluation α → List α → Prop
  /-- A value that is given at once is the only one. -/
  done : ∀ {α : Type} (value : α), Tells (pure value) [value]
  /-- After each value of a first computation come those of a second one. -/
  andThen : ∀ {α β : Type} {first : Evaluation α} {next : α → Evaluation β} {values : List α} {onward : α → List β},
    Tells first values → (∀ value ∈ values, Tells (next value) (onward value)) →
      Tells (first >>= next) (values.flatMap onward)
  /-- One of several alternatives is picked. -/
  pick : ∀ {α : Type} {alternatives : List α}, alternatives ≠ [] →
    Tells (Evaluating.pickOne alternatives) (alternatives.map some)

namespace Lister

variable (lister : Lister stack)

/-- A computation that settles and, unless it fails, lists all values of another one. -/
structure Lists (listing : Evaluation (List α)) (single : Evaluation α) : Prop where
  /-- Nothing is picked for the list. -/
  settles : listing.Settles stack
  /-- The list tells the values. -/
  tells : ∀ values, listing.firstResult stack = .ok values → lister.Tells single values

/-- Values that are changed are told changed. -/
theorem map {single : Evaluation α} {values : List α} (told : lister.Tells single values) {change : α → β} :
    lister.Tells (single >>= fun value => pure (change value)) (values.map change) := by
  rw [List.map_eq_flatMap]
  exact lister.andThen told fun value _ => lister.done (change value)

/-- Values that are changed are listed changed. -/
theorem lists_map {listing : Evaluation (List α)} {single : Evaluation α} (change : α → β)
    (listed : lister.Lists listing single) :
    lister.Lists (listing >>= fun values => pure (values.map change)) (single >>= fun value => pure (change value)) := by
  refine ⟨settles_bind listed.settles fun values _ => settles_pure _, fun values given => ?_⟩
  obtain ⟨before, listedBefore, changed⟩ := exists_of_firstResult_bind listed.settles given
  cases changed
  exact lister.map (listed.tells before listedBefore)

/-- An embedded expression is listed at every site. -/
def EmbedsListed (environment : Environment) (calls : Calls Evaluation)
    (template : Expansion Evaluation) (scope : Scope) (embedded : Embedded) : Prop :=
  -- The list is the one that the expansion makes.
  ∀ site, lister.Lists (expandEmbedded ⟨environment, calls, template⟩ embedded scope site)
    (evalEmbedded environment calls embedded scope site)

end Lister

end Evaluation

open Evaluation

section Texts

variable {stack : CallStack} {lister : Lister stack} {environment : Environment} {calls : Calls Evaluation}
  {template : Expansion Evaluation} {scope : Scope}

/-- The outputs of the pieces of a text are all endings behind all beginnings. -/
theorem expandSegments_lists (site : Site) : ∀ (text : TemplateText) (beginnings : List String),
    (∀ embedded ∈ text.expressions, lister.EmbedsListed environment calls template scope embedded) →
    (expandSegments ⟨environment, calls, template⟩ scope site beginnings text).Settles stack ∧
      ∀ outputs, (expandSegments ⟨environment, calls, template⟩ scope site beginnings text).firstResult stack = .ok outputs →
        ∃ endings, outputs = product (· ++ ·) beginnings endings ∧
          lister.Tells (evalSegments environment calls scope site text) endings
  | [], beginnings, _ => by
    rw [expandSegments]
    refine ⟨settles_pure _, fun outputs given => ⟨[""], ?_, lister.done ""⟩⟩
    cases given
    simp [product]
  | .literal text :: rest, beginnings, embeds => by
    rw [expandSegments]
    obtain ⟨settled, listed⟩ := expandSegments_lists site rest (beginnings.map (· ++ text)) embeds
    refine ⟨settled, fun outputs given => ?_⟩
    obtain ⟨endings, rfl, tells⟩ := listed outputs given
    refine ⟨endings.map (text ++ ·), ?_, lister.map tells⟩
    simp [product, List.flatMap_map, Function.comp_def, String.append_assoc]
  | .expression embedded :: rest, beginnings, embeds => by
    rw [expandSegments]
    simp only [TemplateText.expressions, List.filterMap_cons, List.mem_cons] at embeds
    have first := embeds embedded (.inl rfl) site
    have onward (values : List Value) := expandSegments_lists site rest
      (product (fun beginning value => beginning ++ Value.text value) beginnings values)
      fun other inside => embeds other (.inr inside)
    refine ⟨settles_bind first.settles fun values _ => (onward values).1, fun outputs given => ?_⟩
    obtain ⟨values, before, given⟩ := exists_of_firstResult_bind first.settles given
    obtain ⟨endings, rfl, tells⟩ := (onward values).2 outputs given
    -- An ending starts with a value of the expression.
    refine ⟨values.flatMap fun value => endings.map (value.text ++ ·), ?_, ?_⟩
    · simp [product, List.flatMap_assoc, List.flatMap_map, List.map_flatMap, Function.comp_def, String.append_assoc]
    · exact lister.andThen (first.tells values before) fun value _ => lister.map tells

/-- A text is listed if its expressions are. -/
theorem lists_expandText (site : Site) (text : TemplateText)
    (embeds : ∀ embedded ∈ text.expressions, lister.EmbedsListed environment calls template scope embedded) :
    lister.Lists (expandText ⟨environment, calls, template⟩ text scope site)
      (evalText environment calls text scope site) := by
  unfold expandText evalText
  cases single : text.single? with
  | some embedded => exact embeds embedded (TemplateText.mem_expressions_of_single? single) site
  | none =>
    refine lister.lists_map Value.str ?_
    obtain ⟨settled, listed⟩ := expandSegments_lists site text [""] embeds
    refine ⟨settled, fun outputs given => ?_⟩
    obtain ⟨endings, whole, tells⟩ := listed outputs given
    -- The only beginning is empty.
    have same : outputs = endings := by simpa [product] using whole
    rw [same]
    exact tells

/-- The lists of values of a property are all endings behind all beginnings. -/
theorem expandTexts_lists (site : Site) : ∀ (texts : List TemplateText) (beginnings : List (List Value)),
    (∀ embedded ∈ textsExpressions texts, lister.EmbedsListed environment calls template scope embedded) →
    (expandTexts ⟨environment, calls, template⟩ scope site beginnings texts).Settles stack ∧
      ∀ outputs, (expandTexts ⟨environment, calls, template⟩ scope site beginnings texts).firstResult stack = .ok outputs →
        ∃ endings, outputs = product (· ++ ·) beginnings endings ∧
          lister.Tells (evalTexts environment calls scope site texts) endings
  | [], beginnings, _ => by
    rw [expandTexts]
    refine ⟨settles_pure _, fun outputs given => ⟨[[]], ?_, lister.done []⟩⟩
    cases given
    simp [product]
  | text :: rest, beginnings, embeds => by
    rw [expandTexts]
    simp only [textsExpressions, List.flatMap_cons, List.mem_append] at embeds
    have first := lists_expandText site text fun embedded inside => embeds embedded (.inl inside)
    have onward (values : List Value) := expandTexts_lists site rest
      (product (fun beginning value => beginning ++ [value]) beginnings values)
      fun other inside => embeds other (.inr inside)
    refine ⟨settles_bind first.settles fun values _ => (onward values).1, fun outputs given => ?_⟩
    obtain ⟨values, before, given⟩ := exists_of_firstResult_bind first.settles given
    obtain ⟨endings, rfl, tells⟩ := (onward values).2 outputs given
    refine ⟨values.flatMap fun value => endings.map (value :: ·), ?_, ?_⟩
    · simp [product, List.flatMap_assoc, List.flatMap_map, List.map_flatMap, Function.comp_def]
    · exact lister.andThen (first.tells values before) fun value _ => lister.map tells

private theorem expandCandidates_eq_mapM (expander : Expander Evaluation) (scope : Scope) (candidates : List TemplateText) :
    expandCandidates expander scope candidates =
      (candidates.mapM fun text => expandText expander text scope .text) >>= fun parts => pure parts.flatten := by
  induction candidates with
  | nil => rfl
  | cons text rest ih =>
    rw [expandCandidates, List.mapM_cons, ih]
    simp only [bind_assoc, pure_bind, List.flatten_cons]

/-- Alternative texts are listed one after the other, as they can be picked. -/
theorem lists_expandCandidates {candidates : List TemplateText} (some : candidates ≠ [])
    (embeds : ∀ embedded ∈ textsExpressions candidates,
      lister.EmbedsListed environment calls template scope embedded) :
    lister.Lists (expandCandidates ⟨environment, calls, template⟩ scope candidates)
      (evalCandidates environment calls candidates scope) := by
  have each (text : TemplateText) (inside : text ∈ candidates) :=
    lists_expandText .text text fun embedded within => embeds embedded (List.mem_flatMap.mpr ⟨text, inside, within⟩)
  rw [expandCandidates_eq_mapM]
  refine ⟨settles_bind (settles_mapM candidates fun text inside => (each text inside).settles).1
    fun parts _ => settles_pure _, fun values given => ?_⟩
  obtain ⟨succeeds, whole⟩ := listed_of_flatten (fun text inside => (each text inside).settles) given
  -- Something is always picked.
  let onward (pick : Option TemplateText) : List Value :=
    pick.elim [] fun text => (expandText ⟨environment, calls, template⟩ text scope .text).listed stack
  have total : values = (candidates.map Option.some).flatMap onward := by
    rw [whole, List.flatMap_map]
    rfl
  rw [total]
  refine lister.andThen (lister.pick some) fun pick inside => ?_
  obtain ⟨text, among, rfl⟩ := List.mem_map.mp inside
  exact (each text among).tells _ (succeeds text among)

/-- The objects of the lines of a structured body are, for each beginning in turn, what the lines make of it. -/
theorem expandStructure_lists (typeName : String) : ∀ (lines : List StructureLine) (objects : List Fields),
    (∀ embedded ∈ (Body.structured typeName lines).expressions,
      lister.EmbedsListed environment calls template scope embedded) →
    (expandStructure ⟨environment, calls, template⟩ scope typeName objects lines).Settles stack ∧
      ∀ outputs,
        (expandStructure ⟨environment, calls, template⟩ scope typeName objects lines).firstResult stack = .ok outputs →
        ∃ onward : Fields → List Fields, outputs = objects.flatMap onward ∧ ∀ object ∈ objects,
          lister.Tells (evalStructure environment calls scope typeName object lines) (onward object)
  | [], objects, _ => by
    rw [expandStructure]
    refine ⟨settles_pure _, fun outputs given => ⟨fun object => [object], ?_, fun object _ => ?_⟩⟩
    · cases given
      simp
    · rw [evalStructure]
      exact lister.done object
  | .property key values :: rest, objects, embeds => by
    rw [expandStructure]
    simp only [Body.expressions, List.flatMap_cons, List.mem_append] at embeds
    obtain ⟨settled, listed⟩ := expandTexts_lists (.property key) values [[]]
      fun embedded inside => embeds embedded (.inl inside)
    have lines (combinations : List (List Value)) := expandStructure_lists typeName rest
      (product (fun object value => SortedMap.insertNew key value object) objects (combinations.map propertyValue))
      fun embedded inside => embeds embedded (.inr inside)
    refine ⟨settles_bind settled fun combinations _ => (lines combinations).1, fun outputs given => ?_⟩
    obtain ⟨combinations, before, given⟩ := exists_of_firstResult_bind settled given
    obtain ⟨endings, whole, tells⟩ := listed combinations before
    obtain rfl : combinations = endings := by simpa [product] using whole
    obtain ⟨onward, rfl, further⟩ := (lines combinations).2 outputs given
    refine ⟨fun object => combinations.flatMap fun values =>
      onward (SortedMap.insertNew key (propertyValue values) object), ?_, fun object inside => ?_⟩
    · simp [product, List.flatMap_assoc, List.flatMap_map]
    · rw [evalStructure]
      refine lister.andThen tells fun values among => further _ ?_
      refine List.mem_flatMap.mpr ⟨object, inside, List.mem_map.mpr ⟨propertyValue values, ?_, rfl⟩⟩
      exact List.mem_map_of_mem among
  | .merge embedded :: rest, objects, embeds => by
    rw [expandStructure]
    simp only [Body.expressions, List.flatMap_cons, List.mem_append, List.mem_singleton] at embeds
    have first := embeds embedded (.inl rfl) .text
    have lines (values : List Value) := expandStructure_lists typeName rest
      (product (mergeValue typeName) objects values) fun other inside => embeds other (.inr inside)
    refine ⟨settles_bind first.settles fun values _ => (lines values).1, fun outputs given => ?_⟩
    obtain ⟨values, before, given⟩ := exists_of_firstResult_bind first.settles given
    obtain ⟨onward, rfl, further⟩ := (lines values).2 outputs given
    refine ⟨fun object => values.flatMap fun value => onward (mergeValue typeName object value), ?_,
      fun object inside => ?_⟩
    · simp [product, List.flatMap_assoc, List.flatMap_map]
    · rw [evalStructure]
      refine lister.andThen (first.tells values before) fun value among => further _ ?_
      exact List.mem_flatMap.mpr ⟨object, inside, List.mem_map_of_mem among⟩

/-- A structured body is listed if its expressions are. -/
theorem lists_structured (typeName : String) (lines : List StructureLine)
    (embeds : ∀ embedded ∈ (Body.structured typeName lines).expressions,
      lister.EmbedsListed environment calls template scope embedded) :
    lister.Lists (expandBody ⟨environment, calls, template⟩ scope (.structured typeName lines))
      (evalBody environment calls scope (.structured typeName lines)) := by
  refine lister.lists_map Value.obj ?_
  obtain ⟨settled, listed⟩ := expandStructure_lists typeName lines [typedObject typeName] embeds
  refine ⟨settled, fun outputs given => ?_⟩
  obtain ⟨onward, whole, tells⟩ := listed outputs given
  -- All objects begin with nothing but their type.
  rw [List.flatMap_singleton] at whole
  rw [whole]
  exact tells _ (List.mem_singleton_self _)

end Texts

end Phrasebook
