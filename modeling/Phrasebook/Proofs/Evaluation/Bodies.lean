import Phrasebook.Proofs.Evaluation.Congruence

/-! What relates the embedded expressions of a template body relates the body. -/

namespace Phrasebook

/-- The lists of alternative texts in a body. -/
def Body.alternatives : Body → List (List TemplateText)
  -- The values of a property are no alternatives.
  | .normal candidates => [candidates]
  | .conditional branches => branches.map (·.body)
  | .switch _ cases => cases.map (·.body)
  | .structured _ _ => []

/-- The expressions of a body that decide which of its texts count. -/
def Body.guards : Body → List Embedded
  -- These are the conditions of branches, the subject of a switch and the values of its cases.
  | .conditional branches => branches.filterMap (·.condition)
  | .switch subject cases => subject :: cases.filterMap (·.value)
  | .normal _ | .structured _ _ => []

/-- What decides which texts count is among the expressions of a body. -/
theorem Body.guards_subset (body : Body) : body.guards ⊆ body.expressions := by
  intro guard inside
  cases body with
  | normal candidates => cases inside
  | structured typeName lines => cases inside
  | conditional branches =>
    obtain ⟨branch, among, given⟩ := List.mem_filterMap.mp inside
    exact List.mem_flatMap.mpr ⟨branch, among, by simp [given]⟩
  | switch subject cases =>
    rcases List.mem_cons.mp inside with rfl | inside
    · exact List.mem_cons_self
    · obtain ⟨case, among, given⟩ := List.mem_filterMap.mp inside
      exact List.mem_cons_of_mem _ (List.mem_flatMap.mpr ⟨case, among, by simp [given]⟩)

section Bodies

variable {m₁ m₂ : Type → Type} [Evaluating m₁] [Evaluating m₂] (relation : Congruence m₁ m₂)
  (environment₁ environment₂ : Environment) (calls₁ : Calls m₁) (calls₂ : Calls m₂) (scope₁ scope₂ : Scope)

/-- Both computations pick the same alternative of a list. -/
def Congruence.PicksAlike (candidates : List TemplateText) : Prop :=
  -- What is picked is one of the list.
  relation.Related (fun pick₁ pick₂ => pick₁ = pick₂ ∧ ∀ text, pick₁ = some text → text ∈ candidates)
    (Evaluating.pickOne candidates : m₁ _) (Evaluating.pickOne candidates : m₂ _)

/-- An embedded expression is evaluated alike at every site, as a value and as a condition. -/
structure Congruence.EmbedsAlike (embedded : Embedded) : Prop where
  /-- As a value. -/
  value : ∀ site, relation.Alike (evalEmbedded environment₁ calls₁ embedded scope₁ site)
    (evalEmbedded environment₂ calls₂ embedded scope₂ site)
  /-- As a condition. -/
  condition : ∀ site, relation.Alike (evalCondition environment₁ calls₁ embedded scope₁ site)
    (evalCondition environment₂ calls₂ embedded scope₂ site)

variable {relation environment₁ environment₂ calls₁ calls₂ scope₁ scope₂}

/-- Texts whose expressions are alike are joined alike. -/
theorem evalSegments_alike (site : Site) : ∀ text : TemplateText,
    (∀ embedded ∈ text.expressions,
      relation.EmbedsAlike environment₁ environment₂ calls₁ calls₂ scope₁ scope₂ embedded) →
    relation.Alike (evalSegments environment₁ calls₁ scope₁ site text)
      (evalSegments environment₂ calls₂ scope₂ site text)
  | [], _ => relation.alike_pure ""
  | .literal text :: rest, alike => by
    refine relation.alike_bind (evalSegments_alike site rest alike) fun joined => relation.alike_pure _
  | .expression embedded :: rest, alike => by
    simp only [TemplateText.expressions, List.filterMap_cons, List.mem_cons] at alike
    refine relation.alike_bind ((alike embedded (.inl rfl)).value site) fun value => ?_
    refine relation.alike_bind (evalSegments_alike site rest fun other inside => alike other (.inr inside))
      fun joined => relation.alike_pure _

/-- The only expression of a text is among its expressions. -/
theorem TemplateText.mem_expressions_of_single? {text : TemplateText} {embedded : Embedded}
    (single : text.single? = some embedded) : embedded ∈ text.expressions := by
  -- The text holds nothing else.
  unfold TemplateText.single? at single
  split at single
  · simp_all [TemplateText.expressions]
  · simp at single

/-- Texts whose expressions are alike are alike. -/
theorem evalText_alike (site : Site) (text : TemplateText)
    (alike : ∀ embedded ∈ text.expressions,
      relation.EmbedsAlike environment₁ environment₂ calls₁ calls₂ scope₁ scope₂ embedded) :
    relation.Alike (evalText environment₁ calls₁ text scope₁ site)
      (evalText environment₂ calls₂ text scope₂ site) := by
  -- A lone expression is the text, and all other texts are joined.
  unfold evalText
  cases single : text.single? with
  | some embedded => exact (alike embedded (TemplateText.mem_expressions_of_single? single)).value site
  | none => exact relation.alike_bind (evalSegments_alike site text alike) fun joined => relation.alike_pure _

/-- Alternatives that are picked alike, and whose expressions are alike, are alike. -/
theorem evalCandidates_alike (candidates : List TemplateText) (picked : relation.PicksAlike candidates)
    (alike : ∀ embedded ∈ textsExpressions candidates,
      relation.EmbedsAlike environment₁ environment₂ calls₁ calls₂ scope₁ scope₂ embedded) :
    relation.Alike (evalCandidates environment₁ calls₁ candidates scope₁)
      (evalCandidates environment₂ calls₂ candidates scope₂) := by
  refine relation.andThen picked ?_
  rintro pick _ ⟨rfl, inside⟩
  cases pick with
  | none => exact relation.alike_pure _
  | some text =>
    -- The expressions of the picked text are among those of all alternatives.
    refine evalText_alike .text text fun embedded within => alike embedded ?_
    exact List.mem_flatMap.mpr ⟨text, inside text rfl, within⟩

/-- Branches that are alike are alike as a whole. -/
theorem evalBranches_alike : ∀ branches : List Branch,
    (∀ branch ∈ branches, relation.PicksAlike branch.body) →
    (∀ embedded ∈ (Body.conditional branches).expressions,
      relation.EmbedsAlike environment₁ environment₂ calls₁ calls₂ scope₁ scope₂ embedded) →
    relation.Alike (evalBranches environment₁ calls₁ scope₁ branches)
      (evalBranches environment₂ calls₂ scope₂ branches)
  | [], _, _ => relation.alike_pure _
  | branch :: rest, picked, alike => by
    simp only [Body.expressions, List.flatMap_cons, List.mem_append] at alike
    have body := evalCandidates_alike branch.body (picked branch (by simp))
      fun embedded inside => alike embedded (.inl (.inr inside))
    have others := evalBranches_alike rest (fun other inside => picked other (by simp [inside]))
      fun embedded inside => alike embedded (.inr inside)
    rw [evalBranches, evalBranches]
    cases guarded : branch.condition with
    | none => exact body
    | some condition =>
      refine relation.alike_bind ((alike condition (.inl (.inl (by simp [guarded])))).condition _) fun holds => ?_
      cases holds with
      | true => exact body
      | false => exact others

/-- Cases that are alike are alike as a whole. -/
theorem evalCases_alike (key : String) : ∀ cases : List Case,
    (∀ case ∈ cases, relation.PicksAlike case.body) →
    (∀ case ∈ cases, ∀ embedded ∈ case.value.toList ++ textsExpressions case.body,
      relation.EmbedsAlike environment₁ environment₂ calls₁ calls₂ scope₁ scope₂ embedded) →
    relation.Alike (evalCases environment₁ calls₁ scope₁ key cases)
      (evalCases environment₂ calls₂ scope₂ key cases)
  | [], _, _ => relation.alike_pure _
  | case :: rest, picked, alike => by
    have first := alike case (by simp)
    have body := evalCandidates_alike case.body (picked case (by simp))
      fun embedded inside => first embedded (by simp [inside])
    have others := evalCases_alike key rest (fun other inside => picked other (by simp [inside]))
      fun other inside => alike other (by simp [inside])
    rw [evalCases, evalCases]
    cases valued : case.value with
    | none => exact body
    | some value =>
      refine relation.alike_bind ((first value (by simp [valued])).value _) fun candidate => ?_
      split
      · exact body
      · exact others

/-- Values of a property that are alike are alike as a whole. -/
theorem evalTexts_alike (site : Site) : ∀ texts : List TemplateText,
    (∀ embedded ∈ textsExpressions texts,
      relation.EmbedsAlike environment₁ environment₂ calls₁ calls₂ scope₁ scope₂ embedded) →
    relation.Alike (evalTexts environment₁ calls₁ scope₁ site texts)
      (evalTexts environment₂ calls₂ scope₂ site texts)
  | [], _ => relation.alike_pure _
  | text :: rest, alike => by
    simp only [textsExpressions, List.flatMap_cons, List.mem_append] at alike
    refine relation.alike_bind (evalText_alike site text fun embedded inside => alike embedded (.inl inside))
      fun value => ?_
    refine relation.alike_bind (evalTexts_alike site rest fun embedded inside => alike embedded (.inr inside))
      fun values => relation.alike_pure _

/-- Lines of a structured body that are alike are alike as a whole. -/
theorem evalStructure_alike (typeName : String) : ∀ (lines : List StructureLine) (object : Fields),
    (∀ embedded ∈ (Body.structured typeName lines).expressions,
      relation.EmbedsAlike environment₁ environment₂ calls₁ calls₂ scope₁ scope₂ embedded) →
    relation.Alike (evalStructure environment₁ calls₁ scope₁ typeName object lines)
      (evalStructure environment₂ calls₂ scope₂ typeName object lines)
  | [], object, _ => by
    rw [evalStructure, evalStructure]
    exact relation.alike_pure _
  | .property key values :: rest, object, alike => by
    simp only [Body.expressions, List.flatMap_cons, List.mem_append] at alike
    rw [evalStructure, evalStructure]
    refine relation.alike_bind (evalTexts_alike _ values fun embedded inside => alike embedded (.inl inside))
      fun values => ?_
    exact evalStructure_alike typeName rest _ fun embedded inside => alike embedded (.inr inside)
  | .merge merged :: rest, object, alike => by
    simp only [Body.expressions, List.flatMap_cons, List.mem_append, List.mem_singleton] at alike
    rw [evalStructure, evalStructure]
    refine relation.alike_bind ((alike merged (.inl rfl)).value _) fun value => ?_
    exact evalStructure_alike typeName rest _ fun embedded inside => alike embedded (.inr inside)

/-- Bodies whose alternatives are picked alike, and whose expressions are alike, are alike. -/
theorem evalBody_alike (body : Body) (picked : ∀ candidates ∈ body.alternatives, relation.PicksAlike candidates)
    (alike : ∀ embedded ∈ body.expressions,
      relation.EmbedsAlike environment₁ environment₂ calls₁ calls₂ scope₁ scope₂ embedded) :
    relation.Alike (evalBody environment₁ calls₁ scope₁ body) (evalBody environment₂ calls₂ scope₂ body) := by
  -- Each kind of body has its own rule.
  cases body with
  | normal candidates => exact evalCandidates_alike candidates (picked candidates (by simp [Body.alternatives])) alike
  | conditional branches =>
    refine evalBranches_alike branches (fun branch inside => picked _ ?_) alike
    exact List.mem_map_of_mem inside
  | switch subject cases =>
    simp only [Body.expressions, List.mem_cons] at alike
    refine relation.alike_bind ((alike subject (.inl rfl)).value _) fun value => ?_
    refine evalCases_alike _ cases (fun case inside => picked _ (List.mem_map_of_mem inside)) ?_
    exact fun case inside embedded within => alike embedded (.inr (List.mem_flatMap.mpr ⟨case, inside, within⟩))
  | structured typeName lines =>
    exact relation.alike_bind (evalStructure_alike typeName lines _ alike) fun object => relation.alike_pure _

end Bodies

end Phrasebook
