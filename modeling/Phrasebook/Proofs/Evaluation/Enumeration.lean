import Phrasebook.Proofs.Collection.Loaded
import Phrasebook.Proofs.Evaluation.Variants

/-! Where nothing but the picks matters, expansion lists what evaluation can come to. -/

namespace Phrasebook

open Evaluation

/-- A body is made of texts only, and there is at least one of them to pick. -/
def Body.picksOnly : Body → Bool
  -- Conditions and cases may leave texts out.
  | .normal candidates => !candidates.isEmpty
  | .structured _ _ => true
  | .conditional _ => false
  | .switch _ _ => false

/-- Nothing but the picks decides which parts of the templates are evaluated. -/
structure ChoiceOnly (environment : Environment) : Prop where
  /-- There are neither conditions nor cases. -/
  bodies : ∀ entry ∈ environment.registry, entry.2.body.picksOnly = true
  /-- All operands are evaluated. -/
  expressions : ∀ entry ∈ environment.registry, ∀ embedded ∈ entry.2.expressions,
    ∀ node ∈ embedded.expression.nodes, environment.Unconditional node
  /-- The four functions are the functions. -/
  unshadowed : environment.Unshadowed

/-- No failure of an expression is hidden: it is shown, or there is none over any data. -/
def Environment.HidesNothing (environment : Environment) : Prop :=
  -- Calls that are nested too deeply and loops are never hidden.
  environment.ShowsFailures ∨ ∀ entry ∈ environment.registry, ∀ embedded ∈ entry.2.expressions,
    ∀ limit scope stack place cause, .error (.expression place cause) ∉ Evaluation.outcomesFrom stack
      (embedded.expression.eval (hostOf environment (callsWithin limit environment)) scope)

instance (environment : Environment) : Decidable (ChoiceOnly environment) :=
  decidable_of_iff
    ((∀ entry ∈ environment.registry, entry.2.body.picksOnly = true) ∧
      (∀ entry ∈ environment.registry, ∀ embedded ∈ entry.2.expressions, ∀ node ∈ embedded.expression.nodes,
        environment.Unconditional node) ∧ environment.Unshadowed)
    ⟨fun ⟨bodies, expressions, unshadowed⟩ => ⟨bodies, expressions, unshadowed⟩,
      fun ⟨bodies, expressions, unshadowed⟩ => ⟨bodies, expressions, unshadowed⟩⟩

section Bodies

variable {exact : Prop} {stack : CallStack} {environment : Environment} {calls : Calls Evaluation}
  {template : Expansion Evaluation} {scope : Scope}

/-- A body of texts only is listed if its expressions are. -/
theorem enumerates_expandBody {body : Body} (picks : body.picksOnly = true)
    (embeds : ∀ embedded ∈ body.expressions, (thinning exact stack).EmbedsListed environment calls template scope embedded) :
    Enumerates exact stack (expandBody ⟨environment, calls, template⟩ scope body)
      (evalBody environment calls scope body) := by
  cases body with
  | normal candidates =>
    refine lists_expandCandidates ?_ embeds
    rintro rfl
    cases picks
  | conditional branches => cases picks
  | switch subject cases => cases picks
  | structured typeName lines => exact lists_structured typeName lines embeds

end Bodies

/-- Where no results are kept, a template is listed by expanding its body on a frame of its own. -/
theorem enumerates_expandTemplate {exact : Prop} {stack : CallStack} (fresh : stack.memoized = false)
    {environment : Environment} {calls : Calls Evaluation} {expansion : Expansion Evaluation} {scope : Scope}
    (name : String)
    (body : ∀ template, environment.lookup (splitRerun name).1 = .ok template →
      Enumerates exact (stack.push (splitRerun name).1) (expandBody ⟨environment, calls, expansion⟩ scope template.body)
        (evalBody environment calls scope template.body)) :
    Enumerates exact stack (expandTemplate ⟨environment, calls, expansion⟩ name scope)
      (evalTemplate environment calls name scope) := by
  unfold expandTemplate evalTemplate
  generalize splitRerun name = parts at body
  obtain ⟨base, rerun⟩ := parts
  refine enumerates_bind (settles_ofExcept _) fun template found => ?_
  rw [firstResult_ofExcept] at found
  refine enumerates_bind (settles_checkLoop base) fun _ _ => ?_
  have framed := enumerates_withFrame (body template found)
  refine ⟨framed.settles, fun values listed => ?_⟩
  have thins := framed.tells values listed
  -- Nothing is found among the kept results, and nothing is kept.
  refine Thins.of_run (run_bind_of_ok rfl rfl) ?_
  have nothing : stack.cached? ⟨base, scope.fingerprint⟩ = none := by simp [CallStack.cached?, fresh]
  rw [nothing]
  cases rerun with
  | true => exact thins
  | false =>
    rw [← List.map_id values]
    refine thins_map_values thins fun value => ?_
    change Choice.done (Except.ok value, stack.store ⟨base, scope.fingerprint⟩ value) = _
    rw [CallStack.store_of_unmemoized fresh]
    rfl

/-- Where nothing but the picks matters, templates are listed however deeply calls may nest. -/
theorem enumerates_expansionWithin {environment : Environment} (choice : ChoiceOnly environment) :
    ∀ (limit : Nat) {stack : CallStack}, stack.memoized = false → ∀ name scope,
      Enumerates environment.HidesNothing stack (expansionWithin environment limit name scope)
        ((callsWithin limit environment).template name scope)
  | 0, stack, _, name, scope =>
    -- Both sides refuse the call.
    show Enumerates environment.HidesNothing stack (Evaluating.fail .unfinished) _ from enumerates_fail
  | limit + 1, stack, fresh, name, scope => by
    rw [expansionWithin_succ, template_callsWithin_succ]
    refine enumerates_expandTemplate fresh name fun template found => ?_
    have inside := mem_of_lookup found
    have framed : (stack.push (splitRerun name).1).memoized = false := fresh
    refine enumerates_expandBody (choice.bodies _ inside) fun embedded among site => ?_
    refine enumerates_expandEmbedded choice.unshadowed (fun name scope => ?_) site (fun hidden => ?_)
      (choice.expressions _ inside embedded among)
    · exact enumerates_expansionWithin choice limit framed name scope
    · exact hidden.imp_right fun never => never _ inside embedded among limit scope _

/--
Expansion enumerates evaluation.

Every evaluation gives a value of the expansion, in the order of the picks, and every value of the expansion is one of them.
-/
theorem expand_enumerates_evaluate {environment : Environment} (choice : ChoiceOnly environment) {name : String}
    {scope : Scope} {picks : List Nat} {values : List Value}
    (expanded : ((expand environment name scope).ending expansionStack picks).result = .ok values) :
    ∃ evaluated : List Value, (evaluate environment name scope).outcomesFrom expansionStack = evaluated.map .ok ∧
      evaluated.Sublist values ∧ values ⊆ evaluated ∧ (environment.HidesNothing → evaluated = values) := by
  have enumerated : Enumerates environment.HidesNothing expansionStack (expand environment name scope)
      (evaluate environment name scope) :=
    (thinning _ _).lists_map environment.applyLineBreaks
      (enumerates_expansionWithin choice environment.depthLimit rfl name scope)
  rw [ending_of_settles enumerated.settles] at expanded
  have thins := enumerated.tells values expanded
  -- All outcomes are among the values, so none of them is a failure.
  obtain ⟨evaluated, fewer, same⟩ := List.sublist_map_iff.mp thins.sublist
  refine ⟨evaluated, same, fewer, fun value inside => ?_, fun hidden => ?_⟩
  · have outcome := thins.subset (List.mem_map_of_mem inside)
    rw [same, List.mem_map] at outcome
    obtain ⟨other, among, equal⟩ := outcome
    cases equal
    exact among
  · have precise := thins.same hidden fun error inside => by simp at inside
    rw [same] at precise
    exact List.map_injective_iff.mpr (fun _ _ equal => Except.ok.inj equal) precise

/-- The texts of the values that a template expands to over no data, if it does. -/
def Environment.expandedTexts (environment : Environment) (name : String) : Option (List String) :=
  -- An expansion makes no picks.
  ((expand environment name (.ofValue .null)).ending expansionStack []).result.toOption.map (·.map Value.text)

/-- Texts are those of the values of an expansion. -/
theorem Environment.exists_of_expandedTexts {environment : Environment} {name : String} {texts : List String}
    (given : environment.expandedTexts name = some texts) :
    ∃ values, ((expand environment name (.ofValue .null)).ending expansionStack []).result = .ok values ∧
      values.map Value.text = texts := by
  rw [expandedTexts, Option.map_eq_some_iff] at given
  obtain ⟨values, expanded, same⟩ := given
  exact ⟨values, eq_ok_of_toOption expanded, same⟩

/-- A template that calls one with two texts twice. -/
def coins : Collection :=
  -- Each call is expanded by itself.
  .ofText "# coin\n- x\n- y\n\n# pair\n- $\x7bcoin()\x7d$\x7bcoin()\x7d"

/-- Two calls of a template with two texts have four outcomes, the first call varying slowest. -/
theorem coins_enumerate :
    Environment.of coins {} {} [] = .ok coins.alone ∧ ChoiceOnly coins.alone ∧
      ∃ values, ((expand coins.alone "pair" (.ofValue .null)).ending expansionStack []).result = .ok values ∧
        values.map Value.text = ["xx", "xy", "yx", "yy"] ∧
        ∃ evaluated : List Value,
          (evaluate coins.alone "pair" (.ofValue .null)).outcomesFrom expansionStack = evaluated.map .ok ∧
            evaluated.Sublist values ∧ values ⊆ evaluated ∧ (coins.alone.HidesNothing → evaluated = values) := by
  have choice : ChoiceOnly coins.alone := by decide +kernel
  have texts : coins.alone.expandedTexts "pair" = some ["xx", "xy", "yx", "yy"] := by decide +kernel
  obtain ⟨values, expanded, same⟩ := Environment.exists_of_expandedTexts texts
  exact ⟨Collection.alone_eq (by decide +kernel), choice, values, expanded, same,
    expand_enumerates_evaluate choice expanded⟩

/-- A template whose expression fails before it calls one with two texts, where a placeholder hides the failure. -/
def masked : Collection :=
  -- The expansion makes one copy of the expression for each text.
  .ofText "> !# @replaceNull = ?\n# coin\n- x\n- y\n\n# sum\n- $\x7b(1 - 'x') + coin()\x7d"

/-- A value is told once for each copy of a failing expression, although evaluation makes no pick. -/
theorem masked_repeats :
    Environment.of masked {} {} [] = .ok masked.alone ∧ ChoiceOnly masked.alone ∧
      ∃ values, ((expand masked.alone "sum" (.ofValue .null)).ending expansionStack []).result = .ok values ∧
        values.map Value.text = ["?", "?"] ∧
        ((evaluate masked.alone "sum" (.ofValue .null)).outcomesFrom expansionStack).length = 1 ∧
        (evaluate masked.alone "sum" (.ofValue .null)).outcomesFrom expansionStack ≠ values.map .ok := by
  have texts : masked.alone.expandedTexts "sum" = some ["?", "?"] := by decide +kernel
  have single : ((evaluate masked.alone "sum" (.ofValue .null)).outcomesFrom expansionStack).length = 1 := by
    decide +kernel
  obtain ⟨values, expanded, same⟩ := Environment.exists_of_expandedTexts texts
  refine ⟨Collection.alone_eq (by decide +kernel), by decide +kernel, values, expanded, same, single, fun equal => ?_⟩
  -- There is one outcome, but there are two values.
  have two := congrArg List.length same
  rw [List.length_map] at two
  rw [equal, List.length_map, two] at single
  cases single

end Phrasebook
