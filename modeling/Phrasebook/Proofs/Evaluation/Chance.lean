import Phrasebook.Proofs.Collection.Loaded
import Phrasebook.Proofs.Evaluation.Completion
import Phrasebook.Proofs.Evaluation.Settling

/-! Expansion makes no picks, except where what decides which texts count is itself picked at random. -/

namespace Phrasebook

open Evaluation

/-- Whether what decides which texts of a template count may call another template. -/
def Environment.Consults (environment : Environment) (caller callee : String) : Prop :=
  -- Conditions, subjects and values of cases are evaluated, never expanded.
  ∃ template, environment.registry.get? caller = some template ∧ ∃ guard ∈ template.body.guards,
    ∃ name args, .call name args ∈ guard.expression.nodes ∧ mayCall name args callee

/-- Whether chance has no part in which texts count where a template leads to. -/
structure Environment.Decided (environment : Environment) (root : String) : Prop where
  /-- No call leads to files or to registered functions. -/
  contained : ∀ caller name args, Relation.ReflTransGen environment.Follows root caller →
    environment.Holds caller name args → environment.Contains name
  /-- A template has no two texts to pick from if it has a say in which texts count. -/
  single : ∀ caller callee reached template, Relation.ReflTransGen environment.Follows root caller →
    environment.Consults caller callee → Relation.ReflTransGen environment.Calls callee reached →
      environment.registry.get? reached = some template →
        ∀ candidates ∈ template.body.alternatives, candidates.length ≤ 1

/-- What a template may consult it may call. -/
theorem Environment.Consults.calls {environment : Environment} {caller callee : String}
    (consults : environment.Consults caller callee) : environment.Calls caller callee := by
  obtain ⟨template, defined, guard, inside, name, args, node, may⟩ := consults
  exact ⟨name, args, ⟨template, defined, guard, template.body.guards_subset inside, node⟩, may⟩

section Chance

variable {environment : Environment} {stack : CallStack}

/-- Failures, their handling and the places of errors settle. -/
theorem settling_handles : (settling stack).Handles fun _ => True where
  fails error _ := ⟨settles_fail error, settles_fail error, .error error⟩
  attempts body := by
    obtain ⟨settled₁, settled₂, agree⟩ := body
    obtain ⟨attempted₁, result₁⟩ := settles_attempt settled₁
    obtain ⟨attempted₂, result₂⟩ := settles_attempt settled₂
    refine ⟨attempted₁, attempted₂, ?_⟩
    rw [result₁, result₂]
    exact .ok ⟨agree.eq, fun _ _ => trivial⟩
  places site := alike_of_settles (settles_placeOf site)
  others _ _ _ _ := trivial

/-- Where there are no two alternatives, nothing is picked. -/
theorem settling_picks {candidates : List TemplateText} (single : candidates.length ≤ 1) :
    (settling stack).PicksAlike candidates := by
  match candidates, single with
  | [], _ => exact ⟨rfl, rfl, .ok ⟨rfl, nofun⟩⟩
  | [only], _ => exact ⟨rfl, rfl, .ok ⟨rfl, fun text taken => List.mem_singleton.mpr (Option.some.inj taken).symm⟩⟩

/-- An embedded expression settles if the templates do that it may call. -/
theorem settling_embeds {calls : Calls Evaluation} (scope : Scope) (embedded : Embedded)
    (contained : ∀ name args, .call name args ∈ embedded.expression.nodes → environment.Contains name)
    (called : ∀ name args, .call name args ∈ embedded.expression.nodes → ∀ callee, mayCall name args (splitRerun callee).1 →
      ∀ scope, (calls.template callee scope).Settles stack) :
    (settling stack).EmbedsAlike environment environment calls calls scope scope embedded := by
  refine embedsAlike_of_eval settling_handles rfl embedded ?_
  refine Expression.eval_alike _ (fun error => settling_handles.raises error) embedded.expression (fun _ _ => rfl)
    fun name args node => ⟨fun lazy => isNone_own_if lazy rfl, fun values fit => ?_⟩
  have answered (callee : String) (passed : List Value) (may : mayCall name args (splitRerun callee).1) :
      (settling stack).Alike (callTemplate environment calls callee passed scope)
        (callTemplate environment calls callee passed scope) := by
    exact callee_alike settling_handles environment (fun _ _ _ _ => trivial) fun template bound _ _ =>
      alike_of_settles (called name args node callee may bound)
  obtain ⟨noFile, known⟩ := contained name args node
  refine hostOf_call_alike (fun _ => rfl) (fun _ _ => rfl) (fun _ _ _ => rfl) (fun error => settling_handles.raises error) ?_
    (fun file => absurd file noFile) (fun other _ => answered name values (mayCall_of_not_mem other args)) ?_
  · rintro rfl target rest named
    exact answered target rest (mayCall_of_templateTarget fit named)
  · exact fun other unknown _ _ found _ => absurd found (not_registered known other unknown)

/-- Where no results are kept, a template settles if its body does on a frame of its own. -/
theorem settles_evalTemplate (fresh : stack.memoized = false) {calls : Calls Evaluation} {scope : Scope} (name : String)
    (body : ∀ template, environment.lookup (splitRerun name).1 = .ok template →
      (evalBody environment calls scope template.body).Settles (stack.push (splitRerun name).1)) :
    (evalTemplate environment calls name scope).Settles stack := by
  unfold evalTemplate
  generalize splitRerun name = parts at body
  obtain ⟨base, rerun⟩ := parts
  refine settles_bind (settles_ofExcept _) fun template found => ?_
  rw [firstResult_ofExcept] at found
  refine settles_bind (settles_checkLoop base) fun _ _ => ?_
  obtain ⟨framed, _⟩ := settles_withFrame base (body template found)
  refine settles_bind rfl fun now looked => ?_
  -- Nothing is found among the kept results, and nothing is kept.
  obtain rfl : stack = now := Except.ok.inj looked
  have nothing : stack.cached? ⟨base, scope.fingerprint⟩ = none := by simp [CallStack.cached?, fresh]
  rw [nothing]
  cases rerun with
  | true => exact framed
  | false =>
    refine settles_bind framed fun value _ => ?_
    change Choice.done (Except.ok value, stack.store ⟨base, scope.fingerprint⟩ value) = .done (Except.ok value, _)
    rw [CallStack.store_of_unmemoized fresh]

/-- A template settles that leads to no template with two texts to pick from. -/
theorem settles_callsWithin {root : String}
    (contained : ∀ caller name args, Relation.ReflTransGen environment.Calls root caller →
      environment.Holds caller name args → environment.Contains name)
    (single : ∀ reached template, Relation.ReflTransGen environment.Calls root reached →
      environment.registry.get? reached = some template →
        ∀ candidates ∈ template.body.alternatives, candidates.length ≤ 1) (limit : Nat) :
    ∀ {stack : CallStack}, stack.memoized = false → ∀ name scope,
      Relation.ReflTransGen environment.Calls root (splitRerun name).1 →
        Settles stack ((callsWithin limit environment).template name scope) := by
  induction limit with
  | zero => exact fun _ name scope _ => settles_fail _
  | succ limit settled =>
    intro stack fresh name scope reached
    refine settles_evalTemplate fresh name fun template found => ?_
    have defined := get?_of_lookup found
    have framed : (stack.push (splitRerun name).1).memoized = false := fresh
    have holds {embedded : Embedded} (among : embedded ∈ template.expressions) (name : String) (args : List Expression)
        (node : .call name args ∈ embedded.expression.nodes) : environment.Holds _ name args :=
      ⟨template, defined, embedded, among, node⟩
    have picks : ∀ candidates ∈ template.body.alternatives, (settling (stack.push (splitRerun name).1)).PicksAlike candidates :=
      fun candidates among => settling_picks (single _ template reached defined candidates among)
    have body := evalBody_alike template.body picks
      fun embedded among => settling_embeds scope embedded
        (fun name args node => contained _ name args reached (holds among name args node))
        fun name args node callee may bound =>
          settled framed callee bound (reached.tail ⟨name, args, holds among name args node, may⟩)
    exact settles_of_alike body

/-- All that the expansion of a template does by itself settles if the templates do that it may lead to. -/
theorem settling_delegates {caller : String} {calls : Calls Evaluation} {expansion : Expansion Evaluation} (scope : Scope)
    (contained : ∀ name args, environment.Holds caller name args → environment.Contains name)
    (expanded : ∀ callee bound, environment.Follows caller (splitRerun callee).1 → (expansion callee bound).Settles stack) :
    (settling stack).DelegatesAlike environment environment calls calls expansion expansion scope (environment.Holds caller)
      Expression.CanBe := by
  -- What is left of an expression calls no template.
  have evaluated (expression : Expression)
      (left : expression.Everywhere (Expression.CopiesCall (Expression.LeftOver environment (environment.Holds caller)))) :
      (settling stack).Alike (expression.eval (hostOf environment calls) scope)
        (expression.eval (hostOf environment calls) scope) := by
    refine alike_of_settles (settles_eval expression fun name args node values => ?_)
    obtain ⟨originals, ⟨holds, foreign⟩, _⟩ := left _ node
    exact settles_call (contained name originals holds) foreign values
  have called (target : String) (values : List Value) (follows : environment.Follows caller (splitRerun target).1) :
      (settling stack).Alike (expandCall ⟨environment, calls, expansion⟩ target values scope)
        (expandCall ⟨environment, calls, expansion⟩ target values scope) := by
    exact callee_alike settling_handles environment (fun _ _ _ _ => trivial) fun callee bound _ _ =>
      alike_of_settles (expanded target bound follows)
  refine ⟨rfl, fun embedded left => embedsAlike_of_eval settling_handles rfl embedded (evaluated embedded.expression left),
    fun _ _ _ _ _ _ copy site _ left => ?_, fun _ _ _ error _ _ _ => settling_handles.raises error,
    fun name args values passes other => called name values ⟨name, args, passes.1, mayLead_of_ne other args⟩,
    fun name args values target rest passes function named => called target rest ⟨name, args, passes.1, ?_⟩⟩
  · exact evalArgument_canBe settling_handles (fun _ => rfl) (fun _ => rfl) copy site (evaluated copy left)
  · exact mayLead_of_templateTarget function passes.canBe named

/-- A template is expanded without a pick if its body is on a frame of its own. -/
theorem settles_expandTemplate {calls : Calls Evaluation} {expansion : Expansion Evaluation} {scope : Scope} (name : String)
    (body : ∀ template, environment.lookup (splitRerun name).1 = .ok template →
      (expandBody ⟨environment, calls, expansion⟩ scope template.body).Settles (stack.push (splitRerun name).1)) :
    (expandTemplate ⟨environment, calls, expansion⟩ name scope).Settles stack := by
  refine settles_bind (settles_ofExcept _) fun template found => settles_bind (settles_checkLoop _) fun _ _ => ?_
  rw [firstResult_ofExcept] at found
  exact (settles_withFrame _ (body template found)).1

/-- Expansion settles if chance has no part in which texts count. -/
theorem settles_expansionWithin {root : String} (decided : environment.Decided root) (limit : Nat) :
    ∀ {stack : CallStack}, stack.memoized = false → ∀ name scope,
      Relation.ReflTransGen environment.Follows root (splitRerun name).1 →
        Settles stack (expansionWithin environment limit name scope) := by
  induction limit with
  | zero => exact fun _ name scope _ => settles_fail _
  | succ limit settled =>
    intro stack fresh name scope reached
    rw [expansionWithin_succ]
    refine settles_expandTemplate name fun template found => ?_
    have defined := get?_of_lookup found
    have framed : (stack.push (splitRerun name).1).memoized = false := fresh
    have holds {embedded : Embedded} (among : embedded ∈ template.expressions) (called : String) (args : List Expression)
        (node : .call called args ∈ embedded.expression.nodes) : environment.Holds (splitRerun name).1 called args :=
      ⟨template, defined, embedded, among, node⟩
    have contained (called : String) (args : List Expression) := decided.contained _ called args reached
    refine settles_of_alike (expandBody_alike (settling_delegates scope contained fun callee bound follows =>
      settled framed callee bound (reached.tail follows)) template.body
        (Expression.allCalls_of_calls fun embedded among => holds among) fun guard inside => ?_)
    -- What decides which texts count is evaluated, and so is all that it leads to.
    have node := holds (template.body.guards_subset inside)
    refine settling_embeds scope guard (fun called args inner => contained called args (node called args inner))
      fun called args inner callee may bound => ?_
    have consults : environment.Consults (splitRerun name).1 (splitRerun callee).1 :=
      ⟨template, defined, guard, inside, called, args, inner, may⟩
    refine settles_callsWithin (fun caller name args onward => ?_) (fun other template onward => ?_) limit framed callee bound .refl
    · refine decided.contained caller name args ((reached.tail consults.calls.follows).trans ?_)
      exact Relation.ReflTransGen.mono (fun _ _ calls => calls.follows) _ _ onward
    · exact decided.single _ _ other template reached consults onward

/--
Expansion does not depend on chance.

It gives the same values in the same order, or the same error, whatever is picked where a condition is evaluated.
-/
theorem expand_result_eq_of_decided {name : String} (decided : environment.Decided (splitRerun name).1) (scope : Scope)
    (picks₁ picks₂ : List Nat) :
    ((expand environment name scope).ending expansionStack picks₁).result =
      ((expand environment name scope).ending expansionStack picks₂).result := by
  have fresh : expansionStack.memoized = false := rfl
  have settled : (expand environment name scope).Settles expansionStack :=
    settles_bind (settles_expansionWithin decided environment.depthLimit fresh name scope .refl) fun _ _ => settles_pure _
  rw [ending_of_settles settled, ending_of_settles settled]

end Chance

/-- The names that are called by what decides which texts count. -/
def Environment.guardNames (environment : Environment) : List String :=
  -- Calls may stand anywhere in a condition, a subject or the value of a case.
  environment.registry.flatMap fun (_, template) => template.body.guards.flatMap fun guard =>
    guard.expression.nodes.filterMap fun node =>
      match node with
      | .call name _ => some name
      | _ => none

/-- What a template consults is called by one of the listed names. -/
theorem Environment.Consults.mem_guardNames {environment : Environment} {caller callee : String}
    (consults : environment.Consults caller callee) :
    ∃ name args, name ∈ environment.guardNames ∧ mayCall name args callee := by
  obtain ⟨template, defined, guard, inside, name, args, node, may⟩ := consults
  refine ⟨name, args, List.mem_flatMap.mpr ⟨(caller, template), SortedMap.mem_of_get? defined, ?_⟩, may⟩
  exact List.mem_flatMap.mpr ⟨guard, inside, List.mem_filterMap.mpr ⟨_, node, rfl⟩⟩

/-- The texts of the values that a template expands to over no data under some picks, if it does. -/
def Environment.expandedUnder (environment : Environment) (name : String) (picks : List Nat) : Option (List String) :=
  -- Expansion does not keep results.
  ((expand environment name (.ofValue .null)).ending expansionStack picks).result.toOption.map (·.map Value.text)

/-- A template with a condition that calls one with a single text, and with texts that call one with two. -/
def forecast : Collection :=
  -- The season is settled, but the weather is not.
  .ofText ("# season\n- winter\n\n# weather\n- rain\n- snow\n\n" ++
    "# t\n- IF: $\x7bseason() == 'winter'\x7d\n  - $\x7bweather()\x7d, $\x7bweather()\x7d\n- ELSE:\n  - sun")

/-- A condition that is settled leaves no room for chance. -/
theorem forecast_result_eq :
    Environment.of forecast {} {} [] = .ok forecast.alone ∧ forecast.alone.Decided (splitRerun "t").1 ∧
      forecast.alone.expandedUnder "t" [1, 0, 1] = some ["rain, rain", "rain, snow", "snow, rain", "snow, snow"] ∧
      ((expand forecast.alone "t" (.ofValue .null)).ending expansionStack [1, 0, 1]).result =
        ((expand forecast.alone "t" (.ofValue .null)).ending expansionStack []).result := by
  obtain ⟨sound, names, contained, consulted, single, told⟩ : forecast.errors.length = 0 ∧
      forecast.alone.callNames = [("t", "season"), ("t", "weather"), ("t", "weather")] ∧
      (∀ name ∈ ["season", "weather"], forecast.alone.Contains name) ∧ forecast.alone.guardNames = ["season"] ∧
      (∀ entry ∈ forecast.alone.registry, entry.1 = "season" →
        ∀ candidates ∈ entry.2.body.alternatives, candidates.length ≤ 1) ∧
      forecast.alone.expandedUnder "t" [1, 0, 1] = some ["rain, rain", "rain, snow", "snow, rain", "snow, snow"] := by
    decide +kernel
  have unmarked : (splitRerun "season").1 = "season" := by decide +kernel
  have decided : forecast.alone.Decided (splitRerun "t").1 := by
    refine ⟨fun caller name args _ holds => contained name ?_, fun caller callee reached template _ consults onward defined => ?_⟩
    · have listed := holds.mem_callNames
      simp only [names, List.mem_cons, Prod.mk.injEq, List.not_mem_nil, or_false] at listed
      rcases listed with ⟨-, rfl⟩ | ⟨-, rfl⟩ | ⟨-, rfl⟩ <;> simp
    · obtain ⟨name, args, inside, may⟩ := consults.mem_guardNames
      rw [consulted, List.mem_singleton] at inside
      obtain rfl : callee = "season" := by rwa [inside, mayCall_iff_of_ne (by decide), unmarked] at may
      -- The template that is consulted calls no other.
      rcases onward.cases_head with rfl | ⟨next, ⟨called, passed, holds, -⟩, -⟩
      · exact single _ (SortedMap.mem_of_get? defined) rfl
      · have listed := holds.mem_callNames
        simp [names] at listed
  exact ⟨Collection.alone_eq sound, decided, told,
    expand_result_eq_of_decided decided (.ofValue .null) [1, 0, 1] []⟩

/-- A template with a condition that calls one with two texts. -/
def toss : Collection :=
  -- Both branches cannot be told at once.
  .ofText "# coin\n- x\n- y\n\n# t\n- IF: $\x7bcoin() == 'y'\x7d\n  - heads\n- ELSE:\n  - tails"

/-- Where a condition is left to chance, expansion tells one branch or the other. -/
theorem toss_expands_by_chance :
    Environment.of toss {} {} [] = .ok toss.alone ∧ toss.alone.callNames = [("t", "coin")] ∧
      toss.alone.functions = [] ∧ toss.alone.expandedUnder "t" [0] = some ["tails"] ∧
      toss.alone.expandedUnder "t" [1] = some ["heads"] ∧
      ((expand toss.alone "t" (.ofValue .null)).ending expansionStack [0]).result ≠
        ((expand toss.alone "t" (.ofValue .null)).ending expansionStack [1]).result := by
  obtain ⟨sound, names, tails, heads⟩ : toss.errors.length = 0 ∧ toss.alone.callNames = [("t", "coin")] ∧
      toss.alone.expandedUnder "t" [0] = some ["tails"] ∧ toss.alone.expandedUnder "t" [1] = some ["heads"] := by
    decide +kernel
  refine ⟨Collection.alone_eq sound, names, rfl, tails, heads, fun same => ?_⟩
  rw [Environment.expandedUnder, same] at tails
  exact absurd (tails.symm.trans heads) (by decide)

end Phrasebook
