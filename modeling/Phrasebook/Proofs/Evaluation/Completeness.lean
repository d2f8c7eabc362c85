import Phrasebook.Proofs.Evaluation.Chance
import Phrasebook.Proofs.Evaluation.Gathering

/-! Expansion is complete: whatever is picked, evaluation gives a value that expansion tells. -/

namespace Phrasebook

open Evaluation

/-- The first element of a list that counts is a good one. -/
inductive FirstIs {α : Type} (counts good : α → Prop) : List α → Prop where
  /-- The head counts. -/
  | here {head : α} {rest : List α} (count : counts head) (fine : good head) : FirstIs counts good (head :: rest)
  /-- The head does not count. -/
  | later {head : α} {rest : List α} (other : ¬ counts head) (further : FirstIs counts good rest) :
    FirstIs counts good (head :: rest)

/-- Where all elements are good, the first one that counts is. -/
theorem firstIs_of_forall {α : Type} {counts good : α → Prop} {list : List α} (fine : ∀ element ∈ list, good element)
    (some : ∃ element ∈ list, counts element) : FirstIs counts good list := by
  induction list with
  | nil =>
    obtain ⟨_, ⟨⟩, _⟩ := some
  | cons head rest further =>
    by_cases count : counts head
    · exact .here count (fine head List.mem_cons_self)
    · refine .later count (further (fun element inside => fine element (List.mem_cons_of_mem _ inside)) ?_)
      obtain ⟨element, inside, counts⟩ := some
      rcases List.mem_cons.mp inside with rfl | inside
      · exact absurd counts count
      · exact ⟨element, inside, counts⟩

/-- Whether the texts of a branch count in a scope. -/
def Environment.Holding (environment : Environment) (scope : Scope) (branch : Branch) : Prop :=
  -- A branch without a condition always counts; a condition calls no template, so that the stack does not matter.
  ∀ condition, branch.condition = some condition → ∃ stack, firstResult stack
    (evalCondition environment (callsWithin 0 environment) condition scope (.condition condition.source)) = .ok true

/-- The value of a subject, or of a case, in a scope. -/
def Environment.Labels (environment : Environment) (scope : Scope) (embedded : Embedded) (site : Site) (value : Value) :
    Prop :=
  -- It calls no template, so that the stack does not matter.
  ∃ stack, firstResult stack (evalEmbedded environment (callsWithin 0 environment) embedded scope site) = .ok value

/-- Whether the texts of a case count in a scope, given the text of the subject. -/
def Environment.Fitting (environment : Environment) (scope : Scope) (key : String) (case : Case) : Prop :=
  -- A case without a value always counts.
  ∀ value, case.value = some value → ∃ label, environment.Labels scope value (.case value.source) label ∧ label.text = key

/-- Whether there is a text to pick when a body is evaluated in a scope. -/
def Environment.Offers (environment : Environment) (scope : Scope) : Body → Prop
  -- It is looked for in the first branch that holds, or the first case that fits.
  | .normal candidates => candidates ≠ []
  | .conditional branches => FirstIs (environment.Holding scope) (·.body ≠ []) branches
  | .switch subject cases => ∀ key, environment.Labels scope subject (.subject subject.source) key →
    FirstIs (environment.Fitting scope key.text) (·.body ≠ []) cases
  | .structured _ _ => True

/-- Whether there is a text to pick wherever a body is evaluated, told by its form. -/
def Body.alwaysOffers : Body → Bool
  -- Some branch has no condition or some case no value, and none is empty.
  | .normal candidates => !candidates.isEmpty
  | .conditional branches => branches.all (!·.body.isEmpty) && branches.any (·.condition.isNone)
  | .switch _ cases => cases.all (!·.body.isEmpty) && cases.any (·.value.isNone)
  | .structured _ _ => true

/-- What always offers a text offers one in every scope. -/
theorem Body.offers_of_alwaysOffers {body : Body} (always : body.alwaysOffers = true) (environment : Environment)
    (scope : Scope) : environment.Offers scope body := by
  cases body with
  | normal candidates => simpa [Body.alwaysOffers, Environment.Offers] using always
  | structured typeName lines => trivial
  | conditional branches =>
    simp only [Body.alwaysOffers, Bool.and_eq_true, List.all_eq_true, List.any_eq_true, Option.isNone_iff_eq_none] at always
    obtain ⟨full, branch, inside, default⟩ := always
    refine firstIs_of_forall (fun branch inside => by simpa using full branch inside) ⟨branch, inside, ?_⟩
    intro condition given
    rw [default] at given
    cases given
  | switch subject cases =>
    simp only [Body.alwaysOffers, Bool.and_eq_true, List.all_eq_true, List.any_eq_true, Option.isNone_iff_eq_none] at always
    obtain ⟨full, case, inside, default⟩ := always
    refine fun key _ => firstIs_of_forall (fun case inside => by simpa using full case inside) ⟨case, inside, ?_⟩
    intro value given
    rw [default] at given
    cases given

/-- Wherever a template leads to, there is a text to pick, and expansion takes calls for what they are. -/
structure Environment.Covered (environment : Environment) (root : String × Scope) : Prop where
  /-- No call leads to files or to registered functions, or is taken for another one. -/
  reads : ∀ caller name args, Relation.ReflTransGen environment.Follows root.1 caller →
    environment.Holds caller name args → environment.Contains name ∧ environment.ReadsAlike name
  /-- Nothing that decides which texts count calls a template. -/
  calm : ∀ caller template, Relation.ReflTransGen environment.Follows root.1 caller →
    environment.registry.get? caller = some template →
      ∀ guard ∈ template.body.guards, callsTemplate environment guard.expression = false
  /-- There is a text to pick in every scope that a template is called in. -/
  offers : ∀ caller template, Relation.ReflTransGen environment.Enters root caller →
    environment.registry.get? caller.1 = some template → environment.Offers caller.2 template.body

section Bodies

variable {gathering : Gathering} {bare : CallStack} {environment : Environment} {calls : Calls Evaluation}
  {expansion : Expansion Evaluation} {scope : Scope} {caller : String}

/-- More values may be told. -/
theorem Gathering.tells_mono {α : Type} {body : Evaluation α} {values more : List α}
    (tells : (gathering.lister bare).Tells body values) (subset : values ⊆ more) : (gathering.lister bare).Tells body more := by
  refine Gathering.tells_iff.mpr ((Gathering.tells_iff.mp tells).weaken ?_)
  rintro result ⟨value, inside, same⟩
  exact ⟨value, subset inside, same⟩

variable (gathers : gathering.Gathers bare environment calls expansion scope caller)

include gathers

/-- An expression that calls no template is evaluated by itself, and without a pick. -/
theorem Gathering.Gathers.guard {embedded : Embedded}
    (knows : embedded.expression.Everywhere (Expression.IsKnown (environment.Holds caller)))
    (calm : callsTemplate environment embedded.expression = false) :
    environment.Foreign embedded.expression ∧
      (settling bare).EmbedsAlike environment environment calls calls scope scope embedded :=
  ⟨foreign_of_callsTemplate (fun name args node => (gathers.reads name args (knows _ node)).1) calm,
    gathers.settles.embeds embedded (Expression.everywhere_of_foreign knows calm)⟩

/-- Alternative texts are told one after the other. -/
theorem Gathering.Gathers.lists_candidates {candidates : List TemplateText} (some : candidates ≠ [])
    (knows : Expression.AllCalls (environment.Holds caller) (textsExpressions candidates)) :
    (gathering.lister bare).Lists (expandCandidates ⟨environment, calls, expansion⟩ scope candidates)
      (evalCandidates environment calls candidates scope) :=
  lists_expandCandidates some fun embedded inside => gathers.embedsListed embedded (knows embedded inside)

/-- What is told of alternative texts, and of whatever else comes behind them, tells what is picked. -/
theorem Gathering.Gathers.tells_candidates {candidates : List TemplateText} (some : candidates ≠ [])
    (knows : Expression.AllCalls (environment.Holds caller) (textsExpressions candidates)) {others : Evaluation (List Value)}
    {values : List Value} (given : firstResult bare (expandCandidates ⟨environment, calls, expansion⟩ scope candidates >>=
      fun told => others >>= fun more => pure (told ++ more)) = .ok values) :
    (gathering.lister bare).Tells (evalCandidates environment calls candidates scope) values := by
  have listed := gathers.lists_candidates some knows
  obtain ⟨told, first, given⟩ := exists_of_firstResult_bind listed.settles given
  obtain ⟨_, rfl⟩ := exists_of_firstResult_map given
  exact Gathering.tells_mono (listed.tells told first) (List.subset_append_left _ _)

/-- What is told starts with the texts of the first branch that holds, if it has some. -/
theorem Gathering.Gathers.tells_branches {branches : List Branch} (values : List Value)
    (knows : Expression.AllCalls (environment.Holds caller) (Body.conditional branches).expressions)
    (guards : ∀ guard ∈ (Body.conditional branches).guards, environment.Foreign guard.expression ∧
      (settling bare).EmbedsAlike environment environment calls calls scope scope guard)
    (offers : environment.Offers scope (.conditional branches))
    (given : (expandBranches ⟨environment, calls, expansion⟩ scope false branches).firstResult bare = .ok values) :
    (gathering.lister bare).Tells (evalBranches environment calls scope branches) values := by
  induction offers with
  | @here branch rest holds offer =>
    have texts := (List.forall_mem_append.mp (List.forall_mem_append.mp knows).1).2
    rw [expandBranches] at given
    rw [evalBranches]
    cases conditioned : branch.condition with
    | none =>
      rw [conditioned] at given
      exact gathers.tells_candidates offer texts given
    | some condition =>
      obtain ⟨foreign, alike⟩ := guards condition (List.mem_filterMap.mpr ⟨branch, List.mem_cons_self, conditioned⟩)
      obtain ⟨start, held⟩ := holds condition conditioned
      rw [conditioned] at given
      dsimp only at given ⊢
      rw [evalCondition_eq_pure foreign held, pure_bind] at given ⊢
      exact gathers.tells_candidates offer texts given
  | @later branch rest other further ih =>
    rw [expandBranches] at given
    rw [evalBranches]
    cases conditioned : branch.condition with
    | none => exact absurd (fun condition same => by simp [conditioned] at same) other
    | some condition =>
      obtain ⟨foreign, alike⟩ := guards condition (List.mem_filterMap.mpr ⟨branch, List.mem_cons_self, conditioned⟩)
      rw [conditioned] at given
      obtain ⟨truth, held, given⟩ := exists_of_firstResult_bind (settles_of_alike (alike.condition _)) given
      dsimp only
      rw [evalCondition_eq_pure foreign held, pure_bind]
      cases truth with
      | true =>
        refine absurd (fun condition' same => ?_) other
        obtain rfl := Option.some.inj (conditioned.symm.trans same)
        exact ⟨bare, by rw [evalCondition_eq_pure foreign held]; rfl⟩
      | false =>
        refine ih (List.forall_mem_append.mp knows).2 (fun guard inside => guards guard ?_) given
        obtain ⟨later, within, same⟩ := List.mem_filterMap.mp inside
        exact List.mem_filterMap.mpr ⟨later, List.mem_cons_of_mem _ within, same⟩

/-- What is told starts with the texts of the first case that fits, if it has some. -/
theorem Gathering.Gathers.tells_cases {cases : List Case} (key : String) (values : List Value)
    (knows : Expression.AllCalls (environment.Holds caller)
      (cases.flatMap fun case => case.value.toList ++ textsExpressions case.body))
    (guards : ∀ guard ∈ cases.filterMap (·.value), environment.Foreign guard.expression ∧
      (settling bare).EmbedsAlike environment environment calls calls scope scope guard)
    (offers : FirstIs (environment.Fitting scope key) (·.body ≠ []) cases)
    (given : (expandCases ⟨environment, calls, expansion⟩ scope key false cases).firstResult bare = .ok values) :
    (gathering.lister bare).Tells (evalCases environment calls scope key cases) values := by
  induction offers with
  | @here case rest fits offer =>
    have texts := (List.forall_mem_append.mp (List.forall_mem_append.mp knows).1).2
    rw [expandCases] at given
    rw [evalCases]
    cases valued : case.value with
    | none =>
      rw [valued] at given
      exact gathers.tells_candidates offer texts given
    | some value =>
      obtain ⟨foreign, alike⟩ := guards value (List.mem_filterMap.mpr ⟨case, List.mem_cons_self, valued⟩)
      obtain ⟨label, ⟨start, held⟩, rfl⟩ := fits value valued
      rw [valued] at given
      dsimp only at given ⊢
      rw [evalEmbedded_eq_pure foreign held, pure_bind, if_pos (beq_self_eq_true _)] at given ⊢
      exact gathers.tells_candidates offer texts given
  | @later case rest other further ih =>
    rw [expandCases] at given
    rw [evalCases]
    cases valued : case.value with
    | none => exact absurd (fun value same => by simp [valued] at same) other
    | some value =>
      obtain ⟨foreign, alike⟩ := guards value (List.mem_filterMap.mpr ⟨case, List.mem_cons_self, valued⟩)
      rw [valued] at given
      obtain ⟨label, held, given⟩ := exists_of_firstResult_bind (settles_of_alike (alike.value _)) given
      dsimp only
      rw [evalEmbedded_eq_pure foreign held, pure_bind]
      cases fits : label.text == key with
      | true =>
        refine absurd (fun value' same => ?_) other
        obtain rfl := Option.some.inj (valued.symm.trans same)
        exact ⟨label, ⟨bare, by rw [evalEmbedded_eq_pure foreign held]; rfl⟩, by simpa using fits⟩
      | false =>
        rw [fits] at given
        refine ih (List.forall_mem_append.mp knows).2 (fun guard inside => guards guard ?_) given
        obtain ⟨later, within, same⟩ := List.mem_filterMap.mp inside
        exact List.mem_filterMap.mpr ⟨later, List.mem_cons_of_mem _ within, same⟩

/-- What a body is evaluated to is among what it expands to, if there is a text to pick. -/
theorem Gathering.Gathers.lists_expandBody {body : Body} (knows : Expression.AllCalls (environment.Holds caller) body.expressions)
    (calm : ∀ guard ∈ body.guards, callsTemplate environment guard.expression = false) (offers : environment.Offers scope body) :
    (gathering.lister bare).Lists (expandBody ⟨environment, calls, expansion⟩ scope body)
      (evalBody environment calls scope body) := by
  have guards (guard : Embedded) (inside : guard ∈ body.guards) :=
    gathers.guard (knows guard (body.guards_subset inside)) (calm guard inside)
  have settled := settles_of_alike (expandBody_alike gathers.settles body knows fun guard inside => (guards guard inside).2)
  cases body with
  | normal candidates => exact gathers.lists_candidates offers knows
  | structured typeName lines =>
    exact lists_structured typeName lines fun embedded inside => gathers.embedsListed embedded (knows embedded inside)
  | conditional branches =>
    exact ⟨settled, fun values given => gathers.tells_branches values knows guards offers given⟩
  | switch subject cases =>
    refine ⟨settled, fun values given => ?_⟩
    obtain ⟨⟨foreign, alike⟩, cases'⟩ := List.forall_mem_cons.mp guards
    obtain ⟨key, labelled, given⟩ := exists_of_firstResult_bind (settles_of_alike (alike.value _)) given
    have labels : environment.Labels scope subject (.subject subject.source) key :=
      ⟨bare, by rw [evalEmbedded_eq_pure foreign labelled]; rfl⟩
    rw [evalBody, evalEmbedded_eq_pure foreign labelled, pure_bind]
    exact gathers.tells_cases key.text values (List.forall_mem_cons.mp knows).2 cases' (offers key labels) given

end Bodies

section Templates

variable {environment : Environment} {root : String × Scope}

/-- Where what decides which texts count calls no template, chance has no part in it. -/
theorem Environment.Covered.decided (covered : environment.Covered root) : environment.Decided root.1 := by
  refine ⟨fun caller name args reached holds => (covered.reads caller name args reached holds).1,
    fun caller callee reached template followed consults onward defined => ?_⟩
  obtain ⟨consulting, found, guard, inside, name, args, node, may⟩ := consults
  -- The name that is called is that of no template.
  have foreign : isTemplateCall environment name = false := by
    have none := List.any_eq_false.mp (covered.calm caller consulting followed found guard inside) _ node
    simpa using none
  simp only [isTemplateCall, Bool.or_eq_false_iff, beq_eq_false_iff_ne] at foreign
  obtain ⟨noFunction, absent⟩ := foreign
  rw [mayCall_iff_of_ne (by rintro rfl; exact noFunction (by decide +kernel))] at may
  have unknown (other : Template) : environment.registry.get? callee ≠ some other := by
    intro known
    rw [Environment.hasTemplate, ← may] at absent
    simpa using List.any_eq_false.mp absent _ (SortedMap.mem_of_get? known)
  rcases onward.cases_head with rfl | ⟨next, ⟨called, passed, ⟨other, known, _⟩, _⟩, _⟩
  · exact absurd defined (unknown template)
  · exact absurd known (unknown other)

/-- What is reached in some scope is reached in all scopes. -/
theorem Environment.follows_of_enters {caller : String × Scope} (reached : Relation.ReflTransGen environment.Enters root caller) :
    Relation.ReflTransGen environment.Follows root.1 caller.1 :=
  reached.lift Prod.fst fun _ _ enters => enters.follows

/-- A template that does not run yet is no loop. -/
theorem not_mem_of_checkLoop {stack : CallStack} {name : String}
    (checked : (Evaluating.checkLoop name : Evaluation Unit).firstResult stack = .ok ()) : name ∉ stack.names := by
  intro running
  have ran : ((Evaluating.checkLoop name : Evaluation Unit).ending stack []).result = .ok () := checked
  rw [ending_checkLoop, if_pos running] at ran
  cases ran

/-- A call is expanded to all that it is evaluated to, if the templates are that it enters. -/
theorem Gathering.comes_call {gathering : Gathering} {bare : CallStack} {calls : Calls Evaluation}
    {expansion : Expansion Evaluation} {scope : Scope} {caller name : String} {args : List Expression} {values : List Value}
    (reads : environment.ReadsAlike name) (passes : environment.Passes (caller, scope) name args values)
    (entered : ∀ callee bound, environment.Enters (caller, scope) ((splitRerun callee).1, bound) → bound.globals = scope.globals →
      (gathering.lister bare).Lists (expansion callee bound) (calls.template callee bound)) {listed : List Value}
    (named : (expandNamed ⟨environment, calls, expansion⟩ name values scope).firstResult bare = .ok listed) :
    gathering.Comes bare ((hostOf environment calls).call name values scope) fun result =>
      ∃ value ∈ listed, result = .ok value := by
  rw [expandNamed_eq] at named
  rw [hostOf_call_of_readsAlike reads passes.2.1]
  cases aimed : targetOf name values with
  | error error =>
    rw [aimed] at named
    cases named
  | ok pair =>
    obtain ⟨target, rest⟩ := pair
    rw [aimed] at named
    -- The template is entered in the scope that binds the arguments.
    obtain ⟨callee, known, named⟩ := exists_of_firstResult_bind (settles_ofExcept _) named
    obtain ⟨bound, binds, named⟩ := exists_of_firstResult_bind (settles_ofExcept _) named
    rw [firstResult_ofExcept] at known binds
    have called : callTemplate environment calls target rest scope = calls.template target bound := by
      dsimp only at known
      simp only [callTemplate, known, binds, Evaluating.ofExcept, pure_bind]
    dsimp only
    rw [called]
    refine (entered target bound ?_ (Afresh.globals_of_bindArguments binds)).tells listed named
    exact ⟨name, args, values, target, rest, callee, passes, aimed, known, rfl, binds⟩

/-- What a template is evaluated to on its own frame is kept among what it expands to. -/
theorem Gathering.comes_evalTemplate {limit : Nat} {globals : Value} {bare : CallStack} {name : String} {scope : Scope}
    {template : Template} (found : environment.lookup (splitRerun name).1 = .ok template)
    (idle : (splitRerun name).1 ∉ bare.names) (shared : scope.globals = globals) {values : List Value}
    (expanded : firstResult bare (expansionWithin environment (limit + 1) name scope) = .ok values)
    (body : (⟨environment, limit, globals⟩ : Gathering).Comes (bare.push (splitRerun name).1)
      (evalBody environment (callsWithin limit environment) scope template.body)
      fun result => ∃ value ∈ values, result = .ok value) :
    (⟨environment, limit + 1, globals⟩ : Gathering).Comes bare
      (evalTemplate environment (callsWithin limit environment) name scope)
      fun result => ∃ value ∈ values, result = .ok value := by
  intro kept twins picks
  rw [ending_evalTemplate]
  cases parts : splitRerun name with | mk base rerun =>
  rw [parts] at found idle body
  have idle' : base ∉ kept.names := twins.names ▸ idle
  dsimp only at found idle body ⊢
  rw [found]
  dsimp only
  rw [if_neg idle']
  -- The frame is gone again when the template has ended.
  have pushed : (⟨environment, limit, globals⟩ : Gathering).Twins (bare.push base) (kept.push base) :=
    ⟨by simp only [CallStack.names_push, twins.names], nofun⟩
  obtain ⟨⟨value, inside, given⟩, frames, _⟩ := body (kept.push base) pushed picks
  rw [ending_withFrame, given, CallStack.pop_eq_of_keptIn_push frames]
  cases rerun with
  | true => exact ⟨⟨value, inside, rfl⟩, .refl kept, twins⟩
  | false =>
    cases hit : kept.cached? ⟨base, scope.fingerprint⟩ with
    | some old =>
      -- What is kept is one of the values of the same expansion.
      obtain ⟨told, among, again⟩ := twins.sound _ old (mem_memo_of_cached? hit) name scope parts shared rfl
      obtain rfl := Except.ok.inj (again.symm.trans expanded)
      exact ⟨⟨old, among, rfl⟩, .refl kept, twins⟩
    | none =>
      have stored := kept.keptIn_store ⟨base, scope.fingerprint⟩ value
      refine ⟨⟨value, inside, rfl⟩, stored, stored.names.trans twins.names, ?_⟩
      intro key other within name' scope' parts' shared' same
      rcases mem_memo_store within with new | old
      · obtain ⟨rfl, rfl⟩ := Prod.mk.inj new
        obtain rfl := (eq_of_splitRerun parts').trans (eq_of_splitRerun parts).symm
        obtain rfl := Scope.eq_of_fingerprint (shared'.trans shared.symm) same
        exact ⟨values, inside, expanded⟩
      · exact twins.sound key other old name' scope' parts' shared' same

/-- Whatever is picked, a template comes to one of the values that it expands to within the same bound. -/
theorem Gathering.lists_expansionWithin (covered : environment.Covered root) (globals : Value) (limit : Nat) :
    ∀ {bare : CallStack}, bare.memoized = false → bare.memo = [] → ∀ name scope,
      Relation.ReflTransGen environment.Enters root ((splitRerun name).1, scope) → scope.globals = globals →
        ((⟨environment, limit, globals⟩ : Gathering).lister bare).Lists (expansionWithin environment limit name scope)
          ((callsWithin limit environment).template name scope) := by
  induction limit with
  | zero =>
    refine fun _ _ name scope _ _ => ⟨settles_fail _, fun values given => ?_⟩
    cases given
  | succ limit listed =>
    intro bare fresh none name scope entered shared
    have reached := Environment.follows_of_enters entered
    have settled (depth : Nat) {bare : CallStack} (fresh : bare.memoized = false) (callee : String) (bound : Scope)
        (onward : Relation.ReflTransGen environment.Follows root.1 (splitRerun callee).1) :=
      settles_expansionWithin covered.decided depth fresh callee bound onward
    refine ⟨settled (limit + 1) fresh name scope reached, fun values expanded => ?_⟩
    have given := expanded
    rw [expansionWithin_succ] at given
    obtain ⟨template, found, given⟩ := exists_of_firstResult_bind (settles_ofExcept _) given
    obtain ⟨_, checked, given⟩ := exists_of_firstResult_bind (settles_checkLoop _) given
    rw [firstResult_ofExcept] at found
    have defined := get?_of_lookup found
    have framed : (bare.push (splitRerun name).1).memoized = false := fresh
    have gathers : (⟨environment, limit, globals⟩ : Gathering).Gathers (bare.push (splitRerun name).1) environment
        (callsWithin limit environment) (expansionWithin environment limit) scope (splitRerun name).1 := by
      refine ⟨⟨rfl, nofun⟩, settling_delegates scope (fun called args holds => (covered.reads _ called args reached holds).1)
        fun callee bound follows => settled limit framed callee bound (reached.tail follows),
        fun called args holds => covered.reads _ called args reached holds, fun called args values passes told named => ?_⟩
      refine Gathering.comes_call (covered.reads _ called args reached passes.1).2 passes (fun callee bound enters same => ?_) named
      exact listed framed rfl callee bound (entered.tail enters) (same.trans shared)
    have body := gathers.lists_expandBody (Expression.allCalls_of_calls fun embedded among called args node =>
        ⟨template, defined, embedded, among, node⟩) (covered.calm _ template reached defined)
      (covered.offers _ template entered defined)
    rw [(settles_withFrame _ body.settles).2] at given
    exact Gathering.comes_evalTemplate found (not_mem_of_checkLoop checked) shared expanded (body.tells values given)

end Templates

/--
Expansion is complete for evaluation.

Where something is left to tell everywhere, an expansion that succeeds tells all values that evaluation can come to.
Evaluation comes to one of them whatever is picked, and whether or not it keeps the results of calls.
-/
theorem evaluate_mem_of_expand {environment : Environment} {name : String} {scope : Scope}
    (covered : environment.Covered ((splitRerun name).1, scope)) {picks : List Nat} {values : List Value}
    (expanded : ((expand environment name scope).ending expansionStack picks).result = .ok values) (memoized : Bool)
    (picks' : List Nat) :
    ∃ value ∈ values, ((evaluate environment name scope).ending ⟨[], memoized⟩ picks').result = .ok value := by
  let gathering : Gathering := ⟨environment, environment.depthLimit, scope.globals⟩
  have listed : (gathering.lister expansionStack).Lists (expand environment name scope) (evaluate environment name scope) :=
    (gathering.lister expansionStack).lists_map environment.applyLineBreaks
      (Gathering.lists_expansionWithin covered scope.globals environment.depthLimit rfl rfl name scope .refl rfl)
  rw [ending_of_settles listed.settles] at expanded
  have twins : gathering.Twins expansionStack ⟨[], memoized⟩ := ⟨rfl, nofun⟩
  exact (listed.tells values expanded _ twins picks').1

/-- A template leads to nothing but what is in the registry, so it is enough to look at that. -/
theorem Environment.covered_of_forall {environment : Environment}
    (reads : ∀ call ∈ environment.callNames, environment.Contains call.2 ∧ environment.ReadsAlike call.2)
    (calm : ∀ entry ∈ environment.registry, ∀ guard ∈ entry.2.body.guards,
      callsTemplate environment guard.expression = false)
    (offers : ∀ entry ∈ environment.registry, entry.2.body.alwaysOffers = true) (root : String × Scope) :
    environment.Covered root where
  reads _ _ _ _ holds := reads _ holds.mem_callNames
  calm caller template _ defined := calm (caller, template) (SortedMap.mem_of_get? defined)
  offers caller template _ defined :=
    Body.offers_of_alwaysOffers (offers (caller.1, template) (SortedMap.mem_of_get? defined)) environment caller.2

/-- A template with a branch for absent data, and a call that only loud data make. -/
def hailing : Collection :=
  -- The call that is left out is expanded all the same.
  .ofText ("# coin\n- heads\n- tails\n\n# t\n- IF: $\x7bformal\x7d\n  - Dear $\x7bcoin()\x7d\n" ++
    "- ELSE:\n  - $\x7bcoin()\x7d, $\x7bcoin()\x7d$\x7bif(loud, coin(), '!')\x7d")

/-- What evaluation gives when it keeps the result of a call is among what expansion tells. -/
theorem hailing_evaluate_mem :
    Environment.of hailing {} {} [] = .ok hailing.alone ∧ hailing.alone.Covered ((splitRerun "t").1, .ofValue .null) ∧
      ((evaluate hailing.alone "t" (.ofValue .null)).ending ⟨[], true⟩ [1]).result.toOption.map Value.text =
        some "tails, tails!" ∧
      ∃ values, ((expand hailing.alone "t" (.ofValue .null)).ending expansionStack []).result = .ok values ∧
        values.map Value.text = ["heads, heads!", "heads, heads!", "heads, tails!", "heads, tails!",
          "tails, heads!", "tails, heads!", "tails, tails!", "tails, tails!"] ∧
        ∃ value ∈ values, ((evaluate hailing.alone "t" (.ofValue .null)).ending ⟨[], true⟩ [1]).result = .ok value := by
  obtain ⟨sound, reads, calm, offers, told, texts⟩ : hailing.errors.length = 0 ∧
      (∀ call ∈ hailing.alone.callNames, hailing.alone.Contains call.2 ∧ hailing.alone.ReadsAlike call.2) ∧
      (∀ entry ∈ hailing.alone.registry, ∀ guard ∈ entry.2.body.guards,
        callsTemplate hailing.alone guard.expression = false) ∧
      (∀ entry ∈ hailing.alone.registry, entry.2.body.alwaysOffers = true) ∧
      ((evaluate hailing.alone "t" (.ofValue .null)).ending ⟨[], true⟩ [1]).result.toOption.map Value.text =
        some "tails, tails!" ∧
      hailing.alone.expandedUnder "t" [] = some ["heads, heads!", "heads, heads!", "heads, tails!", "heads, tails!",
        "tails, heads!", "tails, heads!", "tails, tails!", "tails, tails!"] := by
    decide +kernel
  have covered : hailing.alone.Covered ((splitRerun "t").1, .ofValue .null) :=
    Environment.covered_of_forall reads calm offers _
  rw [Environment.expandedUnder, Option.map_eq_some_iff] at texts
  obtain ⟨values, given, same⟩ := texts
  have expanded := eq_ok_of_toOption given
  exact ⟨Collection.alone_eq sound, covered, told, values, expanded, same,
    evaluate_mem_of_expand covered expanded true [1]⟩

/-- A template without a body, and one that calls it. -/
def hollow : Collection :=
  -- There is nothing to pick.
  .ofText "# t\n- <$\x7bgap()\x7d>\n\n# gap"

/-- Expansion tells nothing of a template without a body, nor of the texts around it, where evaluation gives null. -/
theorem hollow_evaluate_not_mem :
    Environment.of hollow {} {} [] = .ok hollow.alone ∧ hollow.alone.callNames = [("t", "gap")] ∧
      (∀ entry ∈ hollow.alone.registry, entry.2.body.guards = []) ∧ hollow.alone.functions = [] ∧
      ((evaluate hollow.alone "gap" (.ofValue .null)).ending {} []).result.toOption.map Value.isNull = some true ∧
      ((evaluate hollow.alone "t" (.ofValue .null)).ending {} []).result.toOption.map Value.text = some "<null>" ∧
      ∀ name ∈ ["gap", "t"], ((expand hollow.alone name (.ofValue .null)).ending expansionStack []).result = .ok [] := by
  obtain ⟨sound, names, guards, gap, text, nothing⟩ : hollow.errors.length = 0 ∧ hollow.alone.callNames = [("t", "gap")] ∧
      (∀ entry ∈ hollow.alone.registry, entry.2.body.guards = []) ∧
      ((evaluate hollow.alone "gap" (.ofValue .null)).ending {} []).result.toOption.map Value.isNull = some true ∧
      ((evaluate hollow.alone "t" (.ofValue .null)).ending {} []).result.toOption.map Value.text = some "<null>" ∧
      ∀ name ∈ ["gap", "t"], hollow.alone.expandedUnder name [] = some [] := by
    decide +kernel
  refine ⟨Collection.alone_eq sound, names, guards, rfl, gap, text, fun name inside => ?_⟩
  have told := nothing name inside
  rw [Environment.expandedUnder, Option.map_eq_some_iff] at told
  obtain ⟨values, given, none⟩ := told
  obtain rfl := List.map_eq_nil_iff.mp none
  exact eq_ok_of_toOption given

end Phrasebook
