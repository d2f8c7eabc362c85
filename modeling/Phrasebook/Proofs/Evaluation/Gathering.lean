import Phrasebook.Proofs.Evaluation.Foreign

/-! Whatever is picked, an expression comes to what one of its copies comes to. -/

namespace Phrasebook

open Evaluation

/-- What is gathered for calls, to which the results that are kept are held. -/
structure Gathering where
  /-- The environment. -/
  environment : Environment
  /-- How deeply calls may nest. -/
  limit : Nat
  /-- The layer that all calls share. -/
  globals : Value

namespace Gathering

variable {α β γ δ ε : Type} (gathering : Gathering) (bare : CallStack)

/-- Every result that is kept is one of those that the call expands to where none are kept. -/
def Sound (memo : Memo) : Prop :=
  -- A call is told by its template and by the local layer of its scope.
  ∀ key value, (key, value) ∈ memo → ∀ name (scope : Scope), splitRerun name = (key.name, false) →
    scope.globals = gathering.globals → scope.fingerprint = key.locals → ∃ values, value ∈ values ∧
      firstResult bare (expansionWithin gathering.environment gathering.limit name scope) = .ok values

/-- The same templates run on two stacks, and what the first one keeps is sound. -/
structure Twins (kept : CallStack) : Prop where
  /-- The same templates run. -/
  names : kept.names = bare.names
  /-- What is kept is sound. -/
  sound : gathering.Sound bare kept.memo

/-- Whatever is picked, a computation has a result as it is wanted, and what it keeps is sound. -/
def Comes (body : Evaluation α) (wanted : Except TemplateError α → Prop) : Prop :=
  -- The computation runs on any stack with sound results.
  ∀ kept, gathering.Twins bare kept → ∀ picks, wanted (body.ending kept picks).result ∧
    kept.KeptIn (body.ending kept picks).stack ∧ gathering.Twins bare (body.ending kept picks).stack

variable {gathering bare} {wanted : Except TemplateError α → Prop}

/-- A value that is given at once is the only result. -/
theorem comes_pure {value : α} (want : wanted (.ok value)) : gathering.Comes bare (pure value) wanted :=
  fun kept twins _ => ⟨want, .refl kept, twins⟩

/-- So is a result that is taken over. -/
theorem comes_ofExcept {result : Except TemplateError α} (want : wanted result) :
    gathering.Comes bare (Evaluating.ofExcept result) wanted := by
  intro kept twins picks
  rw [ending_ofExcept]
  exact ⟨want, .refl kept, twins⟩

/-- Less may be wanted. -/
theorem Comes.weaken {body : Evaluation α} {more : Except TemplateError α → Prop} (comes : gathering.Comes bare body more)
    (less : ∀ result, more result → wanted result) : gathering.Comes bare body wanted := by
  intro kept twins picks
  obtain ⟨want, rest⟩ := comes kept twins picks
  exact ⟨less _ want, rest⟩

/-- After each value of a first computation come the results of a second one. -/
theorem comes_bind {first : Evaluation β} {next : β → Evaluation α} {reached : Except TemplateError β → Prop}
    (comes : gathering.Comes bare first reached)
    (further : ∀ value, reached (.ok value) → gathering.Comes bare (next value) wanted)
    (failed : ∀ error, reached (.error error) → wanted (.error error)) : gathering.Comes bare (first >>= next) wanted := by
  intro kept twins picks
  obtain ⟨reach, frames, twins'⟩ := comes kept twins picks
  rw [ending_bind]
  cases ran : first.ending kept picks with | mk result now left =>
  rw [ran] at reach frames twins'
  cases result with
  | error error => exact ⟨failed error reach, frames, twins'⟩
  | ok value =>
    obtain ⟨want, frames', twins''⟩ := further value reach now twins' left
    exact ⟨want, frames.trans frames', twins''⟩

/-- A failure that is handed on as a value goes on like any result. -/
theorem comes_attempt_bind {body : Evaluation β} {handle : Except TemplateError β → Evaluation α}
    {reached : Except TemplateError β → Prop} (comes : gathering.Comes bare body reached)
    (further : ∀ result, reached result → gathering.Comes bare (handle result) wanted) :
    gathering.Comes bare (Evaluating.attempt body >>= handle) wanted := by
  have attempted : gathering.Comes bare (Evaluating.attempt body)
      fun outcome => ∃ result, outcome = .ok result ∧ reached result := by
    intro kept twins picks
    rw [ending_attempt]
    obtain ⟨reach, rest⟩ := comes kept twins picks
    exact ⟨⟨_, rfl, reach⟩, rest⟩
  refine comes_bind attempted ?_ ?_
  · rintro _ ⟨_, ⟨⟩, reach⟩
    exact further _ reach
  · rintro _ ⟨_, ⟨⟩, _⟩

/-- Some result is always reached. -/
theorem Comes.exists {body : Evaluation α} (comes : gathering.Comes bare body wanted) (plain : gathering.Twins bare bare) :
    ∃ result, wanted result :=
  -- The stack without results will do.
  ⟨_, (comes bare plain []).1⟩

variable (gathering bare)

/-- Whatever is picked, the value of a computation is one of a list. -/
def lister : Lister bare where
  -- No computation fails.
  Tells body values := gathering.Comes bare body fun result => ∃ value ∈ values, result = .ok value
  done value := comes_pure ⟨value, List.mem_singleton_self value, rfl⟩
  andThen := by
    intro α β first next values onward comes further
    refine comes_bind comes ?_ ?_
    · rintro value ⟨_, inside, ⟨⟩⟩
      refine (further value inside).weaken ?_
      rintro result ⟨other, among, same⟩
      exact ⟨other, List.mem_flatMap.mpr ⟨value, inside, among⟩, same⟩
    · rintro error ⟨_, _, ⟨⟩⟩
  pick := by
    intro α alternatives some kept twins picks
    rw [ending_pickOne]
    obtain ⟨alternative, taken⟩ := exists_pickAmong some picks
    exact ⟨⟨_, List.mem_map_of_mem (mem_of_pickAmong taken), by rw [taken]⟩, .refl kept, twins⟩

/-- Whatever is picked, a computation has the result of some copy. -/
abbrev Spans (copies : List γ) (meaning : γ → Except TemplateError α) (single : Evaluation α) : Prop :=
  -- It may fail as the copy does.
  gathering.Comes bare single fun result => ∃ copy ∈ copies, meaning copy = result

variable {gathering bare}

/-- What is told are values to which a computation always comes. -/
theorem tells_iff {body : Evaluation α} {values : List α} :
    (gathering.lister bare).Tells body values ↔
      gathering.Comes bare body fun result => ∃ value ∈ values, result = .ok value :=
  Iff.rfl

/-- There is a copy. -/
theorem Spans.exists {copies : List γ} {meaning : γ → Except TemplateError α} {single : Evaluation α}
    (spans : gathering.Spans bare copies meaning single) (plain : gathering.Twins bare bare) : ∃ copy, copy ∈ copies := by
  obtain ⟨_, copy, inside, _⟩ := Comes.exists spans plain
  exact ⟨copy, inside⟩

/-- A computation that gives its result at once is its own copy. -/
theorem spans_self {only : γ} {meaning : γ → Except TemplateError α} {single : Evaluation α}
    (same : single = Evaluating.ofExcept (meaning only)) : gathering.Spans bare [only] meaning single := by
  rw [same]
  exact comes_ofExcept ⟨only, List.mem_singleton_self only, rfl⟩

/-- A second computation that gives its results at once goes on with each copy. -/
theorem spans_bind {copies : List γ} {meaning : γ → Except TemplateError α} {single : Evaluation α}
    (spans : gathering.Spans bare copies meaning single) {next : α → Evaluation β} {onward : α → Except TemplateError β}
    (same : ∀ value, next value = Evaluating.ofExcept (onward value)) :
    gathering.Spans bare copies (fun copy => meaning copy >>= onward) (single >>= next) := by
  refine comes_bind spans ?_ ?_
  · rintro value ⟨copy, inside, given⟩
    rw [same]
    refine comes_ofExcept ⟨copy, inside, ?_⟩
    dsimp only
    rw [given]
    rfl
  · rintro error ⟨copy, inside, given⟩
    refine ⟨copy, inside, ?_⟩
    dsimp only
    rw [given]
    rfl

/-- What is built of copies are copies if it means the same. -/
theorem spans_map {copies : List γ} {meaning : γ → Except TemplateError α} {meaning' : δ → Except TemplateError α}
    {build : γ → δ} {single : Evaluation α} (spans : gathering.Spans bare copies meaning single)
    (shape : ∀ copy, meaning' (build copy) = meaning copy) : gathering.Spans bare (copies.map build) meaning' single := by
  refine spans.weaken ?_
  rintro result ⟨copy, inside, given⟩
  exact ⟨build copy, List.mem_map_of_mem inside, (shape copy).trans given⟩

/-- All combinations of the copies of two computations are copies of the two in a row, even if the second is left out. -/
theorem spans_product {copies₁ : List γ} {copies₂ : List δ} {meaning₁ : γ → Except TemplateError α}
    {meaning : ε → Except TemplateError β} {single : Evaluation α} {next : α → Evaluation β}
    {onward : α → δ → Except TemplateError β} {build : γ → δ → ε} (some : ∃ copy₂, copy₂ ∈ copies₂)
    (spans : gathering.Spans bare copies₁ meaning₁ single)
    (further : ∀ value, gathering.Spans bare copies₂ (onward value) (next value))
    (shape : ∀ copy₁ copy₂, meaning (build copy₁ copy₂) = meaning₁ copy₁ >>= fun value => onward value copy₂) :
    gathering.Spans bare (product build copies₁ copies₂) meaning (single >>= next) := by
  refine comes_bind spans ?_ ?_
  · rintro value ⟨copy₁, inside₁, given₁⟩
    refine (further value).weaken ?_
    rintro result ⟨copy₂, inside₂, given₂⟩
    refine ⟨build copy₁ copy₂, mem_product inside₁ inside₂, ?_⟩
    rw [shape, given₁]
    exact given₂
  · -- After a failure of the first any copy of the second will do.
    rintro error ⟨copy₁, inside₁, given₁⟩
    obtain ⟨copy₂, inside₂⟩ := some
    refine ⟨build copy₁ copy₂, mem_product inside₁ inside₂, ?_⟩
    rw [shape, given₁]
    rfl

end Gathering

section Expressions

variable (gathering : Gathering) (bare : CallStack) (environment : Environment) (calls : Calls Evaluation)
  (expansion : Expansion Evaluation) (scope : Scope) (caller : String)

/-- The calls of a template are expanded to all that they are evaluated to. -/
structure Gathering.Gathers : Prop where
  /-- The expansion runs on a stack of its own, where no results are kept. -/
  plain : gathering.Twins bare bare
  /-- The expansion makes no picks. -/
  settles : (settling bare).DelegatesAlike environment environment calls calls expansion expansion scope (environment.Holds caller)
    Expression.CanBe
  /-- No call leads out of the templates, and all are taken for the same. -/
  reads : ∀ name args, environment.Holds caller name args → environment.Contains name ∧ environment.ReadsAlike name
  /-- Templates are expanded to all that they are evaluated to. -/
  calls : ∀ name args values, environment.Passes (caller, scope) name args values → ∀ listed,
    (expandNamed ⟨environment, calls, expansion⟩ name values scope).firstResult bare = .ok listed →
      gathering.Comes bare ((hostOf environment calls).call name values scope) fun result =>
        ∃ value ∈ listed, result = .ok value

variable {gathering bare environment calls expansion scope caller}

/-- Hosts take over the result of a function alike. -/
theorem hostOf_lift (result : FunctionResult) :
    (hostOf environment calls).lift result = Evaluating.ofExcept (environment.foreignHost.lift result) := by
  cases result <;> rfl

variable (gathers : gathering.Gathers bare environment calls expansion scope caller) (site : Site)

include gathers

/-- The copies of an expression are made without a pick, and values take the place of the calls of templates in them. -/
theorem Gathering.Gathers.copies {expression : Expression}
    (knows : expression.Everywhere (Expression.IsKnown (environment.Holds caller))) :
    (variants ⟨environment, calls, expansion⟩ scope site expression).Settles bare ∧
      ∀ copies, (variants ⟨environment, calls, expansion⟩ scope site expression).firstResult bare = .ok copies →
        ∀ copy ∈ copies, expression.Fills environment copy := by
  obtain ⟨settled, -, agree⟩ := variants_alike gathers.settles site expression knows
  refine ⟨settled, fun copies given => ?_⟩
  rw [given] at agree
  cases agree with
  | ok agree => exact agree.2

/-- So are those of several expressions. -/
theorem Gathering.Gathers.combinations {items : List Expression}
    (knows : ∀ item ∈ items, item.Everywhere (Expression.IsKnown (environment.Holds caller))) :
    (variantsOfItems ⟨environment, calls, expansion⟩ scope site items).Settles bare ∧
      ∀ copies, (variantsOfItems ⟨environment, calls, expansion⟩ scope site items).firstResult bare = .ok copies →
        ∀ copy ∈ copies, List.Forall₂ (Expression.Fills environment) items copy := by
  obtain ⟨settled, -, agree⟩ := variantsOfItems_alike gathers.settles site items knows
  refine ⟨settled, fun copies given => ?_⟩
  rw [given] at agree
  cases agree with
  | ok agree => exact agree.2

/-- The combinations of the copies of several expressions are those of the copies of the first with those of the others. -/
theorem Gathering.Gathers.exists_of_cons {item : Expression} {rest : List Expression}
    (knows : ∀ other ∈ item :: rest, other.Everywhere (Expression.IsKnown (environment.Holds caller)))
    {combinations : List (List Expression)}
    (given : (variantsOfItems ⟨environment, calls, expansion⟩ scope site (item :: rest)).firstResult bare = .ok combinations) :
    ∃ heads tails, combinations = product List.cons heads tails ∧
      (variants ⟨environment, calls, expansion⟩ scope site item).firstResult bare = .ok heads ∧
      (variantsOfItems ⟨environment, calls, expansion⟩ scope site rest).firstResult bare = .ok tails := by
  obtain ⟨here, others⟩ := List.forall_mem_cons.mp knows
  rw [variantsOfItems] at given
  obtain ⟨heads, first, given⟩ := exists_of_firstResult_bind (gathers.copies site here).1 given
  obtain ⟨tails, second, same⟩ := exists_of_firstResult_bind (gathers.combinations site others).1 given
  cases same
  exact ⟨heads, tails, rfl, first, second⟩

/-- The copies of the entries of an object are made without a pick. -/
theorem Gathering.Gathers.entries {entries : List (String × Expression)}
    (knows : ∀ entry ∈ entries, entry.2.Everywhere (Expression.IsKnown (environment.Holds caller))) :
    (variantsOfEntries ⟨environment, calls, expansion⟩ scope site entries).Settles bare :=
  (variantsOfEntries_alike gathers.settles site entries knows).1

/-- Arguments of a call of a template have the results of their expressions, and are passed to the template. -/
theorem Gathering.Gathers.passes {name : String} {args combination : List Expression}
    (holds : environment.Holds caller name args) (known : isTemplateCall environment name = true)
    (parts : ∀ arg ∈ args, arg.Everywhere (Expression.IsKnown (environment.Holds caller)))
    (filled : List.Forall₂ (Expression.Fills environment) args combination) {values : List Value}
    (evaluated : (expandArguments ⟨environment, calls, expansion⟩ scope site combination).firstResult bare = .ok values) :
    Expression.evalItems environment.foreignHost scope combination = .ok values ∧
      environment.Passes (caller, scope) name args values := by
  have foreign (copy : Expression) (inside : copy ∈ combination) : environment.Foreign copy :=
    foreign_of_leftOver (fun name args holds => (gathers.reads name args holds).1)
      (Expression.Fills.everywhere_items filled parts copy inside)
  have settled : ItemsSettle environment calls scope bare combination := by
    intro copy inside
    rw [eval_of_foreign (foreign copy inside)]
    exact settles_ofExcept _
  have results := (settles_expandArguments settled site).2 values evaluated
  rw [evalItems_of_foreign foreign, firstResult_ofExcept] at results
  have each := (List.forall₂_and_left _ _).mpr ⟨foreign, forall₂_of_evalItems results⟩
  exact ⟨results, holds, known, combination, filled, each.imp fun _ _ ⟨calm, given⟩ => yields_of_outcome calm given⟩

/-- What the copies of a call of a template expand to are copies of the call as constants. -/
theorem Gathering.Gathers.spans_templateCall {name : String} {args : List Expression}
    (holds : environment.Holds caller name args) (known : isTemplateCall environment name = true)
    (parts : ∀ arg ∈ args, arg.Everywhere (Expression.IsKnown (environment.Holds caller)))
    {combinations : List (List Expression)}
    (filled : ∀ combination ∈ combinations, List.Forall₂ (Expression.Fills environment) args combination)
    {single : Evaluation (List Value)}
    (spans : gathering.Spans bare combinations (Expression.evalItems environment.foreignHost scope) single) {listed : List Value}
    (expanded : (expandTemplateCalls ⟨environment, calls, expansion⟩ name scope site combinations).firstResult bare = .ok listed) :
    gathering.Spans bare (listed.map .literal) (environment.outcome scope)
      (single >>= fun values => (hostOf environment calls).call name values scope) := by
  rw [expandTemplateCalls_eq_mapM] at expanded
  obtain ⟨succeeds, whole⟩ := listed_of_flatten (fun combination inside => settles_of_alike
    (expandTemplateCall_alike gathers.settles site holds known parts (filled combination inside))) expanded
  -- Each combination of arguments is evaluated, and the template is expanded for the values.
  have split (combination : List Expression) (inside : combination ∈ combinations) :
      ∃ values, Expression.evalItems environment.foreignHost scope combination = .ok values ∧
        gathering.Comes bare ((hostOf environment calls).call name values scope) fun result =>
          ∃ value ∈ listed, result = .ok value := by
    have succeeded := succeeds combination inside
    rw [expandTemplateCall_eq] at succeeded
    have settled := (expandArguments_alike gathers.settles site holds known parts (List.Subset.refl args)
      (filled combination inside)).1
    obtain ⟨values, evaluated, named⟩ := exists_of_firstResult_bind settled succeeded
    obtain ⟨results, passes⟩ := gathers.passes site holds known parts (filled combination inside) evaluated
    refine ⟨values, results, (gathers.calls name args values passes _ named).weaken ?_⟩
    rintro result ⟨value, among, same⟩
    exact ⟨value, whole ▸ List.mem_flatMap.mpr ⟨combination, inside, among⟩, same⟩
  refine Gathering.comes_bind spans ?_ ?_
  · rintro values ⟨combination, inside, given⟩
    obtain ⟨values', results, comes⟩ := split combination inside
    obtain rfl := Except.ok.inj (results.symm.trans given)
    refine comes.weaken ?_
    rintro _ ⟨value, among, rfl⟩
    exact ⟨.literal value, List.mem_map_of_mem among, rfl⟩
  · rintro error ⟨combination, inside, given⟩
    obtain ⟨values, results, -⟩ := split combination inside
    rw [results] at given
    cases given

omit gathers in
/-- The arguments of a call of a template are all evaluated. -/
theorem unconditional_of_isTemplateCall {name : String} (known : isTemplateCall environment name = true)
    (reads : environment.ReadsAlike name) (contained : environment.Contains name) (args : List Expression) :
    environment.Unconditional (.call name args) := by
  refine ⟨fun lazy => ?_, reads.1, contained⟩
  -- A template of its name comes before the lazy conditional.
  rw [lazy] at known ⊢
  simpa [isTemplateCall, show (splitRerun "if").1 ≠ "template" by decide +kernel] using known

/-- A call of a template has one of the values that it is expanded to for the copies of its arguments. -/
theorem Gathering.Gathers.spans_knownCall {name : String} {args : List Expression}
    (holds : environment.Holds caller name args) (known : isTemplateCall environment name = true)
    (parts : ∀ arg ∈ args, arg.Everywhere (Expression.IsKnown (environment.Holds caller)))
    {combinations : List (List Expression)}
    (filled : ∀ combination ∈ combinations, List.Forall₂ (Expression.Fills environment) args combination)
    (spans : gathering.Spans bare combinations (Expression.evalItems environment.foreignHost scope)
      (Expression.evalItems (hostOf environment calls) scope args)) {copies : List Expression}
    (given : (expandTemplateCalls ⟨environment, calls, expansion⟩ name scope site combinations >>= fun values =>
      pure (values.map .literal) : Evaluation _).firstResult bare = .ok copies) :
    gathering.Spans bare copies (environment.outcome scope) ((Expression.call name args).eval (hostOf environment calls) scope) := by
  obtain ⟨contained, reads⟩ := gathers.reads name args holds
  have settled := settles_of_alike (expandTemplateCalls_alike gathers.settles site holds known parts combinations filled)
  obtain ⟨listed, expanded, same⟩ := exists_of_firstResult_bind settled given
  cases same
  rw [eval_call_of_unconditional (unconditional_of_isTemplateCall known reads contained args)]
  exact gathers.spans_templateCall site holds known parts filled spans expanded

omit gathers in
/-- Where no template has its name, the conditional is lazy. -/
theorem isNone_own_lazy (absent : environment.hasTemplate "if" = false) {m : Type → Type} [Evaluating m] (calls : Calls m) :
    ((hostOf environment calls).own "if").isNone = true := by
  simp [hostOf, ownFunction?_of_not_mem _ _ (show "if" ∉ templateFunctions by decide), absent]

omit gathers in
/-- The lazy conditional has the result of a copy, whatever copy is taken of the part that is left out. -/
theorem Gathering.spans_lazy (absent : environment.hasTemplate "if" = false) (plain : gathering.Twins bare bare)
    {condition positive negative : Expression} {conditions positives negatives : List Expression}
    (first : gathering.Spans bare conditions (environment.outcome scope) (condition.eval (hostOf environment calls) scope))
    (second : gathering.Spans bare positives (environment.outcome scope) (positive.eval (hostOf environment calls) scope))
    (third : gathering.Spans bare negatives (environment.outcome scope) (negative.eval (hostOf environment calls) scope)) :
    gathering.Spans bare (product List.cons conditions (product List.cons positives (product List.cons negatives [[]])))
      (fun args => environment.outcome scope (.call "if" args))
      ((Expression.call "if" [condition, positive, negative]).eval (hostOf environment calls) scope) := by
  obtain ⟨positive₀, inside₀⟩ := second.exists plain
  obtain ⟨negative₀, inside₀'⟩ := third.exists plain
  have among {condition positive negative : Expression} (inside₁ : condition ∈ conditions) (inside₂ : positive ∈ positives)
      (inside₃ : negative ∈ negatives) : [condition, positive, negative] ∈
        product List.cons conditions (product List.cons positives (product List.cons negatives [[]])) :=
    mem_product inside₁ (mem_product inside₂ (mem_product inside₃ (List.mem_singleton_self [])))
  have told (condition positive negative : Expression) : environment.outcome scope (.call "if" [condition, positive, negative]) =
      environment.outcome scope condition >>= fun value =>
        if value.truthy then environment.outcome scope positive else environment.outcome scope negative := by
    simp [Environment.outcome, Expression.eval_call, Environment.foreignHost, isNone_own_lazy absent]
  simp only [Expression.eval_call, isNone_own_lazy absent, beq_self_eq_true, Bool.and_self, if_true]
  refine Gathering.comes_bind first ?_ ?_
  · rintro value ⟨condition', inside₁, given⟩
    cases holds : value.truthy with
    | true =>
      refine Gathering.Comes.weaken second ?_
      rintro result ⟨positive', inside₂, same⟩
      refine ⟨_, among inside₁ inside₂ inside₀', (told _ _ _).trans ?_⟩
      rw [given, ← same]
      exact if_pos holds
    | false =>
      refine Gathering.Comes.weaken third ?_
      rintro result ⟨negative', inside₃, same⟩
      refine ⟨_, among inside₁ inside₀ inside₃, (told _ _ _).trans ?_⟩
      rw [given, ← same]
      exact if_neg (by simp [holds])
  · rintro error ⟨condition', inside₁, given⟩
    refine ⟨_, among inside₁ inside₀ inside₀', (told _ _ _).trans ?_⟩
    rw [given]
    rfl

omit gathers in
/-- With another number of arguments it fails, and so do all its copies. -/
theorem Gathering.spans_lazy_of_length (absent : environment.hasTemplate "if" = false) {args : List Expression}
    (differ : args.length ≠ 3) {combinations : List (List Expression)}
    (same : ∀ combination ∈ combinations, combination.length = args.length) (some : ∃ combination, combination ∈ combinations) :
    gathering.Spans bare combinations (fun args => environment.outcome scope (.call "if" args))
      ((Expression.call "if" args).eval (hostOf environment calls) scope) := by
  have failed {m : Type → Type} [Evaluating m] (calls : Calls m) {args : List Expression} (differ : args.length ≠ 3) :
      (Expression.call "if" args).eval (hostOf environment calls) scope =
        Evaluating.raise (.arity "if" "3" args.length) := by
    simp only [Expression.eval_call, isNone_own_lazy absent, beq_self_eq_true, Bool.and_self, if_true]
    split
    · exact absurd rfl differ
    · rfl
  obtain ⟨combination, inside⟩ := some
  have alike := same combination inside
  have told : environment.outcome scope (.call "if" combination) =
      .error (.expression none (.raised (.arity "if" "3" args.length))) := by
    rw [Environment.outcome, Environment.foreignHost, failed _ (alike.symm ▸ differ), alike]
    rfl
  rw [failed calls differ]
  exact fun kept twins _ => ⟨⟨combination, inside, told⟩, .refl kept, twins⟩

/-- The lazy conditional has the result of one of its copies. -/
theorem Gathering.Gathers.spans_lazyCall (absent : environment.hasTemplate "if" = false)
    {condition positive negative : Expression}
    (parts : ∀ arg ∈ [condition, positive, negative], arg.Everywhere (Expression.IsKnown (environment.Holds caller)))
    (first : ∀ copies, (variants ⟨environment, calls, expansion⟩ scope site condition).firstResult bare = .ok copies →
      gathering.Spans bare copies (environment.outcome scope) (condition.eval (hostOf environment calls) scope))
    (second : ∀ copies, (variants ⟨environment, calls, expansion⟩ scope site positive).firstResult bare = .ok copies →
      gathering.Spans bare copies (environment.outcome scope) (positive.eval (hostOf environment calls) scope))
    (third : ∀ copies, (variants ⟨environment, calls, expansion⟩ scope site negative).firstResult bare = .ok copies →
      gathering.Spans bare copies (environment.outcome scope) (negative.eval (hostOf environment calls) scope))
    {combinations : List (List Expression)}
    (given : (variantsOfItems ⟨environment, calls, expansion⟩ scope site [condition, positive, negative]).firstResult bare =
      .ok combinations) :
    gathering.Spans bare (combinations.map (Expression.call "if")) (environment.outcome scope)
      ((Expression.call "if" [condition, positive, negative]).eval (hostOf environment calls) scope) := by
  obtain ⟨_, others⟩ := List.forall_mem_cons.mp parts
  obtain ⟨_, last⟩ := List.forall_mem_cons.mp others
  -- The combinations are made of the copies of the three parts.
  obtain ⟨conditions, _, rfl, before₁, given⟩ := gathers.exists_of_cons site parts given
  obtain ⟨positives, _, rfl, before₂, given⟩ := gathers.exists_of_cons site others given
  obtain ⟨negatives, _, rfl, before₃, given⟩ := gathers.exists_of_cons site last given
  cases given
  have spans := Gathering.spans_lazy absent gathers.plain (first conditions before₁) (second positives before₂)
    (third negatives before₃)
  exact Gathering.spans_map spans fun _ => rfl

/-- A call of anything else but a template has the result of a call with copies of its arguments. -/
theorem Gathering.Gathers.spans_call {name : String} {args : List Expression} (holds : environment.Holds caller name args)
    (other : isTemplateCall environment name = false) (eager : name ≠ "if") {combinations : List (List Expression)}
    (spans : gathering.Spans bare combinations (Expression.evalItems environment.foreignHost scope)
      (Expression.evalItems (hostOf environment calls) scope args)) :
    gathering.Spans bare (combinations.map (Expression.call name)) (environment.outcome scope)
      ((Expression.call name args).eval (hostOf environment calls) scope) := by
  have evaluated (m : Type → Type) [Monad m] (host : Host m) (args : List Expression) :
      (Expression.call name args).eval host scope =
        Expression.evalItems host scope args >>= fun values => host.call name values scope := by
    simp [Expression.eval_call, eager]
  rw [evaluated]
  have called := Gathering.spans_bind spans fun values =>
    eq_ofExcept_of_telling (telling_call (gathers.reads name args holds).1 other calls values scope)
  exact Gathering.spans_map called fun combination => evaluated _ _ combination

set_option linter.unusedSectionVars false in
mutual

/-- Whatever is picked, an expression has the result of one of its copies. -/
theorem Gathering.Gathers.spans_variants : ∀ expression : Expression,
    expression.Everywhere (Expression.IsKnown (environment.Holds caller)) → ∀ copies,
      (variants ⟨environment, calls, expansion⟩ scope site expression).firstResult bare = .ok copies →
        gathering.Spans bare copies (environment.outcome scope) (expression.eval (hostOf environment calls) scope) := by
  intro expression knows copies given
  rw [variants.eq_def] at given
  cases foreign : callsTemplate environment expression with
  | false =>
    -- An expression that calls no template is its own copy.
    rw [foreign] at given
    cases given
    have calm : environment.Foreign expression :=
      foreign_of_callsTemplate (fun name args node => (gathers.reads name args (knows _ node)).1) foreign
    exact Gathering.spans_self (eval_of_foreign calm calls scope)
  | true =>
    simp only [foreign, Bool.not_true, Bool.false_eq_true, if_false] at given
    cases expression with
    | literal value => cases foreign
    | «variable» name => cases foreign
    | member target property =>
      have target' := (Expression.everywhere_member.mp knows).2
      obtain ⟨targets, before, same⟩ := exists_of_firstResult_bind (gathers.copies site target').1 given
      cases same
      rw [Expression.eval]
      have spans := Gathering.Gathers.spans_variants target target' targets before
      exact Gathering.spans_map (Gathering.spans_bind spans fun _ => rfl) fun _ => rfl
    | index target key =>
      obtain ⟨_, target', key'⟩ := Expression.everywhere_index.mp knows
      obtain ⟨targets, before, given⟩ := exists_of_firstResult_bind (gathers.copies site target').1 given
      obtain ⟨keys, before', same⟩ := exists_of_firstResult_bind (gathers.copies site key').1 given
      cases same
      rw [Expression.eval]
      have first := Gathering.Gathers.spans_variants target target' targets before
      have second := Gathering.Gathers.spans_variants key key' keys before'
      exact Gathering.spans_product (second.exists gathers.plain) first
        (fun value => Gathering.spans_bind second fun _ => rfl) fun _ _ => rfl
    | array items =>
      have items' := (Expression.everywhere_array.mp knows).2
      obtain ⟨combinations, before, same⟩ := exists_of_firstResult_bind (gathers.combinations site items').1 given
      cases same
      rw [Expression.eval]
      have spans := Gathering.Gathers.spans_variantsOfItems items items' combinations before
      exact Gathering.spans_map (Gathering.spans_bind spans fun _ => rfl) fun _ => rfl
    | object entries =>
      have entries' := (Expression.everywhere_object.mp knows).2
      obtain ⟨combinations, before, same⟩ := exists_of_firstResult_bind (gathers.entries site entries') given
      cases same
      rw [Expression.eval]
      have spans := Gathering.Gathers.spans_variantsOfEntries entries entries' combinations before
      exact Gathering.spans_map (Gathering.spans_bind spans fun _ => rfl) fun _ => rfl
    | unary op operand =>
      have operand' := (Expression.everywhere_unary.mp knows).2
      obtain ⟨operands, before, same⟩ := exists_of_firstResult_bind (gathers.copies site operand').1 given
      cases same
      rw [Expression.eval]
      have spans := Gathering.Gathers.spans_variants operand operand' operands before
      exact Gathering.spans_map (Gathering.spans_bind spans fun value => hostOf_lift _) fun _ => rfl
    | binary op left right =>
      obtain ⟨_, left', right'⟩ := Expression.everywhere_binary.mp knows
      obtain ⟨lefts, before, given⟩ := exists_of_firstResult_bind (gathers.copies site left').1 given
      obtain ⟨rights, before', same⟩ := exists_of_firstResult_bind (gathers.copies site right').1 given
      cases same
      have first := Gathering.Gathers.spans_variants left left' lefts before
      have second := Gathering.Gathers.spans_variants right right' rights before'
      rw [Expression.eval_binary]
      refine Gathering.spans_product (second.exists gathers.plain) first (fun value => ?_) fun left right => by
        rw [Environment.outcome, Expression.eval_binary]
        rfl
      -- The right operand is left out where the left one decides.
      cases op.decided? value.truthy with
      | some truth =>
        obtain ⟨right, inside⟩ := second.exists gathers.plain
        exact Gathering.comes_pure ⟨right, inside, rfl⟩
      | none => exact Gathering.spans_bind second fun value => hostOf_lift _
    | call name args =>
      obtain ⟨holds, parts⟩ := Expression.everywhere_call.mp knows
      obtain ⟨combinations, before, given⟩ := exists_of_firstResult_bind (gathers.combinations site parts).1 given
      have filled := (gathers.combinations site parts).2 combinations before
      have spans := Gathering.Gathers.spans_variantsOfItems args parts combinations before
      cases known : isTemplateCall environment name with
      | true =>
        simp only [known, if_true] at given
        exact gathers.spans_knownCall site holds known parts filled spans given
      | false =>
        simp only [known, Bool.false_eq_true, if_false] at given
        cases given
        by_cases lazy : name = "if"
        · subst lazy
          have absent : environment.hasTemplate "if" = false := by
            simp only [isTemplateCall, Bool.or_eq_false_iff] at known
            exact known.2
          by_cases three : args.length = 3
          · obtain ⟨condition, positive, negative, rfl⟩ := List.length_eq_three.mp three
            exact gathers.spans_lazyCall site absent parts
              (Gathering.Gathers.spans_variants condition (parts _ (by simp)))
              (Gathering.Gathers.spans_variants positive (parts _ (by simp)))
              (Gathering.Gathers.spans_variants negative (parts _ (by simp))) before
          · exact Gathering.spans_map (Gathering.spans_lazy_of_length absent three
              (fun combination inside => (filled combination inside).length_eq.symm) (spans.exists gathers.plain)) fun _ => rfl
        · exact gathers.spans_call holds known lazy spans

/-- Whatever is picked, several expressions have the results of one combination of their copies. -/
theorem Gathering.Gathers.spans_variantsOfItems : ∀ items : List Expression,
    (∀ item ∈ items, item.Everywhere (Expression.IsKnown (environment.Holds caller))) → ∀ combinations,
      (variantsOfItems ⟨environment, calls, expansion⟩ scope site items).firstResult bare = .ok combinations →
        gathering.Spans bare combinations (Expression.evalItems environment.foreignHost scope)
          (Expression.evalItems (hostOf environment calls) scope items)
  | [], _, combinations, given => by
    cases given
    exact Gathering.spans_self rfl
  | item :: rest, knows, combinations, given => by
    obtain ⟨here, others⟩ := List.forall_mem_cons.mp knows
    obtain ⟨heads, tails, rfl, before, before'⟩ := gathers.exists_of_cons site knows given
    rw [Expression.evalItems]
    have first := Gathering.Gathers.spans_variants item here heads before
    have second := Gathering.Gathers.spans_variantsOfItems rest others tails before'
    exact Gathering.spans_product (second.exists gathers.plain) first
      (fun value => Gathering.spans_bind second fun _ => rfl) fun _ _ => rfl

/-- Whatever is picked, the entries of an object have the results of one combination of their copies. -/
theorem Gathering.Gathers.spans_variantsOfEntries : ∀ entries : List (String × Expression),
    (∀ entry ∈ entries, entry.2.Everywhere (Expression.IsKnown (environment.Holds caller))) → ∀ combinations,
      (variantsOfEntries ⟨environment, calls, expansion⟩ scope site entries).firstResult bare = .ok combinations →
        gathering.Spans bare combinations (Expression.evalEntries environment.foreignHost scope)
          (Expression.evalEntries (hostOf environment calls) scope entries)
  | [], _, combinations, given => by
    cases given
    exact Gathering.spans_self rfl
  | (name, item) :: rest, knows, combinations, given => by
    obtain ⟨here, others⟩ := List.forall_mem_cons.mp knows
    rw [variantsOfEntries] at given
    obtain ⟨heads, before, given⟩ := exists_of_firstResult_bind (gathers.copies site here).1 given
    obtain ⟨tails, before', same⟩ := exists_of_firstResult_bind (gathers.entries site others) given
    cases same
    rw [Expression.evalEntries]
    have first := Gathering.Gathers.spans_variants item here heads before
    have second := Gathering.Gathers.spans_variantsOfEntries rest others tails before'
    exact Gathering.spans_product (second.exists gathers.plain) first
      (fun value => Gathering.spans_bind second fun _ => rfl) fun _ _ => rfl

end

/-- Whatever is picked, the value of an embedded expression is one of those that it expands to. -/
theorem Gathering.Gathers.embedsListed (embedded : Embedded)
    (knows : embedded.expression.Everywhere (Expression.IsKnown (environment.Holds caller))) :
    (gathering.lister bare).EmbedsListed environment calls expansion scope embedded := by
  intro site
  obtain ⟨source, expression⟩ := embedded
  refine ⟨settles_of_alike (expandEmbedded_alike gathers.settles site _ knows), fun values given => ?_⟩
  obtain ⟨copies, before, given⟩ := exists_of_firstResult_bind (gathers.copies site knows).1 given
  -- The result of each copy is settled to one of the values.
  have settled (copy : Expression) (inside : copy ∈ copies) :
      evalEmbedded environment calls ⟨source, copy⟩ scope site =
        settleEmbedded environment source site (environment.outcome scope copy) := by
    have filled := (gathers.copies site knows).2 copies before copy inside
    exact evalEmbedded_of_foreign (foreign_of_leftOver (fun name args holds => (gathers.reads name args holds).1)
      (filled.everywhere knows)) calls scope site
  rw [expandVariants_eq_mapM, (settles_mapM copies fun copy inside => by
    rw [settled copy inside]
    exact settles_settleEmbedded source site _).2] at given
  rw [Gathering.tells_iff, evalEmbedded_eq]
  refine Gathering.comes_attempt_bind (gathers.spans_variants site expression knows copies before) ?_
  rintro _ ⟨copy, inside, rfl⟩
  obtain ⟨value, within, same⟩ := exists_of_mem_items given inside
  rw [settled copy inside] at same
  rw [settleEmbedded_eq_pure same]
  exact Gathering.comes_pure ⟨value, within, rfl⟩

end Expressions

end Phrasebook
