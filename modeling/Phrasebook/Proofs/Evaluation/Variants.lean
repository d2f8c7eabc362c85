import Phrasebook.Proofs.Evaluation.Settling

/-! Evaluating the copies of an expression one after the other lists what the expression can come to. -/

namespace Phrasebook

/-- Several expressions are evaluated one after the other. -/
theorem evalItems_eq_mapM {m : Type → Type} [Monad m] [LawfulMonad m] (host : Host m) (scope : Scope)
    (items : List Expression) : Expression.evalItems host scope items = items.mapM (Expression.eval host scope) := by
  induction items with
  | nil => rw [Expression.evalItems, List.mapM_nil]
  | cons item rest ih => rw [Expression.evalItems, List.mapM_cons, ih]

/-- So are the arguments of a call of a template. -/
theorem expandArguments_eq_mapM (expander : Expander Evaluation) (scope : Scope) (site : Site)
    (args : List Expression) :
    expandArguments expander scope site args =
      args.mapM fun arg => evalArgument expander.environment expander.calls arg scope site := by
  induction args with
  | nil => rfl
  | cons arg rest ih => rw [expandArguments, List.mapM_cons, ih]

/-- So are the copies of an embedded expression. -/
theorem expandVariants_eq_mapM (expander : Expander Evaluation) (source : String) (scope : Scope) (site : Site)
    (copies : List Expression) :
    expandVariants expander source scope site copies =
      copies.mapM fun copy => evalEmbedded expander.environment expander.calls ⟨source, copy⟩ scope site := by
  induction copies with
  | nil => rfl
  | cons copy rest ih => rw [expandVariants, List.mapM_cons, ih]

/-- Several calls of a template are expanded one after the other. -/
theorem expandTemplateCalls_eq_mapM (expander : Expander Evaluation) (name : String) (scope : Scope)
    (site : Site) (combinations : List (List Expression)) :
    expandTemplateCalls expander name scope site combinations =
      (combinations.mapM fun args => expandTemplateCall expander name args scope site) >>= fun parts =>
        pure parts.flatten := by
  induction combinations with
  | nil => rfl
  | cons args rest ih =>
    rw [expandTemplateCalls, List.mapM_cons, ih]
    simp only [bind_assoc, pure_bind, List.flatten_cons]

/-- All values of a call of a template whose arguments are values. -/
def expandNamed (expander : Expander Evaluation) (name : String) (values : List Value) (scope : Scope) :
    Evaluation (List Value) :=
  -- The template may be named by the first argument.
  if (splitRerun name).1 == "template" then
    match templateTarget values with
    | .error error => Evaluating.raise error
    | .ok (target, rest) => expandCall expander target rest scope
  else expandCall expander name values scope

/-- A call of a template evaluates its arguments first. -/
theorem expandTemplateCall_eq (expander : Expander Evaluation) (name : String) (args : List Expression)
    (scope : Scope) (site : Site) :
    expandTemplateCall expander name args scope site =
      expandArguments expander scope site args >>= fun values => expandNamed expander name values scope :=
  -- Nothing else is done.
  rfl

/-- A call that names a template, by itself or by its first argument, expands the template that it is for. -/
theorem expandNamed_eq (expander : Expander Evaluation) (name : String) (values : List Value) (scope : Scope) :
    expandNamed expander name values scope =
      match targetOf name values with
      | .error error => Evaluating.raise error
      | .ok (target, rest) => expandCall expander target rest scope := by
  unfold expandNamed targetOf
  by_cases function : (splitRerun name).1 = "template" <;> simp [function]

/-- Evaluation takes a call for one of the same template as expansion does. -/
def Environment.ReadsAlike (environment : Environment) (name : String) : Prop :=
  -- Evaluation knows the four functions by their exact names, which come before templates of the same names.
  name ≠ "template!" ∧ (name ∈ templateFunctions → name = "template" ∨ environment.registry.has name = false)

instance (environment : Environment) (name : String) : Decidable (environment.ReadsAlike name) :=
  inferInstanceAs (Decidable (_ ∧ _))

/-- A call that is read alike evaluates the template that it is for. -/
theorem hostOf_call_of_readsAlike {environment : Environment} {name : String} (reads : environment.ReadsAlike name)
    (known : isTemplateCall environment name = true) (calls : Calls Evaluation) (values : List Value) (scope : Scope) :
    (hostOf environment calls).call name values scope =
      match targetOf name values with
      | .error error => Evaluating.raise error
      | .ok (target, rest) => callTemplate environment calls target rest scope := by
  obtain ⟨unmarked, unshadowed⟩ := reads
  unfold targetOf
  by_cases function : (splitRerun name).1 = "template"
  · -- Without an exclamation mark the evaluator takes the call for the same function.
    obtain rfl : name = "template" := (eq_or_eq_append_of_splitRerun function).resolve_right unmarked
    rw [if_pos function]
    cases named : templateTarget values <;> simp only [Host.call, hostOf, ownFunction?, named]
  · have has : environment.hasTemplate name = true := by simpa [isTemplateCall, function] using known
    have own : name ∉ templateFunctions := by
      intro inside
      have bare : splitRerun name = (name, false) := by
        simp only [templateFunctions, List.mem_cons, List.not_mem_nil, or_false] at inside
        rcases inside with rfl | rfl | rfl | rfl <;> exact splitRerun_of_getLast? (by decide)
      rcases unshadowed inside with same | absent
      · exact function (by rw [bare, same])
      · rw [Environment.hasTemplate, bare, absent] at has
        cases has
    rw [if_neg function]
    simp only [Host.call, hostOf, ownFunction?_of_not_mem _ _ own, has, if_true]

namespace Evaluation

variable {α β γ δ : Type} {exact : Prop} {stack : CallStack}

/--
A computation that settles and, unless it fails, gives copies of another one.

What the other computation comes to is what the copies come to, one after the other.
-/
structure Spreads (exact : Prop) (stack : CallStack) (copying : Evaluation (List γ)) (fits : γ → Prop)
    (meaning : γ → Evaluation α) (single : Evaluation α) : Prop where
  /-- Nothing is picked for the copies. -/
  settles : copying.Settles stack
  /-- All copies fit. -/
  fits : ∀ copies, copying.firstResult stack = .ok copies → ∀ copy ∈ copies, fits copy
  /-- The copies tell the results. -/
  thins : ∀ copies, copying.firstResult stack = .ok copies →
    single.Thins exact stack (copies.map fun copy => (meaning copy).firstResult stack)

/-- A computation that settles is its own copy. -/
theorem spreads_self {only : γ} {fits : γ → Prop} {meaning : γ → Evaluation α} (fit : fits only)
    (settled : (meaning only).Settles stack) : Spreads exact stack (pure [only]) fits meaning (meaning only) := by
  refine ⟨settles_pure _, fun copies given copy inside => ?_, fun copies given => ?_⟩
  · cases given
    obtain rfl := List.mem_singleton.mp inside
    exact fit
  · cases given
    exact thins_of_settles settled

/-- Copies that go on in the same way are copies. -/
theorem spreads_map {copying : Evaluation (List γ)} {fits : γ → Prop} {meaning : γ → Evaluation α}
    {single : Evaluation α} {fits' : δ → Prop} {meaning' : δ → Evaluation β} {next : α → Evaluation β} (build : γ → δ)
    (spread : Spreads exact stack copying fits meaning single)
    (settled : ∀ copy, fits copy → (meaning copy).Settles stack) (onward : ∀ value, (next value).Settles stack)
    (shape : ∀ copy, meaning' (build copy) = meaning copy >>= next)
    (fit : ∀ copy, fits copy → fits' (build copy)) :
    Spreads exact stack (copying >>= fun copies => pure (copies.map build)) fits' meaning' (single >>= next) := by
  refine ⟨settles_bind spread.settles fun copies _ => settles_pure _, ?_, ?_⟩
  · intro built given copy inside
    obtain ⟨copies, before, same⟩ := exists_of_firstResult_bind spread.settles given
    cases same
    obtain ⟨earlier, among, rfl⟩ := List.mem_map.mp inside
    exact fit earlier (spread.fits copies before earlier among)
  · intro built given
    obtain ⟨copies, before, same⟩ := exists_of_firstResult_bind spread.settles given
    cases same
    have thins := thins_map (spread.thins copies before) onward
    rw [List.map_map] at thins ⊢
    convert thins using 1
    refine List.map_congr_left fun copy inside => ?_
    rw [Function.comp_apply, Function.comp_apply, shape,
      firstResult_bind (settled copy (spread.fits copies before copy inside))]

/-- All combinations of the copies of two computations are copies of the two in a row. -/
theorem spreads_product {ε : Type} {copying₁ : Evaluation (List γ)} {fits₁ : γ → Prop} {meaning₁ : γ → Evaluation α}
    {single₁ : Evaluation α} {copying₂ : Evaluation (List δ)} {fits₂ : δ → Prop} {meaning₂ : δ → Evaluation β}
    {single₂ : Evaluation β} {ζ : Type} {fits : ε → Prop} {meaning : ε → Evaluation ζ} {next : α → β → Evaluation ζ}
    (build : γ → δ → ε) (spread₁ : Spreads exact stack copying₁ fits₁ meaning₁ single₁)
    (spread₂ : Spreads exact stack copying₂ fits₂ meaning₂ single₂)
    (settled₁ : ∀ copy, fits₁ copy → (meaning₁ copy).Settles stack)
    (settled₂ : ∀ copy, fits₂ copy → (meaning₂ copy).Settles stack)
    (onward : ∀ value₁ value₂, (next value₁ value₂).Settles stack)
    (shape : ∀ copy₁ copy₂, meaning (build copy₁ copy₂) =
      meaning₁ copy₁ >>= fun value₁ => meaning₂ copy₂ >>= next value₁)
    (fit : ∀ copy₁ copy₂, fits₁ copy₁ → fits₂ copy₂ → fits (build copy₁ copy₂)) :
    Spreads exact stack
      (copying₁ >>= fun copies₁ => copying₂ >>= fun copies₂ => pure (product build copies₁ copies₂)) fits meaning
      (single₁ >>= fun value₁ => single₂ >>= next value₁) := by
  refine ⟨settles_bind spread₁.settles fun _ _ => settles_bind spread₂.settles fun _ _ => settles_pure _, ?_, ?_⟩
  · intro built given copy inside
    obtain ⟨copies₁, before₁, given⟩ := exists_of_firstResult_bind spread₁.settles given
    obtain ⟨copies₂, before₂, same⟩ := exists_of_firstResult_bind spread₂.settles given
    cases same
    obtain ⟨copy₁, among₁, inside⟩ := List.mem_flatMap.mp inside
    obtain ⟨copy₂, among₂, rfl⟩ := List.mem_map.mp inside
    exact fit copy₁ copy₂ (spread₁.fits copies₁ before₁ copy₁ among₁) (spread₂.fits copies₂ before₂ copy₂ among₂)
  · intro built given
    obtain ⟨copies₁, before₁, given⟩ := exists_of_firstResult_bind spread₁.settles given
    obtain ⟨copies₂, before₂, same⟩ := exists_of_firstResult_bind spread₂.settles given
    cases same
    have thins := thins_product (spread₁.thins copies₁ before₁) (spread₂.thins copies₂ before₂) onward
    convert thins using 1
    rw [product, product, List.map_flatMap, List.flatMap_map]
    refine List.flatMap_congr fun copy₁ among₁ => ?_
    rw [List.map_map, List.map_map]
    refine List.map_congr_left fun copy₂ among₂ => ?_
    -- A combination is evaluated like its two parts in a row.
    rw [Function.comp_apply, Function.comp_apply, shape,
      firstResult_bind (settled₁ copy₁ (spread₁.fits copies₁ before₁ copy₁ among₁))]
    congr 1
    funext value₁
    rw [firstResult_bind (settled₂ copy₂ (spread₂.fits copies₂ before₂ copy₂ among₂))]

end Evaluation

open Evaluation

section Variants

variable {exact : Prop} {stack : CallStack} {environment : Environment} {calls : Calls Evaluation}
  {template : Expansion Evaluation} {scope : Scope}

/-- A call of a template with arguments is listed if the template is. -/
theorem enumerates_expandCall
    (called : ∀ name scope, Enumerates exact stack (template name scope) (calls.template name scope)) (name : String)
    (args : List Value) :
    Enumerates exact stack (expandCall ⟨environment, calls, template⟩ name args scope)
      (callTemplate environment calls name args scope) := by
  refine enumerates_bind (settles_ofExcept _) fun callee _ => ?_
  exact enumerates_bind (settles_ofExcept _) fun bound _ => called name bound

/-- A call that names a template, by itself or by its first argument, is listed if templates are. -/
theorem enumerates_expandNamed (unshadowed : environment.Unshadowed)
    (called : ∀ name scope, Enumerates exact stack (template name scope) (calls.template name scope)) {name : String}
    (known : isTemplateCall environment name = true) (unmarked : name ≠ "template!") (args : List Value) :
    Enumerates exact stack (expandNamed ⟨environment, calls, template⟩ name args scope)
      ((hostOf environment calls).call name args scope) := by
  rw [expandNamed_eq, hostOf_call_of_readsAlike ⟨unmarked, fun inside => .inr (unshadowed name inside)⟩ known]
  cases targetOf name args with
  | error error => exact enumerates_fail
  | ok pair => exact enumerates_expandCall called pair.1 pair.2

/-- Expressions settle one by one. -/
def ItemsSettle (environment : Environment) (calls : Calls Evaluation) (scope : Scope) (stack : CallStack)
    (items : List Expression) : Prop :=
  -- Each of them does.
  ∀ item ∈ items, (item.eval (hostOf environment calls) scope).Settles stack

/-- Expressions that settle one by one settle together. -/
theorem ItemsSettle.settles {items : List Expression} (settled : ItemsSettle environment calls scope stack items) :
    (Expression.evalItems (hostOf environment calls) scope items).Settles stack := by
  rw [evalItems_eq_mapM]
  exact (settles_mapM items settled).1

/-- Arguments that settle are evaluated to the values of their expressions. -/
theorem settles_expandArguments {args : List Expression} (settled : ItemsSettle environment calls scope stack args)
    (site : Site) :
    (expandArguments ⟨environment, calls, template⟩ scope site args).Settles stack ∧
      ∀ values, (expandArguments ⟨environment, calls, template⟩ scope site args).firstResult stack = .ok values →
        (Expression.evalItems (hostOf environment calls) scope args).firstResult stack = .ok values := by
  rw [evalItems_eq_mapM, expandArguments_eq_mapM]
  obtain ⟨together, results⟩ := settles_mapM args fun arg inside => (settles_evalArgument (settled arg inside) site).1
  refine ⟨together, fun values given => ?_⟩
  rw [results] at given
  rw [(settles_mapM args settled).2]
  -- An argument with a value has the value of its expression.
  refine mapM_eq_ok.mpr ?_
  rw [← mapM_eq_ok.mp given]
  refine List.map_congr_left fun arg inside => ?_
  obtain ⟨value, _, same⟩ := exists_of_mem_items given inside
  rw [(settles_evalArgument (settled arg inside) site).2 value same, same]

/-- A call of a template that is expanded is one with the values of its arguments. -/
theorem exists_of_expandTemplateCall {name : String} {args : List Expression}
    (settled : ItemsSettle environment calls scope stack args) {site : Site} {listed : List Value}
    (given : (expandTemplateCall ⟨environment, calls, template⟩ name args scope site).firstResult stack = .ok listed) :
    ∃ values, (Expression.evalItems (hostOf environment calls) scope args).firstResult stack = .ok values ∧
      (expandNamed ⟨environment, calls, template⟩ name values scope).firstResult stack = .ok listed := by
  rw [expandTemplateCall_eq] at given
  obtain ⟨values, evaluated, expanded⟩ := exists_of_firstResult_bind (settles_expandArguments settled site).1 given
  exact ⟨values, (settles_expandArguments settled site).2 values evaluated, expanded⟩

/-- A call of a template is listed by expanding the template for all copies of its arguments in turn. -/
theorem enumerates_expandTemplateCalls (unshadowed : environment.Unshadowed)
    (called : ∀ name scope, Enumerates exact stack (template name scope) (calls.template name scope)) {name : String}
    (known : isTemplateCall environment name = true) (unmarked : name ≠ "template!") (site : Site)
    {copying : Evaluation (List (List Expression))} {single : Evaluation (List Value)}
    (spread : Spreads exact stack copying (ItemsSettle environment calls scope stack)
      (Expression.evalItems (hostOf environment calls) scope) single) :
    Enumerates exact stack
      (copying >>= fun combinations =>
        expandTemplateCalls ⟨environment, calls, template⟩ name scope site combinations)
      (single >>= fun values => (hostOf environment calls).call name values scope) := by
  have named (args : List Value) : Enumerates exact stack (expandNamed ⟨environment, calls, template⟩ name args scope)
      ((hostOf environment calls).call name args scope) :=
    enumerates_expandNamed unshadowed called known unmarked args
  have each {args : List Expression} (settled : ItemsSettle environment calls scope stack args) :
      (expandTemplateCall ⟨environment, calls, template⟩ name args scope site).Settles stack := by
    rw [expandTemplateCall_eq]
    exact settles_bind (settles_expandArguments settled site).1 fun values _ => (named values).settles
  refine ⟨settles_bind spread.settles fun combinations given => ?_, fun values listed => ?_⟩
  · rw [expandTemplateCalls_eq_mapM]
    have together := settles_mapM combinations fun args inside => each (spread.fits combinations given args inside)
    exact settles_bind together.1 fun parts _ => settles_pure _
  · obtain ⟨combinations, given, listed⟩ := exists_of_firstResult_bind spread.settles listed
    rw [expandTemplateCalls_eq_mapM] at listed
    obtain ⟨succeeds, whole⟩ :=
      listed_of_flatten (fun args inside => each (spread.fits combinations given args inside)) listed
    -- After the values of one copy of the arguments comes what the template gives for them.
    let onward := valuesAfter fun args => (expandNamed ⟨environment, calls, template⟩ name args scope).listed stack
    have split (args : List Expression) (inside : args ∈ combinations) :
        ∃ results, (Expression.evalItems (hostOf environment calls) scope args).firstResult stack = .ok results ∧
          (expandNamed ⟨environment, calls, template⟩ name results scope).firstResult stack =
            .ok ((expandTemplateCall ⟨environment, calls, template⟩ name args scope site).listed stack) := by
      exact exists_of_expandTemplateCall (spread.fits combinations given args inside) (succeeds args inside)
    have after {results : List Value} {values : List Value}
        (expanded : (expandNamed ⟨environment, calls, template⟩ name results scope).firstResult stack = .ok values) :
        onward (.ok results) = values.map .ok := by
      simp only [onward, valuesAfter, Evaluation.listed, expanded]
      rfl
    have total : values.map Except.ok = (combinations.map fun args =>
        (Expression.evalItems (hostOf environment calls) scope args).firstResult stack).flatMap onward := by
      rw [whole, List.map_flatMap, List.flatMap_map]
      refine List.flatMap_congr fun args inside => ?_
      obtain ⟨results, evaluated, expanded⟩ := split args inside
      rw [evaluated, after expanded]
    change Thins exact stack _ (values.map .ok)
    rw [total]
    refine thins_bind (spread.thins combinations given) (fun results inside => ?_) fun error inside => ?_
    · obtain ⟨args, among, same⟩ := List.mem_map.mp inside
      obtain ⟨results', evaluated, expanded⟩ := split args among
      obtain rfl : results' = results := Except.ok.inj (evaluated.symm.trans same)
      rw [after expanded]
      exact (named results').tells _ expanded
    · obtain ⟨args, among, same⟩ := List.mem_map.mp inside
      obtain ⟨results, evaluated, _⟩ := split args among
      rw [evaluated] at same
      cases same

/-- Values that are listed are copies as constants. -/
theorem spreads_literals {listing : Evaluation (List Value)} {single : Evaluation Value}
    (enumerated : Enumerates exact stack listing single) :
    Spreads exact stack (listing >>= fun values => pure (values.map .literal))
      (fun copy => (copy.eval (hostOf environment calls) scope).Settles stack)
      (Expression.eval (hostOf environment calls) scope) single := by
  refine ⟨settles_bind enumerated.settles fun values _ => settles_pure _, fun copies given copy inside => ?_,
    fun copies given => ?_⟩
  · obtain ⟨values, before, same⟩ := exists_of_firstResult_bind enumerated.settles given
    cases same
    obtain ⟨value, _, rfl⟩ := List.mem_map.mp inside
    exact settles_pure value
  · obtain ⟨values, before, same⟩ := exists_of_firstResult_bind enumerated.settles given
    cases same
    have thins := enumerated.tells values before
    rw [List.map_map]
    exact thins

private theorem eval_eager {host : Host Evaluation} {op : BinaryOp} (plain : op ≠ .and ∧ op ≠ .or) (left right : Expression) :
    (Expression.binary op left right).eval host scope =
      left.eval host scope >>= fun first => right.eval host scope >>= fun second =>
        host.lift (applyBinary op first second) := by
  have undecided (truth : Bool) : op.decided? truth = none := by
    cases op <;> simp_all [BinaryOp.decided?]
  simp only [Expression.eval_binary, undecided]

/-- The arguments of a call are all evaluated unless it is the lazy conditional. -/
theorem eval_call_of_unconditional {name : String} {args : List Expression}
    (plain : environment.Unconditional (.call name args)) (args' : List Expression) :
    (Expression.call name args').eval (hostOf environment calls) scope =
      Expression.evalItems (hostOf environment calls) scope args' >>= fun values =>
        (hostOf environment calls).call name values scope := by
  rw [Expression.eval_call]
  by_cases lazy : name = "if"
  · -- A template of that name comes before the conditional.
    have other : "if" ∉ templateFunctions := by decide
    have known := plain.1 lazy
    rw [lazy] at known ⊢
    simp only [hostOf, ownFunction?_of_not_mem _ _ other, known]
    rfl
  · simp [lazy]

private theorem settles_lift (result : FunctionResult) : ((hostOf environment calls).lift result).Settles stack := by
  cases result with
  | ok value => exact settles_pure value
  | error error => exact settles_fail _

mutual

/-- The copies of an expression tell what the expression can come to. -/
theorem variants_spreads (unshadowed : environment.Unshadowed)
    (called : ∀ name scope, Enumerates exact stack (template name scope) (calls.template name scope)) (site : Site) :
    ∀ expression : Expression, (∀ node ∈ expression.nodes, environment.Unconditional node) →
      Spreads exact stack (variants ⟨environment, calls, template⟩ scope site expression)
        (fun copy => (copy.eval (hostOf environment calls) scope).Settles stack)
        (Expression.eval (hostOf environment calls) scope) (expression.eval (hostOf environment calls) scope) := by
  intro expression plain
  rw [variants.eq_def]
  cases foreign : callsTemplate environment expression with
  | false =>
    -- An expression that calls no template is its own copy.
    have settled : (expression.eval (hostOf environment calls) scope).Settles stack :=
      settles_eval_of_foreign plain foreign
    exact spreads_self settled settled
  | true =>
    simp only [Bool.not_true, Bool.false_eq_true, if_false]
    cases expression with
    | literal value => exact spreads_self (settles_pure _) (settles_pure _)
    | «variable» name => exact spreads_self (settles_pure _) (settles_pure _)
    | member target property =>
      simp only [Expression.nodes, List.mem_cons] at plain
      rw [Expression.eval]
      have targets := variants_spreads unshadowed called site target fun node inside => plain node (.inr inside)
      refine spreads_map (fun target => Expression.member target property) targets (fun copy settled => settled)
        (fun value => settles_pure _) (fun copy => by rw [Expression.eval]) fun copy settled => ?_
      rw [Expression.eval]
      exact settles_bind settled fun value _ => settles_pure _
    | index target key =>
      simp only [Expression.nodes, List.mem_cons, List.mem_append] at plain
      rw [Expression.eval]
      have targets := variants_spreads unshadowed called site target fun node inside => plain node (.inr (.inl inside))
      have keys := variants_spreads unshadowed called site key fun node inside => plain node (.inr (.inr inside))
      refine spreads_product Expression.index targets keys (fun copy settled => settled) (fun copy settled => settled)
        (fun _ _ => settles_pure _) (fun _ _ => by rw [Expression.eval]) fun target key settled₁ settled₂ => ?_
      rw [Expression.eval]
      exact settles_bind settled₁ fun _ _ => settles_bind settled₂ fun _ _ => settles_pure _
    | array items =>
      simp only [Expression.nodes, List.mem_cons] at plain
      rw [Expression.eval]
      have lists := variantsOfItems_spreads unshadowed called site items fun node inside => plain node (.inr inside)
      refine spreads_map Expression.array lists (fun copy settled => settled.settles) (fun values => settles_pure _)
        (fun copy => by rw [Expression.eval]) fun copy settled => ?_
      rw [Expression.eval]
      exact settles_bind settled.settles fun values _ => settles_pure _
    | object entries =>
      simp only [Expression.nodes, List.mem_cons] at plain
      rw [Expression.eval]
      have lists := variantsOfEntries_spreads unshadowed called site entries fun node inside => plain node (.inr inside)
      refine spreads_map Expression.object lists (fun copy settled => settled) (fun values => settles_pure _)
        (fun copy => by rw [Expression.eval]) fun copy settled => ?_
      rw [Expression.eval]
      exact settles_bind settled fun values _ => settles_pure _
    | unary op operand =>
      simp only [Expression.nodes, List.mem_cons] at plain
      rw [Expression.eval]
      have operands := variants_spreads unshadowed called site operand fun node inside => plain node (.inr inside)
      refine spreads_map (Expression.unary op) operands (fun copy settled => settled) (fun value => settles_lift _)
        (fun copy => by rw [Expression.eval]) fun copy settled => ?_
      rw [Expression.eval]
      exact settles_bind settled fun value _ => settles_lift _
    | binary op left right =>
      have eager : op ≠ .and ∧ op ≠ .or := plain (.binary op left right) (by simp [Expression.nodes])
      simp only [Expression.nodes, List.mem_cons, List.mem_append] at plain
      rw [eval_eager eager]
      have lefts := variants_spreads unshadowed called site left fun node inside => plain node (.inr (.inl inside))
      have rights := variants_spreads unshadowed called site right fun node inside => plain node (.inr (.inr inside))
      refine spreads_product (Expression.binary op) lefts rights (fun copy settled => settled) (fun copy settled => settled)
        (fun _ _ => settles_lift _) (fun left right => eval_eager eager left right)
        fun left right settled₁ settled₂ => ?_
      rw [eval_eager eager]
      exact settles_bind settled₁ fun _ _ => settles_bind settled₂ fun _ _ => settles_lift _
    | call name args =>
      have whole : environment.Unconditional (.call name args) := plain (.call name args) (by simp [Expression.nodes])
      simp only [Expression.nodes, List.mem_cons] at plain
      rw [eval_call_of_unconditional whole]
      have lists := variantsOfItems_spreads unshadowed called site args fun node inside => plain node (.inr inside)
      cases known : isTemplateCall environment name with
      | true =>
        -- The call stands for each value of its template in turn.
        have values := enumerates_expandTemplateCalls unshadowed called known whole.2.1 site lists
        simp only [known, if_true]
        rw [← bind_assoc]
        exact spreads_literals values
      | false =>
        have settled (values : List Value) : ((hostOf environment calls).call name values scope).Settles stack :=
          settles_call whole.2.2 known values
        simp only [known, Bool.false_eq_true, if_false]
        refine spreads_map (Expression.call name) lists (fun copy settled => settled.settles) settled
          (fun copy => eval_call_of_unconditional whole copy) fun copy settles => ?_
        rw [eval_call_of_unconditional whole]
        exact settles_bind settles.settles fun values _ => settled values

/-- The copies of several expressions tell what the expressions can come to. -/
theorem variantsOfItems_spreads (unshadowed : environment.Unshadowed)
    (called : ∀ name scope, Enumerates exact stack (template name scope) (calls.template name scope)) (site : Site) :
    ∀ items : List Expression, (∀ node ∈ Expression.nodesOfItems items, environment.Unconditional node) →
      Spreads exact stack (variantsOfItems ⟨environment, calls, template⟩ scope site items)
        (ItemsSettle environment calls scope stack) (Expression.evalItems (hostOf environment calls) scope)
        (Expression.evalItems (hostOf environment calls) scope items)
  | [], _ => by
    rw [variantsOfItems]
    have none : ItemsSettle environment calls scope stack [] := by simp [ItemsSettle]
    exact spreads_self none none.settles
  | item :: rest, plain => by
    simp only [Expression.nodesOfItems, List.mem_append] at plain
    rw [variantsOfItems, Expression.evalItems]
    have heads := variants_spreads unshadowed called site item fun node inside => plain node (.inl inside)
    have tails := variantsOfItems_spreads unshadowed called site rest fun node inside => plain node (.inr inside)
    refine spreads_product (fun head tail => head :: tail) heads tails (fun copy settled => settled)
      (fun copy settled => settled.settles) (fun _ _ => settles_pure _) (fun _ _ => by rw [Expression.evalItems])
      fun head tail settled₁ settled₂ other inside => ?_
    rcases List.mem_cons.mp inside with rfl | inside
    · exact settled₁
    · exact settled₂ other inside

/-- The copies of object entries tell what the entries can come to. -/
theorem variantsOfEntries_spreads (unshadowed : environment.Unshadowed)
    (called : ∀ name scope, Enumerates exact stack (template name scope) (calls.template name scope)) (site : Site) :
    ∀ entries : List (String × Expression),
      (∀ node ∈ Expression.nodesOfEntries entries, environment.Unconditional node) →
      Spreads exact stack (variantsOfEntries ⟨environment, calls, template⟩ scope site entries)
        (fun copy => (Expression.evalEntries (hostOf environment calls) scope copy).Settles stack)
        (Expression.evalEntries (hostOf environment calls) scope)
        (Expression.evalEntries (hostOf environment calls) scope entries)
  | [], _ => by
    rw [variantsOfEntries]
    exact spreads_self (settles_pure _) (settles_pure _)
  | (name, item) :: rest, plain => by
    simp only [Expression.nodesOfEntries, List.mem_append] at plain
    rw [variantsOfEntries, Expression.evalEntries]
    have heads := variants_spreads unshadowed called site item fun node inside => plain node (.inl inside)
    have tails := variantsOfEntries_spreads unshadowed called site rest fun node inside => plain node (.inr inside)
    refine spreads_product (fun head tail => (name, head) :: tail) heads tails (fun copy settled => settled)
      (fun copy settled => settled) (fun _ _ => settles_pure _) (fun _ _ => by rw [Expression.evalEntries])
      fun head tail settled₁ settled₂ => ?_
    rw [Expression.evalEntries]
    exact settles_bind settled₁ fun _ _ => settles_bind settled₂ fun _ _ => settles_pure _

end

/-- An embedded expression is listed by evaluating all copies of it in turn. -/
theorem enumerates_expandEmbedded (unshadowed : environment.Unshadowed)
    (called : ∀ name scope, Enumerates exact stack (template name scope) (calls.template name scope))
    (site : Site) {embedded : Embedded}
    (shown : exact → environment.ShowsFailures ∨ ∀ place cause,
      .error (.expression place cause) ∉ (embedded.expression.eval (hostOf environment calls) scope).outcomesFrom stack)
    (plain : ∀ node ∈ embedded.expression.nodes, environment.Unconditional node) :
    Enumerates exact stack (expandEmbedded ⟨environment, calls, template⟩ embedded scope site)
      (evalEmbedded environment calls embedded scope site) := by
  obtain ⟨source, expression⟩ := embedded
  have spread : Spreads exact stack (variants ⟨environment, calls, template⟩ scope site expression) _ _ _ :=
    variants_spreads unshadowed called site expression plain
  have each (copies : List Expression)
      (given : (variants ⟨environment, calls, template⟩ scope site expression).firstResult stack = .ok copies) :=
    settles_mapM copies fun copy inside => settles_evalEmbedded (spread.fits copies given copy inside) source site
  refine ⟨settles_bind spread.settles fun copies given => ?_, fun values listed => ?_⟩
  · rw [expandVariants_eq_mapM]
    exact (each copies given).1
  · obtain ⟨copies, given, listed⟩ := exists_of_firstResult_bind spread.settles listed
    rw [expandVariants_eq_mapM, (each copies given).2] at listed
    -- The result of each copy is settled like the result of the expression.
    have results := spread.thins copies given
    have thins := thins_attempt_bind results (fun result _ => settles_settleEmbedded source site result)
      fun precise error inside => settleEmbedded_error ((shown precise).imp_right fun never place cause same =>
        never place cause (same ▸ results.subset inside)) source site
    change Thins exact stack _ (values.map .ok)
    rw [evalEmbedded_eq, ← mapM_eq_ok.mp listed]
    rw [List.map_map] at thins
    convert thins using 1
    refine List.map_congr_left fun copy inside => ?_
    exact firstResult_evalEmbedded (spread.fits copies given copy inside) source site

end Variants

end Phrasebook
