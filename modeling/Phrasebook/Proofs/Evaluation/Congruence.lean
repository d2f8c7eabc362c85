import Mathlib.Data.List.Forall2
import Phrasebook.Evaluation.Expand

/-! Evaluation carries over every relation between computations that doing one after another respects. -/

namespace Phrasebook

/-- A relation between computations of two monads that doing one after another respects. -/
structure Congruence (m₁ m₂ : Type → Type) [Monad m₁] [Monad m₂] where
  /-- Which computations are related, given how their values have to agree. -/
  Related : {α β : Type} → (α → β → Prop) → m₁ α → m₂ β → Prop
  /-- Computations that give agreeing values at once are related. -/
  done : ∀ {α β : Type} {Agree : α → β → Prop} {value₁ : α} {value₂ : β},
    Agree value₁ value₂ → Related Agree (pure value₁) (pure value₂)
  /-- Related computations that go on in related ways are related. -/
  andThen : ∀ {α β γ δ : Type} {Agree : α → β → Prop} {Goal : γ → δ → Prop} {first₁ : m₁ α} {first₂ : m₂ β}
    {next₁ : α → m₁ γ} {next₂ : β → m₂ δ},
    Related Agree first₁ first₂ →
      (∀ value₁ value₂, Agree value₁ value₂ → Related Goal (next₁ value₁) (next₂ value₂)) →
        Related Goal (first₁ >>= next₁) (first₂ >>= next₂)

namespace Congruence

variable {m₁ m₂ : Type → Type} [Monad m₁] [Monad m₂] (relation : Congruence m₁ m₂)

/-- Related computations whose values are the same. -/
def Alike {α : Type} (first : m₁ α) (second : m₂ α) : Prop :=
  -- Agreement is equality.
  relation.Related Eq first second

/-- Computations that give the same value at once are alike. -/
theorem alike_pure {α : Type} (value : α) : relation.Alike (pure value) (pure value) :=
  -- A value agrees with itself.
  relation.done rfl

/-- Computations that are alike may be followed by related ones. -/
theorem related_bind {α β γ : Type} {Goal : β → γ → Prop} {first₁ : m₁ α} {first₂ : m₂ α}
    {next₁ : α → m₁ β} {next₂ : α → m₂ γ} (first : relation.Alike first₁ first₂)
    (next : ∀ value, relation.Related Goal (next₁ value) (next₂ value)) :
    relation.Related Goal (first₁ >>= next₁) (first₂ >>= next₂) := by
  -- Both go on from the same value.
  refine relation.andThen first ?_
  rintro value _ rfl
  exact next value

/-- Computations that are alike and go on alike are alike. -/
theorem alike_bind {α β : Type} {first₁ : m₁ α} {first₂ : m₂ α} {next₁ : α → m₁ β} {next₂ : α → m₂ β}
    (first : relation.Alike first₁ first₂) (next : ∀ value, relation.Alike (next₁ value) (next₂ value)) :
    relation.Alike (first₁ >>= next₁) (first₂ >>= next₂) :=
  -- Being alike is being related by equality.
  relation.related_bind first next

/-- Whoever agrees closely also agrees loosely. -/
theorem weaken [LawfulMonad m₁] [LawfulMonad m₂] {α β : Type} {Agree Goal : α → β → Prop} {first : m₁ α}
    {second : m₂ β} (related : relation.Related Agree first second)
    (looser : ∀ value₁ value₂, Agree value₁ value₂ → Goal value₁ value₂) :
    relation.Related Goal first second := by
  -- Going on with nothing but the value changes neither computation.
  rw [← bind_pure first, ← bind_pure second]
  exact relation.andThen related fun value₁ value₂ agree => relation.done (looser value₁ value₂ agree)

end Congruence

namespace Expression

/-- Whether an expression can have a value, as far as its form tells: a constant has no other than its own. -/
def CanBe : Expression → Value → Prop
  -- All other expressions can have any value.
  | .literal constant, value => value = constant
  | _, _ => True

/-- The value of a chain of members that starts at a variable. -/
def pathValue (scope : Scope) : Expression → Value
  -- An absent variable or part is null.
  | .variable name => (scope.get? name).getD .null
  | .member target property => ((pathValue scope target).field? property).getD .null
  | _ => .null

mutual

/-- The chains of members in an expression that are not part of longer ones. -/
def paths (expression : Expression) : List Expression :=
  -- A whole chain is told apart from the chains inside other expressions.
  match expression.staticPath? with
  | some _ => [expression]
  | none =>
    match expression with
    | .literal _ => []
    | .variable _ => []
    | .member target _ => paths target
    | .index target key => paths target ++ paths key
    | .call _ args => pathsOfItems args
    | .array items => pathsOfItems items
    | .object entries => pathsOfEntries entries
    | .unary _ operand => paths operand
    | .binary _ left right => paths left ++ paths right

/-- The chains of members in several expressions. -/
def pathsOfItems : List Expression → List Expression
  -- Items come one after the other.
  | [] => []
  | item :: rest => paths item ++ pathsOfItems rest

/-- The chains of members in the values of object entries. -/
def pathsOfEntries : List (String × Expression) → List Expression
  -- Entries come one after the other.
  | [] => []
  | (_, value) :: rest => paths value ++ pathsOfEntries rest

end

/-- A chain of members is evaluated without calling anything, and never fails. -/
theorem eval_of_staticPath {m : Type → Type} [Monad m] [LawfulMonad m] (host : Host m) (scope : Scope)
    (expression : Expression) (chain : expression.staticPath?.isSome) :
    expression.eval host scope = pure (expression.pathValue scope) := by
  -- Each member steps into the value of the chain in front of it.
  induction expression using staticPath?.induct with
  | case1 name => simp [eval, pathValue]
  | case2 target property ih =>
    have shorter : target.staticPath?.isSome := by simpa [staticPath?] using chain
    simp [eval, pathValue, ih shorter]
  | case3 other noVariable noMember =>
    have absent : other.staticPath? = none := by simp [staticPath?]
    simp [absent] at chain

/-- A call evaluates its arguments first, unless it is the lazy conditional. -/
theorem eval_call {m : Type → Type} [Monad m] (host : Host m) (scope : Scope) (name : String)
    (args : List Expression) :
    (call name args).eval host scope =
      if name == "if" && (host.own name).isNone then
        match args with
        | [condition, positive, negative] =>
          eval host scope condition >>= fun value =>
            if value.truthy then eval host scope positive else eval host scope negative
        | _ => host.fail (.arity "if" "3" args.length)
      else evalItems host scope args >>= fun values => host.call name values scope := by
  -- The number of arguments matters to the conditional alone.
  rcases args with _ | ⟨condition, _ | ⟨positive, _ | ⟨negative, _ | more⟩⟩⟩ <;> rw [eval.eq_def]

end Expression

/-- What a binary operator gives without its right operand, told by the truth of the left one. -/
def BinaryOp.decided? : BinaryOp → Bool → Option Bool
  -- Only the logical operators may leave the right operand out.
  | .and, false => some false
  | .or, true => some true
  | _, _ => none

/-- A binary operator evaluates its right operand unless the left one decides. -/
theorem Expression.eval_binary {m : Type → Type} [Monad m] (host : Host m) (scope : Scope) (op : BinaryOp)
    (left right : Expression) :
    (binary op left right).eval host scope = left.eval host scope >>= fun first =>
      match op.decided? first.truthy with
      | some truth => pure (.bool truth)
      | none => right.eval host scope >>= fun second => host.lift (applyBinary op first second) := by
  rw [eval]
  congr 1
  funext first
  cases op <;> cases first.truthy <;> rfl

section Expressions

variable {m₁ m₂ : Type → Type} [Monad m₁] [Monad m₂] (relation : Congruence m₁ m₂)
  {host₁ : Host m₁} {host₂ : Host m₂} {scope₁ scope₂ : Scope}

/-- The result of a function is taken over alike by hosts that fail alike. -/
theorem Host.lift_alike (raised : ∀ error, relation.Alike (host₁.fail error : m₁ Value) (host₂.fail error))
    (result : FunctionResult) : relation.Alike (host₁.lift result) (host₂.lift result) := by
  -- Only errors involve the host.
  cases result with
  | ok value => exact relation.alike_pure value
  | error error => exact raised error

variable (host₁ host₂ scope₁ scope₂) in
/-- Two hosts answer a call alike, with arguments that have values which they can have. -/
structure Congruence.AnswersAlike (name : String) (args : List Expression) : Prop where
  /-- They agree on whether it is the lazy conditional. -/
  lazy : name = "if" → (host₁.own name).isNone = (host₂.own name).isNone
  /-- They answer alike. -/
  answers : ∀ values, List.Forall₂ Expression.CanBe args values →
    relation.Alike (host₁.call name values scope₁) (host₂.call name values scope₂)

mutual

/-- Hosts that answer alike evaluate an expression alike if its chains of members have the same values. -/
theorem Expression.eval_alike [LawfulMonad m₁] [LawfulMonad m₂]
    (raised : ∀ error, relation.Alike (host₁.fail error : m₁ Value) (host₂.fail error)) :
    ∀ expression : Expression,
      (∀ part ∈ expression.paths, part.pathValue scope₁ = part.pathValue scope₂) →
      (∀ name args, .call name args ∈ expression.nodes →
        relation.AnswersAlike host₁ host₂ scope₁ scope₂ name args) →
      relation.Alike (expression.eval host₁ scope₁) (expression.eval host₂ scope₂) := by
  intro expression agree called
  -- A chain is taken as a whole, because nothing is known about the values on the way.
  cases chain : expression.staticPath? with
  | some path =>
    have isChain : expression.staticPath?.isSome := by simp [chain]
    rw [eval_of_staticPath host₁ scope₁ expression isChain, eval_of_staticPath host₂ scope₂ expression isChain,
      agree expression (by unfold paths; simp [chain])]
    exact relation.alike_pure _
  | none =>
    cases expression with
    | literal value => exact relation.alike_pure value
    | «variable» name => simp [staticPath?] at chain
    | member target property =>
      simp only [paths, chain] at agree
      refine relation.alike_bind (eval_alike raised target agree fun name args inside => ?_)
        fun value => relation.alike_pure _
      exact called name args (by simp [nodes, inside])
    | index target key =>
      simp only [paths, chain, List.mem_append] at agree
      simp only [nodes, List.mem_cons, List.mem_append] at called
      refine relation.alike_bind (eval_alike raised target (fun part inside => agree part (.inl inside))
        fun name args inside => called name args (.inr (.inl inside))) fun first => ?_
      refine relation.alike_bind (eval_alike raised key (fun part inside => agree part (.inr inside))
        fun name args inside => called name args (.inr (.inr inside))) fun second => relation.alike_pure _
    | array items =>
      simp only [paths, chain] at agree
      simp only [nodes, List.mem_cons] at called
      refine relation.andThen (evalItems_alike raised items agree
        fun name args inside => called name args (.inr inside)) ?_
      rintro values _ ⟨rfl, _⟩
      exact relation.alike_pure _
    | object entries =>
      simp only [paths, chain] at agree
      simp only [nodes, List.mem_cons] at called
      refine relation.alike_bind (evalEntries_alike raised entries agree
        fun name args inside => called name args (.inr inside)) fun pairs => relation.alike_pure _
    | unary op operand =>
      simp only [paths, chain] at agree
      simp only [nodes, List.mem_cons] at called
      refine relation.alike_bind (eval_alike raised operand agree
        fun name args inside => called name args (.inr inside)) fun value => ?_
      exact Host.lift_alike relation raised _
    | binary op left right =>
      simp only [paths, chain, List.mem_append] at agree
      simp only [nodes, List.mem_cons, List.mem_append] at called
      refine relation.alike_bind (eval_alike raised left (fun part inside => agree part (.inl inside))
        fun name args inside => called name args (.inr (.inl inside))) fun first => ?_
      -- The right operand is evaluated unless the left one decides.
      have second := eval_alike raised right (fun part inside => agree part (.inr inside))
        fun name args inside => called name args (.inr (.inr inside))
      split
      · exact relation.alike_pure _
      · exact relation.alike_pure _
      · exact relation.alike_bind second fun value => Host.lift_alike relation raised _
    | call name args =>
      simp only [paths, chain] at agree
      have operands : ∀ callee values, .call callee values ∈ nodesOfItems args →
          relation.AnswersAlike host₁ host₂ scope₁ scope₂ callee values :=
        fun callee values inside => called callee values (by simp [nodes, inside])
      have whole : relation.Alike (evalItems host₁ scope₁ args >>= fun values => host₁.call name values scope₁)
          (evalItems host₂ scope₂ args >>= fun values => host₂.call name values scope₂) := by
        refine relation.andThen (evalItems_alike raised args agree operands) ?_
        rintro values _ ⟨rfl, fit⟩
        exact (called name args (by simp [nodes])).answers values fit
      rw [eval_call, eval_call]
      by_cases lazy : (name == "if") = true
      · obtain rfl : name = "if" := by simpa using lazy
        rw [(called "if" args (by simp [nodes])).lazy rfl]
        split
        · -- The lazy conditional evaluates its condition and then one of two branches.
          split
          · rename_i condition positive negative
            simp only [pathsOfItems, List.append_nil, List.mem_append] at agree
            simp only [nodesOfItems, List.append_nil, List.mem_append] at operands
            refine relation.alike_bind (eval_alike raised condition
              (fun part inside => agree part (.inl inside))
              fun callee values inside => operands callee values (.inl inside)) fun value => ?_
            split
            · exact eval_alike raised positive (fun part inside => agree part (.inr (.inl inside)))
                fun callee values inside => operands callee values (.inr (.inl inside))
            · exact eval_alike raised negative (fun part inside => agree part (.inr (.inr inside)))
                fun callee values inside => operands callee values (.inr (.inr inside))
          · exact raised _
        · exact whole
      · simp only [lazy, Bool.false_and, Bool.false_eq_true, if_false]
        exact whole

/-- Hosts that answer alike evaluate several expressions alike, each to a value that it can have. -/
theorem Expression.evalItems_alike [LawfulMonad m₁] [LawfulMonad m₂]
    (raised : ∀ error, relation.Alike (host₁.fail error : m₁ Value) (host₂.fail error)) :
    ∀ items : List Expression,
      (∀ part ∈ pathsOfItems items, part.pathValue scope₁ = part.pathValue scope₂) →
      (∀ name args, .call name args ∈ nodesOfItems items →
        relation.AnswersAlike host₁ host₂ scope₁ scope₂ name args) →
      relation.Related (fun values₁ values₂ => values₁ = values₂ ∧ List.Forall₂ CanBe items values₁)
        (evalItems host₁ scope₁ items) (evalItems host₂ scope₂ items)
  | [], _, _ => relation.done ⟨rfl, .nil⟩
  | item :: rest, agree, called => by
    simp only [pathsOfItems, List.mem_append] at agree
    simp only [nodesOfItems, List.mem_append] at called
    have others := evalItems_alike raised rest (fun part inside => agree part (.inr inside))
      fun name args inside => called name args (.inr inside)
    have head : relation.Related (fun value₁ value₂ => value₁ = value₂ ∧ item.CanBe value₁)
        (item.eval host₁ scope₁) (item.eval host₂ scope₂) := by
      -- A constant is its own value, and nothing is asked of the values of other expressions.
      by_cases constant : ∃ value, item = .literal value
      · obtain ⟨value, rfl⟩ := constant
        exact relation.done ⟨rfl, rfl⟩
      · refine relation.weaken (eval_alike raised item (fun part inside => agree part (.inl inside))
          fun name args inside => called name args (.inl inside)) fun value₁ value₂ same => ⟨same, ?_⟩
        cases item <;> simp_all [CanBe]
    refine relation.andThen head ?_
    rintro value _ ⟨rfl, fits⟩
    refine relation.andThen others ?_
    rintro values _ ⟨rfl, fit⟩
    exact relation.done ⟨rfl, .cons fits fit⟩

/-- Hosts that answer alike evaluate the entries of an object alike. -/
theorem Expression.evalEntries_alike [LawfulMonad m₁] [LawfulMonad m₂]
    (raised : ∀ error, relation.Alike (host₁.fail error : m₁ Value) (host₂.fail error)) :
    ∀ entries : List (String × Expression),
      (∀ part ∈ pathsOfEntries entries, part.pathValue scope₁ = part.pathValue scope₂) →
      (∀ name args, .call name args ∈ nodesOfEntries entries →
        relation.AnswersAlike host₁ host₂ scope₁ scope₂ name args) →
      relation.Alike (evalEntries host₁ scope₁ entries) (evalEntries host₂ scope₂ entries)
  | [], _, _ => relation.alike_pure []
  | (label, item) :: rest, agree, called => by
    simp only [pathsOfEntries, List.mem_append] at agree
    simp only [nodesOfEntries, List.mem_append] at called
    refine relation.alike_bind (eval_alike raised item (fun part inside => agree part (.inl inside))
      fun name args inside => called name args (.inl inside)) fun value => ?_
    refine relation.alike_bind (evalEntries_alike raised rest (fun part inside => agree part (.inr inside))
      fun name args inside => called name args (.inr inside)) fun pairs => relation.alike_pure _

end

end Expressions

end Phrasebook
