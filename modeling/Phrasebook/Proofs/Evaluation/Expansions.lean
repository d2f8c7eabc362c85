import Phrasebook.Proofs.Evaluation.Hosts
import Phrasebook.Proofs.Expression.Everywhere

/-! What relates the calls of templates relates the expansion of bodies that make them. -/

namespace Phrasebook

namespace Expression

/-- Whether an expression can stand in for another one, as far as its form tells: a constant only for itself. -/
def IsCopy : Expression → Expression → Prop
  -- Nothing is known of copies of other expressions.
  | .literal value, copy => copy = .literal value
  | _, _ => True

/-- Every expression can stand in for itself. -/
theorem isCopy_refl (expression : Expression) : expression.IsCopy expression := by
  cases expression <;> simp [IsCopy]

/-- A value that a copy can have is one that the original can have. -/
theorem IsCopy.canBe {original copy : Expression} (copied : original.IsCopy copy) {value : Value} (fits : copy.CanBe value) :
    original.CanBe value := by
  cases original with
  | literal constant =>
    obtain rfl : copy = .literal constant := copied
    exact fits
  | _ => trivial

/-- Whether a part of an expression is a copy of one of several calls, if it is a call at all. -/
def CopiesCall (known : String → List Expression → Prop) : Expression → Prop
  -- The arguments are copied one by one.
  | .call name args => ∃ originals, known name originals ∧ List.Forall₂ IsCopy originals args
  | _ => True

/-- Values that the arguments of a copied call can have are ones that those of the original can have. -/
theorem forall₂_canBe {originals copies : List Expression} (copied : List.Forall₂ IsCopy originals copies)
    {values : List Value} (fit : List.Forall₂ CanBe copies values) : List.Forall₂ CanBe originals values := by
  induction copied generalizing values with
  | nil => exact fit
  | cons here _ later =>
    cases fit with
    | cons fits others => exact .cons (here.canBe fits) (later others)

/-- Whether an expression is a known call, if it is a call at all. -/
def IsKnown (known : String → List Expression → Prop) : Expression → Prop
  -- Nothing is asked of other expressions.
  | .call name args => known name args
  | _ => True

/-- Whether all calls in embedded expressions are known as they stand. -/
def AllCalls (known : String → List Expression → Prop) (among : List Embedded) : Prop :=
  -- Calls may stand anywhere in an expression.
  ∀ embedded ∈ among, embedded.expression.Everywhere (IsKnown known)

/-- The calls in embedded expressions are known if each of them is. -/
theorem allCalls_of_calls {known : String → List Expression → Prop} {among : List Embedded}
    (calls : ∀ embedded ∈ among, ∀ name args, .call name args ∈ embedded.expression.nodes → known name args) :
    AllCalls known among := by
  intro embedded inside node part
  cases node with
  | call name args => exact calls embedded inside name args part
  | _ => trivial

/-- Calls that are known are copies of themselves. -/
theorem everywhere_copiesCall {known : String → List Expression → Prop} {expression : Expression}
    (knows : expression.Everywhere (IsKnown known)) : expression.Everywhere (CopiesCall known) := by
  intro node part
  cases node with
  | call name args => exact ⟨args, knows _ part, List.forall₂_same.mpr fun arg _ => arg.isCopy_refl⟩
  | _ => trivial

/-- What is a copy of a known call is one of a call that is known more widely. -/
theorem Everywhere.copiesCall_mono {known other : String → List Expression → Prop} {expression : Expression}
    (copied : expression.Everywhere (CopiesCall known)) (wider : ∀ name args, known name args → other name args) :
    expression.Everywhere (CopiesCall other) := by
  intro node part
  have here := copied node part
  cases node with
  | call name args =>
    obtain ⟨originals, knows, same⟩ := here
    exact ⟨originals, wider name originals knows, same⟩
  | _ => trivial

/-- Whether an expression is what another one becomes when values take the place of its calls of templates. -/
inductive Fills (environment : Environment) : Expression → Expression → Prop where
  /-- An expression that calls no template stays as it is. -/
  | same {expression : Expression} (foreign : callsTemplate environment expression = false) :
    Fills environment expression expression
  /-- A call of a template becomes a value. -/
  | value {name : String} {args : List Expression} (value : Value) (calls : isTemplateCall environment name = true) :
    Fills environment (.call name args) (.literal value)
  /-- The arguments of any other call are filled in. -/
  | call {name : String} {args copies : List Expression} (other : isTemplateCall environment name = false)
    (filled : List.Forall₂ (Fills environment) args copies) : Fills environment (.call name args) (.call name copies)
  /-- So is the target of a member. -/
  | member {target copy : Expression} {property : String} (filled : Fills environment target copy) :
    Fills environment (.member target property) (.member copy property)
  /-- So are the target and the key of an index. -/
  | index {target key target' key' : Expression} (filled : Fills environment target target')
    (filled' : Fills environment key key') : Fills environment (.index target key) (.index target' key')
  /-- So are the items of a list. -/
  | array {items copies : List Expression} (filled : List.Forall₂ (Fills environment) items copies) :
    Fills environment (.array items) (.array copies)
  /-- So are the values of the entries of an object. -/
  | object {entries copies : List (String × Expression)}
    (filled : List.Forall₂ (Fills environment) (entries.map (·.2)) (copies.map (·.2))) :
    Fills environment (.object entries) (.object copies)
  /-- So is the operand of a unary operator. -/
  | unary {op : UnaryOp} {operand copy : Expression} (filled : Fills environment operand copy) :
    Fills environment (.unary op operand) (.unary op copy)
  /-- So are the operands of a binary operator. -/
  | binary {op : BinaryOp} {left right left' right' : Expression} (filled : Fills environment left left')
    (filled' : Fills environment right right') : Fills environment (.binary op left right) (.binary op left' right')

/-- Filling in values leaves constants alone. -/
theorem Fills.isCopy {environment : Environment} {original copy : Expression} (filled : original.Fills environment copy) :
    original.IsCopy copy := by
  cases filled with
  | same => exact original.isCopy_refl
  | _ => trivial

/-- What is left of the calls that are known when values have taken the place of those of templates. -/
def LeftOver (environment : Environment) (known : String → List Expression → Prop) (name : String)
    (args : List Expression) : Prop :=
  -- The arguments are those of the original.
  known name args ∧ isTemplateCall environment name = false

/-- An expression that calls no template has no calls but such as are left over. -/
theorem everywhere_of_foreign {environment : Environment} {known : String → List Expression → Prop}
    {expression : Expression} (knows : expression.Everywhere (IsKnown known))
    (foreign : callsTemplate environment expression = false) :
    expression.Everywhere (CopiesCall (LeftOver environment known)) := by
  refine everywhere_copiesCall fun node part => ?_
  cases node with
  | call name args =>
    have other := List.any_eq_false.mp foreign _ part
    exact ⟨knows _ part, by simpa using other⟩
  | _ => trivial

mutual

/-- An expression that is filled in has no calls but such as are left over. -/
theorem Fills.everywhere {environment : Environment} {known : String → List Expression → Prop} :
    ∀ {original copy : Expression}, original.Fills environment copy → original.Everywhere (IsKnown known) →
      copy.Everywhere (CopiesCall (LeftOver environment known)) := by
  intro original copy filled knows
  -- The cases of the original are taken first, for the recursion is on its parts.
  cases original with
  | literal value =>
    cases filled with
    | same foreign => exact everywhere_of_foreign knows foreign
  | «variable» name =>
    cases filled with
    | same foreign => exact everywhere_of_foreign knows foreign
  | member target property =>
    cases filled with
    | same foreign => exact everywhere_of_foreign knows foreign
    | member filled =>
      exact everywhere_member.mpr ⟨trivial, Fills.everywhere filled (everywhere_member.mp knows).2⟩
  | index target key =>
    obtain ⟨_, target', key'⟩ := everywhere_index.mp knows
    cases filled with
    | same foreign => exact everywhere_of_foreign knows foreign
    | index filled filled' =>
      exact everywhere_index.mpr ⟨trivial, Fills.everywhere filled target', Fills.everywhere filled' key'⟩
  | call name args =>
    obtain ⟨here, args'⟩ := everywhere_call.mp knows
    cases filled with
    | same foreign => exact everywhere_of_foreign knows foreign
    | value value _ => exact everywhere_literal.mpr trivial
    | call other filled =>
      refine everywhere_call.mpr ⟨⟨args, ⟨here, other⟩, ?_⟩, Fills.everywhere_items filled args'⟩
      exact filled.imp fun _ _ => Fills.isCopy
  | array items =>
    cases filled with
    | same foreign => exact everywhere_of_foreign knows foreign
    | array filled =>
      exact everywhere_array.mpr ⟨trivial, Fills.everywhere_items filled (everywhere_array.mp knows).2⟩
  | object entries =>
    cases filled with
    | same foreign => exact everywhere_of_foreign knows foreign
    | object filled =>
      exact everywhere_object.mpr ⟨trivial, Fills.everywhere_entries filled (everywhere_object.mp knows).2⟩
  | unary op operand =>
    cases filled with
    | same foreign => exact everywhere_of_foreign knows foreign
    | unary filled => exact everywhere_unary.mpr ⟨trivial, Fills.everywhere filled (everywhere_unary.mp knows).2⟩
  | binary op left right =>
    obtain ⟨_, left', right'⟩ := everywhere_binary.mp knows
    cases filled with
    | same foreign => exact everywhere_of_foreign knows foreign
    | binary filled filled' =>
      exact everywhere_binary.mpr ⟨trivial, Fills.everywhere filled left', Fills.everywhere filled' right'⟩

/-- Items that are filled in have no calls but such as are left over. -/
theorem Fills.everywhere_items {environment : Environment} {known : String → List Expression → Prop} :
    ∀ {items copies : List Expression}, List.Forall₂ (Fills environment) items copies →
      (∀ item ∈ items, item.Everywhere (IsKnown known)) →
      ∀ copy ∈ copies, copy.Everywhere (CopiesCall (LeftOver environment known))
  | [], [], _, _ => nofun
  | item :: rest, copy :: others, filled, knows => by
    obtain ⟨here, further⟩ := List.forall_mem_cons.mp knows
    obtain ⟨filled, filled'⟩ := List.forall₂_cons.mp filled
    exact List.forall_mem_cons.mpr ⟨Fills.everywhere filled here, Fills.everywhere_items filled' further⟩

/-- Entries that are filled in have no calls but such as are left over. -/
theorem Fills.everywhere_entries {environment : Environment} {known : String → List Expression → Prop} :
    ∀ {entries copies : List (String × Expression)},
      List.Forall₂ (Fills environment) (entries.map (·.2)) (copies.map (·.2)) →
      (∀ entry ∈ entries, entry.2.Everywhere (IsKnown known)) →
      ∀ copy ∈ copies, copy.2.Everywhere (CopiesCall (LeftOver environment known))
  | [], [], _, _ => nofun
  | (name, item) :: rest, copy :: others, filled, knows => by
    obtain ⟨here, further⟩ := List.forall_mem_cons.mp knows
    obtain ⟨filled, filled'⟩ := List.forall₂_cons.mp filled
    exact List.forall_mem_cons.mpr ⟨Fills.everywhere filled here, Fills.everywhere_entries filled' further⟩

end

end Expression

/-- The name of the template that a call with some values is for, and the values that are left for its parameters. -/
def targetOf (name : String) (values : List Value) : Except ExpressionError (String × List Value) :=
  -- The function that takes a template's name counts with an exclamation mark as well.
  if (splitRerun name).1 = "template" then templateTarget values else .ok (name, values)

/-- Elements of two lists make one of the combinations. -/
theorem mem_product {α β γ : Type} {combine : α → β → γ} {left : List α} {right : List β} {a : α} {b : β}
    (inLeft : a ∈ left) (inRight : b ∈ right) : combine a b ∈ product combine left right :=
  List.mem_flatMap.mpr ⟨a, inLeft, List.mem_map_of_mem inRight⟩

/-- What holds of all combinations of elements of two lists holds of each element of one with each of the other. -/
theorem forall_mem_product {α β γ : Type} {combine : α → β → γ} {left : List α} {right : List β} {Good : γ → Prop} :
    (∀ result ∈ product combine left right, Good result) ↔ ∀ a ∈ left, ∀ b ∈ right, Good (combine a b) := by
  simp only [product, List.mem_flatMap, List.mem_map]
  constructor
  · exact fun all a inLeft b inRight => all _ ⟨a, inLeft, b, inRight, rfl⟩
  · rintro all _ ⟨a, inLeft, b, inRight, rfl⟩
    exact all a inLeft b inRight

section Expansions

variable {m₁ m₂ : Type → Type} [Evaluating m₁] [Evaluating m₂] (relation : Congruence m₁ m₂)
  (environment₁ environment₂ : Environment) (calls₁ : Calls m₁) (calls₂ : Calls m₂) (template₁ : Expansion m₁)
  (template₂ : Expansion m₂) (scope : Scope) (known : String → List Expression → Prop)
  (Gives : Expression → Value → Prop)

/-- The values of a known call of a template, after values have taken the place of the calls in its arguments. -/
def Expression.Passes (name : String) (args : List Expression) (values : List Value) : Prop :=
  -- Every argument gives its value.
  known name args ∧ isTemplateCall environment₁ name = true ∧
    ∃ copies, List.Forall₂ (Expression.Fills environment₁) args copies ∧ List.Forall₂ Gives copies values

/-- All that the expansion of a text with known calls does by itself is done alike on both sides. -/
structure Congruence.DelegatesAlike : Prop where
  /-- The same calls are of templates. -/
  calls : isTemplateCall environment₁ = isTemplateCall environment₂
  /-- Embedded expressions are evaluated whose calls of templates have given way to values. -/
  embeds : ∀ embedded : Embedded,
    embedded.expression.Everywhere (Expression.CopiesCall (Expression.LeftOver environment₁ known)) →
      relation.EmbedsAlike environment₁ environment₂ calls₁ calls₂ scope scope embedded
  /-- So are arguments of calls of templates, each to a value that it gives. -/
  arguments : ∀ name args, known name args → isTemplateCall environment₁ name = true → ∀ arg ∈ args, ∀ copy site,
    arg.Fills environment₁ copy → copy.Everywhere (Expression.CopiesCall (Expression.LeftOver environment₁ known)) →
      relation.Related (fun value₁ value₂ => value₁ = value₂ ∧ Gives copy value₁)
        (evalArgument environment₁ calls₁ copy scope site) (evalArgument environment₂ calls₂ copy scope site)
  /-- The error of a call that is told no template's name is raised. -/
  raised : ∀ name args values error, Expression.Passes environment₁ known Gives name args values →
    (splitRerun name).1 = "template" → templateTarget values = .error error →
      relation.Alike (Evaluating.raise error : m₁ (List Value)) (Evaluating.raise error)
  /-- Templates that are called by name are expanded. -/
  named : ∀ name args values, Expression.Passes environment₁ known Gives name args values →
    (splitRerun name).1 ≠ "template" →
      relation.Alike (expandCall ⟨environment₁, calls₁, template₁⟩ name values scope)
        (expandCall ⟨environment₂, calls₂, template₂⟩ name values scope)
  /-- So are those that are called through the function that takes a template's name. -/
  targeted : ∀ name args values target rest, Expression.Passes environment₁ known Gives name args values →
    (splitRerun name).1 = "template" → templateTarget values = .ok (target, rest) →
      relation.Alike (expandCall ⟨environment₁, calls₁, template₁⟩ target rest scope)
        (expandCall ⟨environment₂, calls₂, template₂⟩ target rest scope)

variable {relation environment₁ environment₂ calls₁ calls₂ template₁ template₂ scope known Gives}

/-- The values that are passed are ones that the arguments can have. -/
theorem Expression.Passes.canBe {name : String} {args : List Expression} {values : List Value}
    (passes : Passes environment₁ known CanBe name args values) : List.Forall₂ CanBe args values := by
  obtain ⟨_, _, copies, filled, fit⟩ := passes
  exact forall₂_canBe (filled.imp fun _ _ => Fills.isCopy) fit

variable (alike : relation.DelegatesAlike environment₁ environment₂ calls₁ calls₂ template₁ template₂ scope known Gives) (site : Site)

include alike

/-- Arguments of a call of a template are evaluated alike, each to a value that it gives. -/
theorem expandArguments_alike {name : String} {args : List Expression} (knows : known name args)
    (calls : isTemplateCall environment₁ name = true) (parts : ∀ arg ∈ args, arg.Everywhere (Expression.IsKnown known)) :
    ∀ {originals copies : List Expression}, originals ⊆ args → List.Forall₂ (Expression.Fills environment₁) originals copies →
      relation.Related (fun values₁ values₂ => values₁ = values₂ ∧ List.Forall₂ Gives copies values₁)
        (expandArguments ⟨environment₁, calls₁, template₁⟩ scope site copies)
        (expandArguments ⟨environment₂, calls₂, template₂⟩ scope site copies)
  | [], [], _, _ => relation.done ⟨rfl, .nil⟩
  | original :: rest, copy :: others, inside, filled => by
    obtain ⟨among, inside'⟩ := List.cons_subset.mp inside
    obtain ⟨filled, filled'⟩ := List.forall₂_cons.mp filled
    have evaluated := alike.arguments name args knows calls original among copy site filled
      (filled.everywhere (parts original among))
    refine relation.andThen evaluated ?_
    rintro value _ ⟨rfl, fits⟩
    refine relation.andThen (expandArguments_alike knows calls parts inside' filled') ?_
    rintro values _ ⟨rfl, fit⟩
    exact relation.done ⟨rfl, .cons fits fit⟩

/-- A call of a template is expanded alike. -/
theorem expandTemplateCall_alike {name : String} {args : List Expression} (knows : known name args)
    (calls : isTemplateCall environment₁ name = true) (parts : ∀ arg ∈ args, arg.Everywhere (Expression.IsKnown known))
    {copies : List Expression} (filled : List.Forall₂ (Expression.Fills environment₁) args copies) :
    relation.Alike (expandTemplateCall ⟨environment₁, calls₁, template₁⟩ name copies scope site)
      (expandTemplateCall ⟨environment₂, calls₂, template₂⟩ name copies scope site) := by
  refine relation.andThen (expandArguments_alike alike site knows calls parts (List.Subset.refl args) filled) ?_
  rintro values _ ⟨rfl, fit⟩
  have passes : Expression.Passes environment₁ known Gives name args values := ⟨knows, calls, copies, filled, fit⟩
  -- The template is named by the call or by its first argument.
  split
  · rename_i function
    have function : (splitRerun name).1 = "template" := by simpa using function
    cases target : templateTarget values with
    | error error => exact alike.raised name args values error passes function target
    | ok pair => exact alike.targeted name args values pair.1 pair.2 passes function target
  · rename_i other
    exact alike.named name args values passes (by simpa using other)

/-- Several calls of a template are expanded alike. -/
theorem expandTemplateCalls_alike {name : String} {args : List Expression} (knows : known name args)
    (calls : isTemplateCall environment₁ name = true) (parts : ∀ arg ∈ args, arg.Everywhere (Expression.IsKnown known)) :
    ∀ combinations : List (List Expression),
      (∀ copies ∈ combinations, List.Forall₂ (Expression.Fills environment₁) args copies) →
      relation.Alike (expandTemplateCalls ⟨environment₁, calls₁, template₁⟩ name scope site combinations)
        (expandTemplateCalls ⟨environment₂, calls₂, template₂⟩ name scope site combinations)
  | [], _ => relation.alike_pure []
  | copies :: rest, filled => by
    obtain ⟨here, others⟩ := List.forall_mem_cons.mp filled
    refine relation.alike_bind (expandTemplateCall_alike alike site knows calls parts here) fun values => ?_
    exact relation.alike_bind (expandTemplateCalls_alike knows calls parts rest others) fun others => relation.alike_pure _

set_option linter.unusedSectionVars false in
mutual

/-- The calls of templates in an expression give way to values alike. -/
theorem variants_alike : ∀ expression : Expression, expression.Everywhere (Expression.IsKnown known) →
    relation.Related (fun copies₁ copies₂ => copies₁ = copies₂ ∧ ∀ copy ∈ copies₁, expression.Fills environment₁ copy)
      (variants ⟨environment₁, calls₁, template₁⟩ scope site expression)
      (variants ⟨environment₂, calls₂, template₂⟩ scope site expression) := by
  intro expression knows
  have calls : callsTemplate environment₂ expression = callsTemplate environment₁ expression := by
    rw [callsTemplate, callsTemplate, alike.calls]
  rw [variants.eq_def, variants.eq_def]
  dsimp only
  rw [calls]
  cases foreign : callsTemplate environment₁ expression with
  | false =>
    -- An expression that calls no template stays as it is.
    exact relation.done ⟨rfl, by simpa using .same foreign⟩
  | true =>
    cases expression with
    | literal value => exact relation.done ⟨rfl, by simpa using .same rfl⟩
    | «variable» name => exact relation.done ⟨rfl, by simpa using .same rfl⟩
    | member target property =>
      refine relation.andThen (variants_alike target (Expression.everywhere_member.mp knows).2) ?_
      rintro targets _ ⟨rfl, filled⟩
      exact relation.done ⟨rfl, List.forall_mem_map.mpr fun copy inside => .member (filled copy inside)⟩
    | index target key =>
      obtain ⟨_, target', key'⟩ := Expression.everywhere_index.mp knows
      refine relation.andThen (variants_alike target target') ?_
      rintro targets _ ⟨rfl, filled⟩
      refine relation.andThen (variants_alike key key') ?_
      rintro keys _ ⟨rfl, filled'⟩
      refine relation.done ⟨rfl, forall_mem_product.mpr fun first inside second inside' => ?_⟩
      exact .index (filled first inside) (filled' second inside')
    | call name args =>
      obtain ⟨here, parts⟩ := Expression.everywhere_call.mp knows
      refine relation.andThen (variantsOfItems_alike args parts) ?_
      rintro combinations _ ⟨rfl, filled⟩
      rw [← alike.calls]
      split
      · rename_i calls
        refine relation.related_bind (expandTemplateCalls_alike alike site here calls parts combinations filled)
          fun values => relation.done ⟨rfl, List.forall_mem_map.mpr fun value _ => .value value calls⟩
      · rename_i other
        refine relation.done ⟨rfl, List.forall_mem_map.mpr fun combination inside => ?_⟩
        exact .call (by simpa using other) (filled combination inside)
    | array items =>
      refine relation.andThen (variantsOfItems_alike items (Expression.everywhere_array.mp knows).2) ?_
      rintro combinations _ ⟨rfl, filled⟩
      exact relation.done ⟨rfl, List.forall_mem_map.mpr fun combination inside => .array (filled combination inside)⟩
    | object entries =>
      refine relation.andThen (variantsOfEntries_alike entries (Expression.everywhere_object.mp knows).2) ?_
      rintro combinations _ ⟨rfl, filled⟩
      exact relation.done ⟨rfl, List.forall_mem_map.mpr fun combination inside => .object (filled combination inside)⟩
    | unary op operand =>
      refine relation.andThen (variants_alike operand (Expression.everywhere_unary.mp knows).2) ?_
      rintro operands _ ⟨rfl, filled⟩
      exact relation.done ⟨rfl, List.forall_mem_map.mpr fun copy inside => .unary (filled copy inside)⟩
    | binary op left right =>
      obtain ⟨_, left', right'⟩ := Expression.everywhere_binary.mp knows
      refine relation.andThen (variants_alike left left') ?_
      rintro lefts _ ⟨rfl, filled⟩
      refine relation.andThen (variants_alike right right') ?_
      rintro rights _ ⟨rfl, filled'⟩
      refine relation.done ⟨rfl, forall_mem_product.mpr fun first inside second inside' => ?_⟩
      exact .binary (filled first inside) (filled' second inside')

/-- The calls of templates in several expressions give way to values alike, item by item. -/
theorem variantsOfItems_alike : ∀ items : List Expression,
    (∀ item ∈ items, item.Everywhere (Expression.IsKnown known)) →
    relation.Related (fun combinations₁ combinations₂ => combinations₁ = combinations₂ ∧ ∀ combination ∈ combinations₁,
        List.Forall₂ (Expression.Fills environment₁) items combination)
      (variantsOfItems ⟨environment₁, calls₁, template₁⟩ scope site items)
      (variantsOfItems ⟨environment₂, calls₂, template₂⟩ scope site items)
  | [], _ => relation.done ⟨rfl, by simp⟩
  | item :: rest, knows => by
    obtain ⟨here, others⟩ := List.forall_mem_cons.mp knows
    refine relation.andThen (variants_alike item here) ?_
    rintro heads _ ⟨rfl, filled⟩
    refine relation.andThen (variantsOfItems_alike rest others) ?_
    rintro tails _ ⟨rfl, filled'⟩
    refine relation.done ⟨rfl, forall_mem_product.mpr fun head inside tail inside' => ?_⟩
    exact .cons (filled head inside) (filled' tail inside')

/-- The calls of templates in the entries of an object give way to values alike. -/
theorem variantsOfEntries_alike : ∀ entries : List (String × Expression),
    (∀ entry ∈ entries, entry.2.Everywhere (Expression.IsKnown known)) →
    relation.Related (fun combinations₁ combinations₂ => combinations₁ = combinations₂ ∧ ∀ combination ∈ combinations₁,
        List.Forall₂ (Expression.Fills environment₁) (entries.map (·.2)) (combination.map (·.2)))
      (variantsOfEntries ⟨environment₁, calls₁, template₁⟩ scope site entries)
      (variantsOfEntries ⟨environment₂, calls₂, template₂⟩ scope site entries)
  | [], _ => relation.done ⟨rfl, by simp⟩
  | (name, item) :: rest, knows => by
    obtain ⟨here, others⟩ := List.forall_mem_cons.mp knows
    refine relation.andThen (variants_alike item here) ?_
    rintro heads _ ⟨rfl, filled⟩
    refine relation.andThen (variantsOfEntries_alike rest others) ?_
    rintro tails _ ⟨rfl, filled'⟩
    refine relation.done ⟨rfl, forall_mem_product.mpr fun head inside tail inside' => ?_⟩
    exact .cons (filled head inside) (filled' tail inside')

end

/-- The copies of an embedded expression are evaluated alike. -/
theorem expandVariants_alike (source : String) : ∀ expressions : List Expression,
    (∀ expression ∈ expressions,
      expression.Everywhere (Expression.CopiesCall (Expression.LeftOver environment₁ known))) →
    relation.Alike (expandVariants ⟨environment₁, calls₁, template₁⟩ source scope site expressions)
      (expandVariants ⟨environment₂, calls₂, template₂⟩ source scope site expressions)
  | [], _ => relation.alike_pure []
  | expression :: rest, copied => by
    obtain ⟨here, others⟩ := List.forall_mem_cons.mp copied
    refine relation.alike_bind ((alike.embeds ⟨source, expression⟩ here).value site) fun value => ?_
    exact relation.alike_bind (expandVariants_alike source rest others) fun values => relation.alike_pure _

/-- An embedded expression is expanded alike. -/
theorem expandEmbedded_alike (embedded : Embedded) (knows : embedded.expression.Everywhere (Expression.IsKnown known)) :
    relation.Alike (expandEmbedded ⟨environment₁, calls₁, template₁⟩ embedded scope site)
      (expandEmbedded ⟨environment₂, calls₂, template₂⟩ embedded scope site) := by
  -- Its copies are made alike and evaluated alike.
  refine relation.andThen (variants_alike alike site embedded.expression knows) ?_
  rintro expressions _ ⟨rfl, filled⟩
  exact expandVariants_alike alike site embedded.source expressions fun expression inside =>
    (filled expression inside).everywhere knows

/-- The pieces of a text are joined alike. -/
theorem expandSegments_alike : ∀ (text : TemplateText) (beginnings : List String),
    Expression.AllCalls known text.expressions →
    relation.Alike (expandSegments ⟨environment₁, calls₁, template₁⟩ scope site beginnings text)
      (expandSegments ⟨environment₂, calls₂, template₂⟩ scope site beginnings text)
  | [], beginnings, _ => by
    rw [expandSegments, expandSegments]
    exact relation.alike_pure _
  | .literal text :: rest, beginnings, knows => by
    rw [expandSegments, expandSegments]
    exact expandSegments_alike rest _ knows
  | .expression embedded :: rest, beginnings, knows => by
    obtain ⟨here, others⟩ := List.forall_mem_cons.mp knows
    rw [expandSegments, expandSegments]
    exact relation.alike_bind (expandEmbedded_alike alike site embedded here) fun values =>
      expandSegments_alike rest _ others

/-- A text is expanded alike. -/
theorem expandText_alike (text : TemplateText) (knows : Expression.AllCalls known text.expressions) :
    relation.Alike (expandText ⟨environment₁, calls₁, template₁⟩ text scope site)
      (expandText ⟨environment₂, calls₂, template₂⟩ text scope site) := by
  unfold expandText
  cases single : text.single? with
  | some embedded =>
    exact expandEmbedded_alike alike site embedded (knows embedded (TemplateText.mem_expressions_of_single? single))
  | none =>
    exact relation.alike_bind (expandSegments_alike alike site text _ knows) fun outputs => relation.alike_pure _

/-- Alternative texts are expanded alike. -/
theorem expandCandidates_alike : ∀ texts : List TemplateText, Expression.AllCalls known (textsExpressions texts) →
    relation.Alike (expandCandidates ⟨environment₁, calls₁, template₁⟩ scope texts)
      (expandCandidates ⟨environment₂, calls₂, template₂⟩ scope texts)
  | [], _ => relation.alike_pure []
  | text :: rest, knows => by
    obtain ⟨here, others⟩ := List.forall_mem_append.mp knows
    refine relation.alike_bind (expandText_alike alike .text text here) fun values => ?_
    exact relation.alike_bind (expandCandidates_alike rest others) fun others => relation.alike_pure _

/-- Branches are expanded alike if their conditions are evaluated alike. -/
theorem expandBranches_alike : ∀ (branches : List Branch) (matched : Bool),
    Expression.AllCalls known (Body.conditional branches).expressions →
    (∀ branch ∈ branches, ∀ condition, branch.condition = some condition →
      relation.EmbedsAlike environment₁ environment₂ calls₁ calls₂ scope scope condition) →
    relation.Alike (expandBranches ⟨environment₁, calls₁, template₁⟩ scope matched branches)
      (expandBranches ⟨environment₂, calls₂, template₂⟩ scope matched branches)
  | [], matched, _, _ => by
    rw [expandBranches, expandBranches]
    exact relation.alike_pure _
  | branch :: rest, matched, knows, guards => by
    obtain ⟨here, others⟩ := List.forall_mem_append.mp knows
    obtain ⟨_, texts⟩ := List.forall_mem_append.mp here
    obtain ⟨guard, guards⟩ := List.forall_mem_cons.mp guards
    rw [expandBranches, expandBranches]
    have body := expandCandidates_alike alike branch.body texts
    cases conditioned : branch.condition with
    | none =>
      -- Such a branch adds its values unless a condition has held.
      have others (values : List Value) := relation.alike_bind (expandBranches_alike rest matched others guards)
        fun others => relation.alike_pure (values ++ others)
      cases matched with
      | true => exact relation.alike_bind (relation.alike_pure []) others
      | false => exact relation.alike_bind body others
    | some condition =>
      refine relation.alike_bind ((guard condition conditioned).condition _) fun holds => ?_
      split
      · refine relation.alike_bind body fun values => ?_
        exact relation.alike_bind (expandBranches_alike rest true others guards) fun others => relation.alike_pure _
      · exact expandBranches_alike rest matched others guards

/-- Cases are expanded alike if their values are evaluated alike. -/
theorem expandCases_alike (key : String) : ∀ (cases : List Case) (matched : Bool),
    Expression.AllCalls known (cases.flatMap fun case => case.value.toList ++ textsExpressions case.body) →
    (∀ case ∈ cases, ∀ value, case.value = some value →
      relation.EmbedsAlike environment₁ environment₂ calls₁ calls₂ scope scope value) →
    relation.Alike (expandCases ⟨environment₁, calls₁, template₁⟩ scope key matched cases)
      (expandCases ⟨environment₂, calls₂, template₂⟩ scope key matched cases)
  | [], matched, _, _ => by
    rw [expandCases, expandCases]
    exact relation.alike_pure _
  | case :: rest, matched, knows, guards => by
    obtain ⟨here, others⟩ := List.forall_mem_append.mp knows
    obtain ⟨_, texts⟩ := List.forall_mem_append.mp here
    obtain ⟨guard, guards⟩ := List.forall_mem_cons.mp guards
    rw [expandCases, expandCases]
    have body := expandCandidates_alike alike case.body texts
    cases valued : case.value with
    | none =>
      -- The default case adds its values unless a case has fitted.
      have others (values : List Value) := relation.alike_bind (expandCases_alike key rest matched others guards)
        fun others => relation.alike_pure (values ++ others)
      cases matched with
      | true => exact relation.alike_bind (relation.alike_pure []) others
      | false => exact relation.alike_bind body others
    | some value =>
      refine relation.alike_bind ((guard value valued).value _) fun candidate => ?_
      split
      · refine relation.alike_bind body fun values => ?_
        exact relation.alike_bind (expandCases_alike key rest true others guards) fun others => relation.alike_pure _
      · exact expandCases_alike key rest matched others guards

/-- The texts of a property are expanded alike. -/
theorem expandTexts_alike : ∀ (texts : List TemplateText) (beginnings : List (List Value)),
    Expression.AllCalls known (textsExpressions texts) →
    relation.Alike (expandTexts ⟨environment₁, calls₁, template₁⟩ scope site beginnings texts)
      (expandTexts ⟨environment₂, calls₂, template₂⟩ scope site beginnings texts)
  | [], beginnings, _ => by
    rw [expandTexts, expandTexts]
    exact relation.alike_pure _
  | text :: rest, beginnings, knows => by
    obtain ⟨here, others⟩ := List.forall_mem_append.mp knows
    rw [expandTexts, expandTexts]
    exact relation.alike_bind (expandText_alike alike site text here) fun values => expandTexts_alike rest _ others

/-- The lines of a structured body are expanded alike. -/
theorem expandStructure_alike (typeName : String) : ∀ (lines : List StructureLine) (objects : List Fields),
    Expression.AllCalls known (Body.structured typeName lines).expressions →
    relation.Alike (expandStructure ⟨environment₁, calls₁, template₁⟩ scope typeName objects lines)
      (expandStructure ⟨environment₂, calls₂, template₂⟩ scope typeName objects lines)
  | [], objects, _ => by
    rw [expandStructure, expandStructure]
    exact relation.alike_pure _
  | .property key values :: rest, objects, knows => by
    obtain ⟨here, others⟩ := List.forall_mem_append.mp knows
    rw [expandStructure, expandStructure]
    exact relation.alike_bind (expandTexts_alike alike _ values _ here) fun combinations =>
      expandStructure_alike typeName rest _ others
  | .merge embedded :: rest, objects, knows => by
    obtain ⟨here, others⟩ := List.forall_mem_cons.mp knows
    rw [expandStructure, expandStructure]
    exact relation.alike_bind (expandEmbedded_alike alike _ embedded here) fun values =>
      expandStructure_alike typeName rest _ others

/-- A body is expanded alike if the expressions that decide what is expanded are evaluated alike. -/
theorem expandBody_alike (body : Body) (knows : Expression.AllCalls known body.expressions)
    (guards : ∀ guard ∈ body.guards, relation.EmbedsAlike environment₁ environment₂ calls₁ calls₂ scope scope guard) :
    relation.Alike (expandBody ⟨environment₁, calls₁, template₁⟩ scope body)
      (expandBody ⟨environment₂, calls₂, template₂⟩ scope body) := by
  -- Each kind of body has its own rule.
  cases body with
  | normal candidates => exact expandCandidates_alike alike candidates knows
  | conditional branches =>
    refine expandBranches_alike alike branches false knows fun branch inside condition given => guards condition ?_
    exact List.mem_filterMap.mpr ⟨branch, inside, given⟩
  | switch subject cases =>
    obtain ⟨_, others⟩ := List.forall_mem_cons.mp knows
    obtain ⟨here, guards⟩ := List.forall_mem_cons.mp guards
    refine relation.alike_bind (here.value _) fun value => ?_
    refine expandCases_alike alike _ cases false others fun case inside value given => guards value ?_
    exact List.mem_filterMap.mpr ⟨case, inside, given⟩
  | structured typeName lines =>
    refine relation.alike_bind (expandStructure_alike alike typeName lines _ knows) fun objects => relation.alike_pure _

end Expansions

end Phrasebook
