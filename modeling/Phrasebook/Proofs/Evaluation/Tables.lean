import Phrasebook.Proofs.Evaluation.Completion
import Phrasebook.Proofs.Evaluation.Failures

/-! An evaluation depends on the table of registered functions only where it can look a name up. -/

namespace Phrasebook

open Evaluation

/-- Where calls are held: in a template, or in the texts of the files that can be included. -/
inductive CallSite where
  /-- A template. -/
  | template (name : String)
  /-- Any file. -/
  | file

/-- Whether a call is held. -/
def Environment.HoldsAt (environment : Environment) : CallSite → String → List Expression → Prop
  -- Which file is included is not known before.
  | .template caller, name, args => environment.Holds caller name args
  | .file, name, args => ∃ path content text, environment.files.read path = .ok content ∧
    TemplateText.parse content = .ok text ∧ ∃ embedded ∈ text.expressions, .call name args ∈ embedded.expression.nodes

/-- Whether a name that is called can be looked up among the registered functions. -/
def Environment.LooksUp (environment : Environment) (holder : CallSite) (name : String) : Prop :=
  -- Templates and the functions that know them come first.
  name ∉ templateFunctions ∧ environment.hasTemplate name = false ∧ ∃ args, environment.HoldsAt holder name args

/-- Where the calls that are held lead to, each in the environment in which it runs. -/
inductive Environment.LeadsTo : Environment × CallSite → Environment × CallSite → Prop where
  /-- A template is called. -/
  | template {environment : Environment} {holder : CallSite} {name callee : String} {args : List Expression}
    (holds : environment.HoldsAt holder name args) (may : mayCall name args callee) :
    LeadsTo (environment, holder) (environment, .template callee)
  /-- A file is included. -/
  | file {environment : Environment} {holder : CallSite} {args : List Expression}
    (holds : environment.HoldsAt holder "fromFile" args) : LeadsTo (environment, holder) (environment, .file)
  /-- An exported template runs in an environment of its own. -/
  | exported {environment exporter : Environment} {holder : CallSite} {name template : String}
    (looks : environment.LooksUp holder name) (exports : environment.Exports name exporter template) :
    LeadsTo (environment, holder) (exporter, .template (splitRerun template).1)

/-- Registered functions that are the same, or the same template in files that are evaluated in the same way. -/
def RegisteredFunction.SameAs : RegisteredFunction → RegisteredFunction → Prop
  -- The files of an exported template may be part of different loads.
  | .native function₁, .native function₂ => function₁ = function₂
  | .exported owner₁ template₁, .exported owner₂ template₂ => template₁ = template₂ ∧
    ∀ files functions, Environment.of owner₁ {} files functions = Environment.of owner₂ {} files functions
  | _, _ => False

/-- Every registered function is the same as itself. -/
theorem RegisteredFunction.sameAs_refl (function : RegisteredFunction) : function.SameAs function := by
  cases function with
  | native function => rfl
  | exported owner template => exact ⟨rfl, fun _ _ => rfl⟩

/-- A name is missing from both of two tables in which it stands for the same, or from neither. -/
theorem isSome_eq_of_rel {α β : Type} {same : α → β → Prop} {found₁ : Option α} {found₂ : Option β}
    (rel : Option.Rel same found₁ found₂) : found₁.isSome = found₂.isSome := by
  cases rel <;> rfl

/-- The same environment with another table of registered functions. -/
def Environment.withFunctions (environment : Environment) (functions : FunctionTable) : Environment :=
  -- Templates, options and files stay.
  { environment with functions := functions }

/-- The same files can be included. -/
@[simp] theorem Environment.files_withFunctions (environment : Environment) (functions : FunctionTable) :
    (environment.withFunctions functions).files = environment.files :=
  rfl

/-- The options are the same. -/
@[simp] theorem Environment.options_withFunctions (environment : Environment) (functions : FunctionTable) :
    (environment.withFunctions functions).options = environment.options :=
  rfl

/-- The same templates are found. -/
@[simp] theorem Environment.lookup_withFunctions (environment : Environment) (functions : FunctionTable) :
    (environment.withFunctions functions).lookup = environment.lookup :=
  rfl

/-- Calls may nest as deeply. -/
@[simp] theorem Environment.depthLimit_withFunctions (environment : Environment) (functions : FunctionTable) :
    (environment.withFunctions functions).depthLimit = environment.depthLimit :=
  rfl

/-- The running template comes from the same file. -/
@[simp] theorem currentSource_withFunctions (environment : Environment) (functions : FunctionTable) (stack : CallStack) :
    currentSource (environment.withFunctions functions) stack = currentSource environment stack :=
  rfl

/-- The environment of a collection differs with the table of registered functions in nothing else. -/
theorem Environment.of_eq_map (collection : Collection) (options : Options) (files : FileTree)
    (functions table : FunctionTable) :
    Environment.of collection options files table =
      (Environment.of collection options files functions).map fun environment => environment.withFunctions table := by
  unfold Environment.of
  split <;> rfl

/-- The environment of a collection has the table of registered functions that is given. -/
theorem Environment.functions_of {collection : Collection} {options : Options} {files : FileTree} {functions : FunctionTable}
    {environment : Environment} (opens : Environment.of collection options files functions = .ok environment) :
    environment.functions = functions := by
  unfold Environment.of at opens
  split at opens
  · cases opens
    rfl
  · cases opens

/-- All environments that are reached have the same table of registered functions. -/
theorem Environment.functions_eq_of_reached {start reached : Environment × CallSite}
    (leads : Relation.ReflTransGen LeadsTo start reached) : reached.1.functions = start.1.functions := by
  induction leads with
  | refl => rfl
  | tail _ step ih =>
    cases step with
    | template => exact ih
    | file => exact ih
    | exported _ exports =>
      obtain ⟨_, _, opens⟩ := exports
      exact (functions_of opens).trans ih

/-- Wherever a template leads to, what can be looked up is the same in another table. -/
def Environment.AgreesFrom (root : Environment × CallSite) (table : FunctionTable) : Prop :=
  -- A name may be missing from both.
  ∀ environment holder name, Relation.ReflTransGen LeadsTo root (environment, holder) → environment.LooksUp holder name →
    Option.Rel RegisteredFunction.SameAs (environment.functions.get? name) (table.get? name)

/-- Calls that are reached end alike under two tables of registered functions. -/
structure CallsAgree (root : Environment × CallSite) (table : FunctionTable) (environment : Environment)
    (calls₁ calls₂ : Calls Evaluation) : Prop where
  /-- Templates that are reached. -/
  template : ∀ callee scope, Relation.ReflTransGen Environment.LeadsTo root (environment, .template (splitRerun callee).1) →
    endsAlike.Alike (calls₁.template callee scope) (calls₂.template callee scope)
  /-- The texts of files, if any can be included. -/
  text : Relation.ReflTransGen Environment.LeadsTo root (environment, .file) → ∀ path content text scope,
    environment.files.read path = .ok content → TemplateText.parse content = .ok text →
      endsAlike.Alike (calls₁.text text scope) (calls₂.text text scope)
  /-- Exported templates that are looked up. -/
  exported : ∀ holder function owner owner' template args scope,
    Relation.ReflTransGen Environment.LeadsTo root (environment, holder) → environment.LooksUp holder function →
      environment.functions.get? function = some (.exported owner template) →
        (∀ files functions, Environment.of owner {} files functions = Environment.of owner' {} files functions) →
          endsAlike.Alike (calls₁.exported owner template args scope) (calls₂.exported owner' template args scope)

section Tables

variable {root : Environment × CallSite} {table : FunctionTable} {environment : Environment} {calls₁ calls₂ : Calls Evaluation}
  {scope : Scope}

/-- A template that is reached is called alike. -/
theorem CallsAgree.called (calls : CallsAgree root table environment calls₁ calls₂) {callee : String}
    (reached : Relation.ReflTransGen Environment.LeadsTo root (environment, .template (splitRerun callee).1))
    (args : List Value) :
    endsAlike.Alike (callTemplate environment calls₁ callee args scope)
      (callTemplate (environment.withFunctions table) calls₂ callee args scope) := by
  exact callee_alike endsAlike_handles environment (fun _ _ _ _ => trivial) fun template bound _ _ =>
    calls.template callee bound reached

/-- A file is included alike. -/
theorem CallsAgree.included (calls : CallsAgree root table environment calls₁ calls₂)
    (reached : Relation.ReflTransGen Environment.LeadsTo root (environment, .file)) (args : List Value) :
    endsAlike.Alike (includeFile environment calls₁ args scope)
      (includeFile (environment.withFunctions table) calls₂ args scope) := by
  -- The same file is looked for in the same place.
  have places : endsAlike.Related (fun stack₁ stack₂ =>
      currentSource environment stack₁ = currentSource (environment.withFunctions table) stack₂ ∧ True)
      (Evaluating.stack : Evaluation CallStack) Evaluating.stack :=
    Congruence.weaken _ (endsAlike_refl _) fun stack _ same => ⟨by rw [same, currentSource_withFunctions], trivial⟩
  have files : environment.files = (environment.withFunctions table).files := (environment.files_withFunctions table).symm
  exact includeFile_alike endsAlike_handles files (endsAlike_refl _) (fun _ => True) places
    fun source path content text _ _ found parsed => calls.text reached _ content text scope found parsed

/-- A name that is looked up stands for the same function in both tables, which is called alike. -/
theorem CallsAgree.registered (calls : CallsAgree root table environment calls₁ calls₂) {holder : CallSite} {name : String}
    (reached : Relation.ReflTransGen Environment.LeadsTo root (environment, holder)) (looks : environment.LooksUp holder name)
    (same : Option.Rel RegisteredFunction.SameAs (environment.functions.get? name) (table.get? name)) (args : List Value)
    {function₁ function₂ : HostFunction Evaluation} (found₁ : registeredFunction? environment calls₁ name = some function₁)
    (found₂ : registeredFunction? (environment.withFunctions table) calls₂ name = some function₂) :
    endsAlike.Alike (function₁ args scope) (function₂ args scope) := by
  simp only [registeredFunction?, Option.map_eq_some_iff] at found₁ found₂
  obtain ⟨registered₁, here, rfl⟩ := found₁
  obtain ⟨registered₂, there, rfl⟩ := found₂
  rw [here, show table.get? name = some registered₂ from there] at same
  refine Congruence.alike_bind _ (endsAlike_refl _) fun _ => ?_
  cases same with | some same =>
  cases registered₁ with
  | native function₁ =>
    cases registered₂ with
    | native function₂ =>
      obtain rfl : function₁ = function₂ := same
      exact endsAlike_refl _
    | exported => exact absurd same id
  | exported owner₁ template₁ =>
    cases registered₂ with
    | native => exact absurd same id
    | exported owner₂ template₂ =>
      obtain ⟨rfl, opens⟩ := same
      have exported := calls.exported holder name owner₁ owner₂ template₁ args scope reached looks here opens
      refine Congruence.andThen _ (endsAlike_handles.attempts exported) ?_
      rintro result _ ⟨rfl, _⟩
      exact endsAlike_refl _

/-- An embedded expression whose calls are held where something is reached is evaluated alike. -/
theorem CallsAgree.embedsAlike (agrees : Environment.AgreesFrom root table)
    (calls : CallsAgree root table environment calls₁ calls₂) {holder : CallSite}
    (reached : Relation.ReflTransGen Environment.LeadsTo root (environment, holder)) {embedded : Embedded}
    (holds : ∀ name args, .call name args ∈ embedded.expression.nodes → environment.HoldsAt holder name args) :
    endsAlike.EmbedsAlike environment (environment.withFunctions table) calls₁ calls₂ scope scope embedded := by
  refine embedsAlike_of_eval endsAlike_handles (environment.options_withFunctions table).symm embedded ?_
  refine Expression.eval_alike _ (fun error => endsAlike_handles.raises error) embedded.expression (fun _ _ => rfl)
    fun name args node => ⟨fun lazy => isNone_own_if lazy rfl, fun values fit => ?_⟩
  have held := holds name args node
  have same (other : name ∉ templateFunctions) (unknown : environment.hasTemplate name = false) :=
    agrees environment holder name reached ⟨other, unknown, args, held⟩
  refine hostOf_call_alike (fun _ => rfl) (fun other unknown => ?_) (fun _ _ _ => rfl)
    (fun error => endsAlike_handles.raises error) ?_ ?_ ?_ ?_
  · exact isSome_eq_of_rel (same other unknown)
  · rintro rfl target rest named
    exact calls.called (reached.tail (.template held (mayCall_of_templateTarget fit named))) rest
  · rintro rfl
    exact calls.included (reached.tail (.file held)) values
  · intro other _
    exact calls.called (reached.tail (.template held (mayCall_of_not_mem other args))) values
  · intro other unknown function₁ function₂ found₁ found₂
    exact calls.registered reached ⟨other, unknown, args, held⟩ (same other unknown) values found₁ found₂

/-- All calls within a bound end alike under two tables that agree where something is reached. -/
theorem callsAgree_callsWithin (agrees : Environment.AgreesFrom root table) (limit : Nat) : ∀ environment,
    CallsAgree root table environment (callsWithin limit environment)
      (callsWithin limit (environment.withFunctions table)) := by
  induction limit with
  | zero =>
    exact fun environment => ⟨fun _ _ _ => endsAlike_refl _, fun _ _ _ _ _ _ _ => endsAlike_refl _,
      fun _ _ _ _ _ _ _ _ _ _ _ => endsAlike_refl _⟩
  | succ limit calls =>
    intro environment
    refine ⟨fun callee scope reached => ?_, fun reached path content text scope found parsed => ?_,
      fun holder function owner owner' template args scope reached looks found opens => ?_⟩
    · rw [template_callsWithin_succ, template_callsWithin_succ]
      refine endsAmong_evalTemplate endsAlike_handles (fun _ => trivial) (environment.lookup_withFunctions table).symm callee rfl
        fun template defined => ?_
      refine evalBody_alike template.body (fun candidates _ => endsAmong_picks candidates) fun embedded among => ?_
      refine (calls environment).embedsAlike agrees reached fun name args node => ?_
      exact ⟨template, get?_of_lookup defined, embedded, among, node⟩
    · refine evalText_alike .text text fun embedded among => ?_
      refine (calls environment).embedsAlike agrees reached fun name args node => ?_
      exact ⟨path, content, text, found, parsed, embedded, among, node⟩
    · -- The environment of the file has the new table as well.
      have other := Environment.of_eq_map owner {} environment.files environment.functions table
      change endsAlike.Alike (callExported (callsWithin limit) environment owner template args scope)
        (callExported (callsWithin limit) (environment.withFunctions table) owner' template args scope)
      unfold callExported
      rw [← opens, Environment.files_withFunctions, show (environment.withFunctions table).functions = table from rfl, other]
      cases opened : Environment.of owner {} environment.files environment.functions with
      | error error => exact endsAlike_handles.fails error trivial
      | ok exporter =>
        simp only [Except.map, Evaluating.ofExcept, pure_bind]
        have onward : endsAlike.Alike (callTemplate exporter (callsWithin limit exporter) template args scope) _ :=
          (calls exporter).called (reached.tail (.exported looks ⟨owner, found, opened⟩)) args
        exact Congruence.alike_bind _ (endsAlike_isolated onward) fun result => endsAlike_refl _

end Tables

/-- Within every bound, a template is evaluated alike under two tables that agree where it leads to. -/
theorem endsAlike_evaluateWithin {environment : Environment} {name : String} {table : FunctionTable}
    (agrees : Environment.AgreesFrom (environment, .template (splitRerun name).1) table) (limit : Nat) (scope : Scope) :
    endsAlike.Alike (evaluateWithin limit environment name scope)
      (evaluateWithin limit (environment.withFunctions table) name scope) :=
  Congruence.alike_bind _ ((callsAgree_callsWithin agrees limit environment).template name scope .refl) fun _ => endsAlike_refl _

/--
An evaluation depends on the table of registered functions only where it can look a name up.

Where a template leads to such names only as stand for the same functions in another table, it is evaluated alike.
-/
theorem ending_evaluate_withFunctions {environment : Environment} {name : String} {table : FunctionTable}
    (agrees : Environment.AgreesFrom (environment, .template (splitRerun name).1) table) (scope : Scope) (stack : CallStack)
    (picks : List Nat) :
    (evaluate environment name scope).ending stack picks =
      (evaluate (environment.withFunctions table) name scope).ending stack picks := by
  rw [evaluate, evaluate, Environment.depthLimit_withFunctions]
  exact ending_eq_of_alike (endsAlike_evaluateWithin agrees _ scope) stack picks

end Phrasebook
