import Phrasebook.Proofs.Collection.Loaded
import Phrasebook.Proofs.Evaluation.Expansions
import Phrasebook.Proofs.Evaluation.Origins

/-! Evaluation and expansion put places on errors about expressions where they are raised. -/

namespace Phrasebook

/-- From every stack on which a template is running, being followed is respected by doing one after another. -/
def located (asked : Prop) (bare : Cause → Prop) : Congruence Located Evaluation where
  Related Agree located plain := ∀ start : CallStack, start.names ≠ [] → ∀ origin picks,
    Tracks asked bare Agree start (located start origin picks) (plain.ending start picks)
  done agree _ _ _ _ := tracks_pure agree
  andThen first next start running origin picks :=
    tracks_bind (first start running origin picks) fun now value₁ value₂ origin picks names agree =>
      next value₁ value₂ agree now (names ▸ running) origin picks

/-- The calls of templates are followed from every stack, and those of exported templates need no account. -/
structure CallsTrack (asked : Prop) (calls₁ : Calls Located) (calls₂ : Calls Evaluation) : Prop where
  /-- The errors of templates have places. -/
  template : ∀ name scope start origin picks, Tracks asked (fun _ => False) (· = ·) start
    (calls₁.template name scope start origin picks) ((calls₂.template name scope).ending start picks)
  /-- So have those of the texts of files. -/
  text : ∀ text scope, (located asked fun _ => False).Alike (calls₁.text text scope) (calls₂.text text scope)
  /-- Exported templates run on stacks of their own. -/
  exported : ∀ owner name args scope start origin picks, Tracks False (fun _ => True) (· = ·) start
    (calls₁.exported owner name args scope start origin picks) ((calls₂.exported owner name args scope).ending start picks)

section Walk

variable {asked : Prop} {bare : Cause → Prop} {environment : Environment} {calls₁ : Calls Located} {calls₂ : Calls Evaluation}

/-- That a template is not found is no error about an expression. -/
theorem lookup_ne_expression (environment : Environment) (name : String) (place : Option Place) (cause : Cause) :
    environment.lookup name ≠ .error (.expression place cause) := by
  unfold Environment.lookup
  split
  · simp
  · simp [Environment.missing]

/-- Neither is a wrong number of arguments. -/
theorem bindArguments_ne_expression (template : Template) (args : List Value) (scope : Scope) (place : Option Place) (cause : Cause) :
    bindArguments template args scope ≠ .error (.expression place cause) := by
  unfold bindArguments
  split
  · simp
  · split
    · simp
    · simp

/-- What is done with the scope in which a called template runs is followed if it is for each such scope. -/
theorem tracks_callee {α : Type} {start : CallStack} {origin : Option CallStack} {picks : List Nat} {name : String}
    {args : List Value} {scope : Scope} {next₁ : Scope → Located α} {next₂ : Scope → Evaluation α}
    (next : ∀ bound now origin picks, now.names = start.names →
      Tracks asked bare (· = ·) now (next₁ bound now origin picks) ((next₂ bound).ending now picks)) :
    Tracks asked bare (· = ·) start
      ((Evaluating.ofExcept (environment.lookup name) >>= fun callee =>
        Evaluating.ofExcept (bindArguments callee args scope) >>= next₁ : Located α) start origin picks)
      ((Evaluating.ofExcept (environment.lookup name) >>= fun callee =>
        Evaluating.ofExcept (bindArguments callee args scope) >>= next₂ : Evaluation α).ending start picks) := by
  refine tracks_bind (tracks_ofExcept _ (lookup_ne_expression environment name)) ?_
  rintro now callee _ origin picks names rfl
  refine tracks_bind (tracks_ofExcept _ (bindArguments_ne_expression callee args scope)) ?_
  rintro later bound _ origin picks names' rfl
  exact next bound later origin picks (names'.trans names)

/-- A call of a template with arguments is followed. -/
theorem called_located (calls : CallsTrack asked calls₁ calls₂) (name : String) (args : List Value) (scope : Scope) :
    (located asked bare).Alike (callTemplate environment calls₁ name args scope) (callTemplate environment calls₂ name args scope) := by
  intro start _ origin picks
  refine tracks_callee fun bound now origin picks _ => ?_
  exact (calls.template name bound now origin picks).weaken id fun _ none => none.elim

/-- The inclusion of a file is followed. -/
theorem includeFile_located (calls : CallsTrack asked calls₁ calls₂) (args : List Value) (scope : Scope) :
    (located asked fun _ => True).Alike (includeFile environment calls₁ args scope) (includeFile environment calls₂ args scope) := by
  intro start running origin picks
  unfold includeFile
  cases includedFile args with
  | error error => exact tracks_raise (by trivial)
  | ok request =>
    obtain ⟨path, bare⟩ := request
    refine tracks_bind (tracks_pure rfl) fun now _ _ origin picks names _ => ?_
    refine tracks_bind tracks_stack ?_
    rintro later _ now origin picks names' ⟨rfl, rfl⟩
    dsimp only
    cases environment.files.read (resolvePath (currentSource environment now) path) with
    | error fault =>
      refine tracks_fail_other ?_
      simp
    | ok content =>
      cases bare with
      | true => exact tracks_pure rfl
      | false =>
        simp only [Bool.false_eq_true, if_false]
        cases TemplateText.parse content with
        | error error => exact tracks_raise (by trivial)
        | ok text =>
          have still : later.names ≠ [] := by rwa [names', names]
          exact (calls.text text scope later still origin picks).weaken id fun _ none => none.elim

/-- A registered function is followed, its errors being raised where it is called. -/
theorem registeredFunction?_located (calls : CallsTrack asked calls₁ calls₂) (name : String) (args : List Value) (scope : Scope)
    {function₁ : HostFunction Located} {function₂ : HostFunction Evaluation}
    (found₁ : registeredFunction? environment calls₁ name = some function₁)
    (found₂ : registeredFunction? environment calls₂ name = some function₂) :
    (located asked fun _ => True).Alike (function₁ args scope) (function₂ args scope) := by
  simp only [registeredFunction?, Option.map_eq_some_iff] at found₁ found₂
  obtain ⟨function, here, rfl⟩ := found₁
  obtain ⟨_, there, rfl⟩ := found₂
  obtain rfl := Option.some.inj (here.symm.trans there)
  intro start _ origin picks
  refine tracks_bind (tracks_pure rfl) fun now _ _ origin picks names _ => ?_
  cases function with
  | native function =>
    dsimp only
    cases function args scope with
    | ok value => exact tracks_pure rfl
    | error error => exact tracks_raise (by trivial)
  | exported owner template =>
    refine tracks_attempt (calls.exported owner template args scope now origin picks) (fun _ _ _ _ => tracks_pure rfl) ?_
    intro later error origin picks _ _
    -- Whatever the error tells, the function has failed here.
    cases error with
    | unfinished =>
      refine tracks_fail_other ?_
      simp
    | _ =>
      refine tracks_raise ?_
      trivial

/-- Every expression is followed. -/
theorem eval_located (calls : CallsTrack asked calls₁ calls₂) (expression : Expression) (scope : Scope) :
    (located asked fun _ => True).Alike (expression.eval (hostOf environment calls₁) scope)
      (expression.eval (hostOf environment calls₂) scope) := by
  have raised {α : Type} (error : ExpressionError) :
      (located asked fun _ => True).Alike (Evaluating.raise error : Located α) (Evaluating.raise error : Evaluation α) :=
    fun _ _ _ _ => tracks_raise trivial
  refine Expression.eval_alike _ raised expression (fun _ _ => rfl) fun name args _ =>
    ⟨fun lazy => isNone_own_if lazy rfl, fun values _ => ?_⟩
  exact hostOf_call_alike (fun _ => rfl) (fun _ _ => rfl) (fun _ _ _ => rfl) raised
    (fun _ target rest _ => called_located calls target rest scope)
    (fun _ => includeFile_located calls values scope)
    (fun _ _ => called_located calls name values scope)
    fun _ _ function₁ function₂ found₁ found₂ => registeredFunction?_located calls name values scope found₁ found₂

/-- Every embedded expression is followed, and its errors get places. -/
theorem embeds_located (calls : CallsTrack asked calls₁ calls₂) (scope : Scope) (embedded : Embedded) :
    (located asked bare).EmbedsAlike environment environment calls₁ calls₂ scope scope embedded := by
  have evaluated : (located asked fun _ => True).Alike (embedded.expression.eval (hostOf environment calls₁) scope)
      (embedded.expression.eval (hostOf environment calls₂) scope) :=
    eval_located calls embedded.expression scope
  have placed {β : Type} {now : CallStack} {origin : Option CallStack} {picks : List Nat} (still : now.names ≠ []) (site : Site)
      {error : TemplateError} (found : asked → error.IsFrom origin now) :
      Tracks asked bare (· = ·) now
        ((Evaluating.placeOf site >>= fun here => Evaluating.fail (error.withPlace here) : Located β) now origin picks)
        ((Evaluating.placeOf site >>= fun here => Evaluating.fail (error.withPlace here) : Evaluation β).ending now picks) :=
    tracks_placeOf (tracks_fail_again still site found)
  have null {β : Type} {now : CallStack} {picks : List Nat} (still : now.names ≠ []) (site : Site) :
      Tracks asked bare (· = ·) now
        ((Evaluating.placeOf site >>= fun here => Evaluating.fail (.expression (some here) (.null embedded.source)) :
          Located β) now none picks)
        ((Evaluating.placeOf site >>= fun here => Evaluating.fail (.expression (some here) (.null embedded.source)) :
          Evaluation β).ending now picks) :=
    tracks_placeOf (tracks_fail_new still site _)
  constructor <;> intro site start running origin picks
  · refine tracks_attempt (evaluated start running origin picks) ?_ ?_
    · intro now value picks names
      cases value with
      | null =>
        cases strict : environment.options.isStrict with
        | true => exact null (names ▸ running) site
        | false => exact tracks_pure rfl
      | _ => exact tracks_pure rfl
    · intro now error origin picks names found
      cases error with
      | expression place cause =>
        cases strict : environment.options.isStrict with
        | true => exact placed (names ▸ running) site found
        | false =>
          cases environment.substitute? embedded with
          | none => exact placed (names ▸ running) site found
          | some value => exact tracks_pure rfl
      | _ =>
        refine tracks_fail_other ?_
        simp
  · refine tracks_attempt (evaluated start running origin picks) ?_ ?_
    · intro now value picks names
      dsimp only
      split
      · exact null (names ▸ running) site
      · exact tracks_pure rfl
    · intro now error origin picks names found
      cases error with
      | expression place cause =>
        cases strict : environment.options.isStrict with
        | true => exact placed (names ▸ running) site found
        | false => exact tracks_pure rfl
      | _ =>
        refine tracks_fail_other ?_
        simp

/-- Every body is followed. -/
theorem body_located (calls : CallsTrack asked calls₁ calls₂) (body : Body) (scope : Scope) :
    (located asked bare).Alike (evalBody environment calls₁ scope body) (evalBody environment calls₂ scope body) := by
  exact evalBody_alike body (fun candidates _ _ _ _ _ => tracks_pickOne candidates) fun embedded _ =>
    embeds_located calls scope embedded

/-- A template is followed from every stack, and its errors about expressions have places. -/
theorem evalTemplate_located (calls : CallsTrack asked calls₁ calls₂) (name : String) (scope : Scope) (start : CallStack)
    (origin : Option CallStack) (picks : List Nat) :
    Tracks asked (fun _ => False) (· = ·) start (evalTemplate environment calls₁ name scope start origin picks)
      ((evalTemplate environment calls₂ name scope).ending start picks) := by
  unfold evalTemplate
  obtain ⟨base, rerun⟩ := splitRerun name
  dsimp only
  refine tracks_bind (tracks_ofExcept _ (lookup_ne_expression environment base)) ?_
  rintro now template _ origin picks names rfl
  refine tracks_bind (tracks_checkLoop base) ?_
  rintro now' _ _ origin picks names' -
  refine tracks_bind tracks_stack ?_
  rintro later _ now' origin picks names'' ⟨rfl, rfl⟩
  have enters (now : CallStack) (origin : Option CallStack) (picks : List Nat) : Tracks asked (fun _ => False) (· = ·) now
      ((Evaluating.withFrame base (evalBody environment calls₁ scope template.body) : Located Value) now origin picks)
      ((Evaluating.withFrame base (evalBody environment calls₂ scope template.body)).ending now picks) :=
    tracks_withFrame (body_located calls template.body scope _ (by simp) origin picks)
  cases rerun with
  | true => exact enters later origin picks
  | false =>
    cases now'.cached? ⟨base, scope.fingerprint⟩ with
    | some value => exact tracks_pure rfl
    | none =>
      refine tracks_bind (enters later origin picks) ?_
      rintro last value _ origin picks _ rfl
      exact tracks_bind (tracks_store _ value) fun _ _ _ _ _ _ _ => tracks_pure rfl

/-- An exported template is followed on a stack of its own, and its errors need no account here. -/
theorem callExported_located {inner₁ : Environment → Calls Located} {inner₂ : Environment → Calls Evaluation}
    (calls : ∀ exporter, CallsTrack False (inner₁ exporter) (inner₂ exporter)) (owner : Collection) (name : String)
    (args : List Value) (scope : Scope) (start : CallStack) (origin : Option CallStack) (picks : List Nat) :
    Tracks False (fun _ => True) (· = ·) start (callExported inner₁ environment owner name args scope start origin picks)
      ((callExported inner₂ environment owner name args scope).ending start picks) := by
  unfold callExported
  have taken {α : Type} (result : Except TemplateError α) (now : CallStack) (origin : Option CallStack) (picks : List Nat) :
      Tracks False (fun _ => True) (· = ·) now ((Evaluating.ofExcept result : Located α) now origin picks)
        ((Evaluating.ofExcept result : Evaluation α).ending now picks) := by
    cases result with
    | ok value => exact tracks_pure rfl
    | error error => exact tracks_fail (fun _ _ => trivial) False.elim
  refine tracks_bind (taken _ start origin picks) ?_
  rintro now exporter _ origin picks names rfl
  have alone (picks : List Nat) : Tracks False (fun _ => True) (· = ·) {}
      ((callTemplate exporter (inner₁ exporter) name args scope : Located Value) {} none picks)
      ((callTemplate exporter (inner₂ exporter) name args scope).ending {} picks) :=
    tracks_callee fun bound now origin picks _ =>
      ((calls exporter).template name bound now origin picks).weaken id fun _ none => none.elim
  refine tracks_bind (tracks_isolated (alone picks)) ?_
  rintro later result _ origin picks _ rfl
  exact taken result later origin picks

/-- Calls within a bound are followed. -/
theorem callsWithin_follow : ∀ (limit : Nat) (asked : Prop) (environment : Environment),
    CallsTrack asked (callsWithin limit environment) (callsWithin limit environment) := by
  intro limit
  induction limit with
  | zero =>
    intro asked environment
    exact ⟨fun _ _ _ _ _ => tracks_refuse, fun _ _ _ _ _ _ => tracks_refuse, fun _ _ _ _ _ _ _ => tracks_refuse⟩
  | succ limit follow =>
    intro asked environment
    have calls := follow asked environment
    refine ⟨evalTemplate_located calls, fun text scope => ?_, callExported_located fun exporter => follow False exporter⟩
    exact evalText_alike .text text fun embedded _ => embeds_located calls scope embedded

/-- An argument of a call of a template is followed, and its errors get places. -/
theorem argument_located (calls : CallsTrack asked calls₁ calls₂) (argument : Expression) (scope : Scope) (site : Site) :
    (located asked bare).Alike (evalArgument environment calls₁ argument scope site)
      (evalArgument environment calls₂ argument scope site) := by
  intro start running origin picks
  have evaluated : (located asked fun _ => True).Alike (argument.eval (hostOf environment calls₁) scope)
      (argument.eval (hostOf environment calls₂) scope) :=
    eval_located calls argument scope
  refine tracks_attempt (evaluated start running origin picks) ?_ ?_
  · intro now value picks _
    exact tracks_pure rfl
  · intro now error origin picks names found
    exact tracks_placeOf (tracks_fail_again (names ▸ running) site found)

/-- Whether a cause is that a template's name is to be told and none is. -/
def Cause.IsUntold (cause : Cause) : Prop :=
  -- The first value may be no text, or there may be none.
  ∃ values error, templateTarget values = .error error ∧ cause = .raised error

variable {template₁ : Expansion Located} {template₂ : Expansion Evaluation}

/-- A template is expanded alike from every stack, and its errors have places unless they tell that no template is named. -/
theorem expandTemplate_located (calls : CallsTrack asked calls₁ calls₂)
    (expanded : ∀ name scope start origin picks, Tracks asked Cause.IsUntold (· = ·) start
      (template₁ name scope start origin picks) ((template₂ name scope).ending start picks))
    (name : String) (scope : Scope) (start : CallStack) (origin : Option CallStack) (picks : List Nat) :
    Tracks asked Cause.IsUntold (· = ·) start
      (expandTemplate ⟨environment, calls₁, template₁⟩ name scope start origin picks)
      ((expandTemplate ⟨environment, calls₂, template₂⟩ name scope).ending start picks) := by
  have called (name : String) (args : List Value) : (located asked Cause.IsUntold).Alike
      (expandCall ⟨environment, calls₁, template₁⟩ name args scope) (expandCall ⟨environment, calls₂, template₂⟩ name args scope) :=
    fun _ _ _ _ => tracks_callee fun bound now origin picks _ => expanded name bound now origin picks
  have alike : (located asked Cause.IsUntold).DelegatesAlike environment environment calls₁ calls₂ template₁ template₂ scope
      (fun _ _ => True) fun _ _ => True := by
    refine ⟨rfl, fun embedded _ => embeds_located calls scope embedded, fun _ _ _ _ _ _ copy site _ _ => ?_,
      fun _ _ values error _ _ untold _ _ _ _ => tracks_raise ⟨values, error, untold, rfl⟩, fun name _ values _ _ => called name values,
      fun _ _ _ target rest _ _ _ => called target rest⟩
    exact Congruence.weaken _ (argument_located calls copy scope site) fun _ _ same => ⟨same, trivial⟩
  unfold expandTemplate
  refine tracks_bind (tracks_ofExcept _ (lookup_ne_expression environment _)) ?_
  rintro now template _ origin picks names rfl
  refine tracks_bind (tracks_checkLoop _) fun later _ _ origin picks _ _ => ?_
  have body := expandBody_alike alike template.body (Expression.allCalls_of_calls fun _ _ _ _ _ => trivial)
    fun guard _ => embeds_located calls scope guard
  exact tracks_withFrame (body _ (by simp) origin picks)

end Walk

/-- Expansion within a bound is followed. -/
theorem expansionWithin_follow (asked : Prop) (environment : Environment) : ∀ (limit : Nat) (name : String) (scope : Scope)
    (start : CallStack) (origin : Option CallStack) (picks : List Nat), Tracks asked Cause.IsUntold (· = ·) start
      ((expansionWithin environment limit name scope : Located (List Value)) start origin picks)
      ((expansionWithin environment limit name scope : Evaluation (List Value)).ending start picks) := by
  intro limit
  induction limit with
  | zero => exact fun _ _ _ _ _ => tracks_refuse
  | succ limit follow => exact expandTemplate_located (callsWithin_follow limit asked environment) follow

/-- What a run from a stack under a list of picks comes to. -/
def Located.ending {α : Type} (body : Located α) (stack : CallStack) (picks : List Nat) : LocatedEnding α :=
  -- No error is at hand at first.
  body stack none picks

/-- Whether the error of a run, if it is about an expression, begins with the name of the template that was innermost where it
    was raised. -/
def LocatedEnding.IsPlaced {α : Type} (ending : LocatedEnding α) : Prop :=
  -- The wording of the place is put in front of that of the cause.
  ∀ place cause, ending.result = .error (.expression place cause) → ∃ here raised name rest, place = some here ∧
    ending.origin = some raised ∧ raised.current? = some name ∧ here.describe = "[" ++ name ++ "]" ++ rest

/-- The wording of a place begins with the name of its template. -/
theorem Place.exists_describe {place : Place} {name : String} (named : place.template = some name) :
    ∃ rest, place.describe = "[" ++ name ++ "]" ++ rest := by
  unfold describe
  rw [named, Option.getD_some]
  cases place.site with
  | text => exact ⟨"", by rw [String.append_empty]⟩
  | condition source => exact ⟨" Condition '" ++ source ++ "'", by simp only [String.append_assoc]⟩
  | subject source => exact ⟨" Switch '" ++ source ++ "'", by simp only [String.append_assoc]⟩
  | case source => exact ⟨" Case '" ++ source ++ "'", by simp only [String.append_assoc]⟩
  | property key => exact ⟨" Property '" ++ key ++ "'", by simp only [String.append_assoc]⟩

/-- A run whose error is accounted for has it placed, unless it has no place at all. -/
theorem Tracks.isPlaced {α : Type} {bare : Cause → Prop} {start : CallStack} {located : LocatedEnding α} {plain : Ending α}
    (follows : Tracks True bare (· = ·) start located plain) :
    located.IsPlaced ∨ ∃ cause, bare cause ∧ located.result = .error (.expression none cause) := by
  by_cases unplaced : ∃ cause, located.result = .error (.expression none cause)
  · obtain ⟨cause, failed⟩ := unplaced
    exact .inr ⟨cause, follows.bare cause failed, failed⟩
  · refine .inl fun place cause failed => ?_
    cases place with
    | none => exact absurd ⟨cause, failed⟩ unplaced
    | some here =>
      obtain ⟨raised, name, origin, current, named⟩ := follows.found trivial _ failed
      obtain ⟨rest, wording⟩ := Place.exists_describe named
      exact ⟨here, raised, name, rest, rfl, origin, current, wording⟩

/-- Evaluation within a bound is followed, and its errors about expressions have places. -/
theorem evaluateWithin_follow (asked : Prop) (limit : Nat) (environment : Environment) (name : String) (scope : Scope)
    (stack : CallStack) (picks : List Nat) : Tracks asked (fun _ => False) (· = ·) stack
      ((evaluateWithin limit environment name scope : Located Value).ending stack picks)
      ((evaluateWithin limit environment name scope : Evaluation Value).ending stack picks) := by
  refine tracks_bind ((callsWithin_follow limit asked environment).template name scope stack none picks) ?_
  rintro now value _ origin picks _ rfl
  exact tracks_pure rfl

/-- Expansion to values with their line breaks written is followed as well. -/
theorem expandWithin_follow (asked : Prop) (limit : Nat) (environment : Environment) (name : String) (scope : Scope)
    (stack : CallStack) (picks : List Nat) : Tracks asked Cause.IsUntold (· = ·) stack
      ((expandWithin limit environment name scope : Located (List Value)).ending stack picks)
      ((expandWithin limit environment name scope : Evaluation (List Value)).ending stack picks) := by
  refine tracks_bind (expansionWithin_follow asked environment limit name scope stack none picks) ?_
  rintro now values _ origin picks _ rfl
  exact tracks_pure rfl

/-- **Errors about expressions tell where they happened.** Whatever is evaluated, such an error begins with the name of the
    template that was innermost where it was raised. So it does where templates are expanded, except for one error that has no
    place at all: that the function which takes a template's name is told none. -/
theorem errors_arePlaced (environment : Environment) (name : String) (scope : Scope) (stack : CallStack) (picks : List Nat) :
    (((evaluateWithin environment.depthLimit environment name scope : Located Value).ending stack picks).toEnding =
        (evaluate environment name scope).ending stack picks ∧
      ((evaluateWithin environment.depthLimit environment name scope : Located Value).ending stack picks).IsPlaced) ∧
    ((expandWithin environment.depthLimit environment name scope : Located (List Value)).ending stack picks).toEnding =
        (expand environment name scope).ending stack picks ∧
      (((expandWithin environment.depthLimit environment name scope : Located (List Value)).ending stack picks).IsPlaced ∨
        ∃ values error, templateTarget values = .error error ∧
          ((expand environment name scope).ending stack picks).result = .error (.expression none (.raised error))) := by
  have evaluates := evaluateWithin_follow True environment.depthLimit environment name scope stack picks
  have expands := expandWithin_follow True environment.depthLimit environment name scope stack picks
  refine ⟨⟨evaluates.ending_eq, ?_⟩, expands.ending_eq, ?_⟩
  · rcases evaluates.isPlaced with placed | ⟨_, impossible, _⟩
    · exact placed
    · exact impossible.elim
  · refine expands.isPlaced.imp_right ?_
    rintro ⟨cause, ⟨values, error, untold, rfl⟩, failed⟩
    refine ⟨values, error, untold, ?_⟩
    have same := congrArg Ending.result expands.ending_eq
    exact same.symm.trans failed

/-- A template that tells a number where a template's name belongs. -/
def nameless : Collection :=
  -- It is called through the function that takes a template's name.
  .ofText "# t\n- $\x7btemplate(1)\x7d"

/-- The wording of the place of an expression error, if a result is one; the error may have no place. -/
def placeTold {α : Type} : Except TemplateError α → Option (Option String)
  -- No other result has a place.
  | .error (.expression place _) => some (place.map Place.describe)
  | _ => none

/-- A result that tells a place, or that there is none, is an expression error with it. -/
theorem exists_of_placeTold {α : Type} {result : Except TemplateError α} {wording : Option String}
    (told : placeTold result = some wording) :
    ∃ place cause, result = .error (.expression place cause) ∧ place.map Place.describe = wording := by
  unfold placeTold at told
  split at told
  · exact ⟨_, _, rfl, Option.some.inj told⟩
  · cases told

/-- Expansion tells no template where evaluation does. -/
theorem nameless_expand_unplaced :
    Environment.of nameless {} {} [] = .ok nameless.alone ∧
      (∃ here cause, ((evaluate nameless.alone "t" (.ofValue .null)).ending {} []).result = .error (.expression (some here) cause) ∧
        here.describe = "[t]") ∧
      ∃ cause, ((expand nameless.alone "t" (.ofValue .null)).ending expansionStack []).result = .error (.expression none cause) := by
  refine ⟨Collection.alone_eq (by decide +kernel), ?_, ?_⟩
  · have told : placeTold ((evaluate nameless.alone "t" (.ofValue .null)).ending {} []).result = some (some "[t]") := by
      decide +kernel
    obtain ⟨place, cause, failed, wording⟩ := exists_of_placeTold told
    obtain ⟨here, rfl, described⟩ := Option.map_eq_some_iff.mp wording
    exact ⟨here, cause, failed, described⟩
  · have told : placeTold ((expand nameless.alone "t" (.ofValue .null)).ending expansionStack []).result = some none := by
      decide +kernel
    obtain ⟨place, cause, failed, wording⟩ := exists_of_placeTold told
    obtain rfl := Option.map_eq_none_iff.mp wording
    exact ⟨cause, failed⟩

end Phrasebook
