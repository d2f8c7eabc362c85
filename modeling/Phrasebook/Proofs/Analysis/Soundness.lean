import Phrasebook.Proofs.Analysis.Coverage
import Phrasebook.Proofs.Collection.Loaded
import Phrasebook.Proofs.Evaluation.Failures

/-! A template comes to the same over all data that agree where its analysis says that it looks. -/

namespace Phrasebook

/-- Whether a call through the function that takes a template's name tells the name by its form. -/
def namesLiterally (args : List Expression) : Bool :=
  -- Without arguments there is nothing to tell.
  match args with
  | [] => true
  | .literal (.str _) :: _ => true
  | _ => false

/-- A literal name is the one that is called, with the arguments behind it. -/
theorem literal_of_templateTarget {args : List Expression} (literal : namesLiterally args = true) {values : List Value}
    (fit : List.Forall₂ Expression.CanBe args values) {target : String} {rest : List Value}
    (names : templateTarget values = .ok (target, rest)) :
    ∃ more, args = .literal (.str target) :: more ∧ List.Forall₂ Expression.CanBe more rest := by
  cases fit with
  | nil => cases names
  | @cons first _ more _ fits others =>
    unfold namesLiterally at literal
    split at literal
    · rename_i none
      cases none
    · rename_i text _ here
      obtain ⟨rfl, rfl⟩ := List.cons.inj here
      obtain rfl : _ = Value.str text := fits
      cases names
      exact ⟨more, rfl, others⟩
    · cases literal

/-- Whether a part of an expression leads nowhere but to templates that its form tells. -/
def Environment.Traces (environment : Environment) (node : Expression) : Prop :=
  -- Only calls lead anywhere.
  match node with
  | .call name args => environment.Contains name ∧ (name = "template" → namesLiterally args = true)
  | _ => True

instance (environment : Environment) : DecidablePred environment.Traces
  | .call _ _ => inferInstanceAs (Decidable (_ ∧ _))
  | .literal _ | .variable _ | .member _ _ | .index _ _ | .array _ | .object _ | .unary _ _ | .binary _ _ _ =>
    .isTrue trivial

/-- A template and the templates that its analysis tells of. -/
def Registry.reached (registry : Registry) (name : String) (found : Dependencies) : List Template :=
  -- An exclamation mark makes no difference.
  ((splitRerun name).1 :: found.templates).filterMap registry.get?

section Soundness

variable {environment : Environment} {name : String} {found : Dependencies} {globals₁ globals₂ : Value}

/-- What an evaluation needs to come to the same over the data of two global layers. -/
structure Insensitive (environment : Environment) (name : String) (found : Dependencies) (globals₁ globals₂ : Value) :
    Prop where
  /-- The dependencies cover all templates that are reached. -/
  covers : ∀ template ∈ environment.registry.reached name found, found.Covers environment.registry template
  /-- Variables and members are named by identifiers. -/
  named : ∀ template ∈ environment.registry.reached name found, AllWellNamed template.expressions
  /-- Calls lead nowhere but to templates that their forms tell. -/
  traced : ∀ template ∈ environment.registry.reached name found, ∀ embedded ∈ template.expressions,
    ∀ node ∈ embedded.expression.nodes, environment.Traces node
  /-- No call by a literal name has an exclamation mark. -/
  unmarked : ∀ template ∈ environment.registry.reached name found, ∀ embedded ∈ template.expressions,
    ∀ target rest, .call "template" (.literal (.str target) :: rest) ∈ embedded.expression.nodes →
      splitRerun target = (target, false)
  /-- No template that is named like the function is called with an exclamation mark. -/
  unshadowed : environment.registry.has "template" = true → ∀ template ∈ environment.registry.reached name found,
    ∀ embedded ∈ template.expressions, ∀ node ∈ embedded.expression.nodes, node.rerunsTemplate = false
  /-- The layers agree on the paths. -/
  paths : ∀ path ∈ found.paths, (Scope.ofValue globals₁).getPath? path = (Scope.ofValue globals₂).getPath? path
  /-- The layers agree on the parameters. -/
  parameters : ∀ template ∈ environment.registry.reached name found, ∀ parameter ∈ template.parameters,
    (Scope.ofValue globals₁).getPath? parameter = (Scope.ofValue globals₂).getPath? parameter

/-- A template that is found under a name that is reached is reached. -/
theorem mem_reached {registry : Registry} {member : String}
    (reached : member = (splitRerun name).1 ∨ member ∈ found.templates) {template : Template}
    (defined : registry.get? member = some template) : template ∈ registry.reached name found := by
  refine List.mem_filterMap.mpr ⟨member, ?_, defined⟩
  rcases reached with rfl | among
  · exact List.mem_cons_self
  · exact List.mem_cons_of_mem _ among

variable (insensitive : Insensitive environment name found globals₁ globals₂)

include insensitive

/-- A chain of members in a template that is reached has the same value over both layers. -/
theorem Insensitive.pathValue_eq {template : Template} (reached : template ∈ environment.registry.reached name found)
    {embedded : Embedded} (among : embedded ∈ template.expressions) (locals : Option Fields) {part : Expression}
    (inside : part ∈ embedded.expression.paths) :
    part.pathValue ⟨globals₁, locals⟩ = part.pathValue ⟨globals₂, locals⟩ := by
  obtain ⟨chained, parts⟩ := Expression.of_mem_paths inside
  obtain ⟨path, chain⟩ := Option.isSome_iff_exists.mp chained
  have named : part.WellNamed := fun node within => insensitive.named template reached embedded among node (parts within)
  -- A local binding of the first variable hides both layers.
  cases bound : locals.bind (SortedMap.get? · part.root) with
  | some value =>
    refine part.pathValue_congr ?_
    simp only [Scope.get?, bound]
  | none =>
    have global (globals : Value) : part.pathValue ⟨globals, locals⟩ = part.pathValue (Scope.ofValue globals) := by
      refine part.pathValue_congr ?_
      simp only [Scope.get?, bound, Scope.ofValue, Option.bind_none]
    rw [global globals₁, global globals₂]
    rcases (insensitive.covers template reached).paths embedded among part inside path chain with told | parameter
    · rw [(Expression.pathValue_eq_getPath? _ named chain).1, (Expression.pathValue_eq_getPath? _ named chain).1,
        insensitive.paths path told]
    · have same := insensitive.parameters template reached (pathRoot path) parameter
      have plain : '.' ∉ (pathRoot path).toList := by
        rw [pathRoot, String.toList_ofList]
        exact fun dot => absurd (List.mem_takeWhile_imp dot) (by decide)
      rw [Scope.getPath?_of_dot_not_mem _ plain, Scope.getPath?_of_dot_not_mem _ plain,
        (Expression.pathValue_eq_getPath? (Scope.ofValue globals₁) named chain).2] at same
      exact part.pathValue_congr same

omit insensitive

/-- Binding arguments gives scopes over both layers the same local layer. -/
theorem bindArguments_layers {template : Template} {args : List Value} {locals : Option Fields} {bound₁ bound₂ : Scope}
    (binds₁ : bindArguments template args ⟨globals₁, locals⟩ = .ok bound₁)
    (binds₂ : bindArguments template args ⟨globals₂, locals⟩ = .ok bound₂) :
    ∃ locals, bound₁ = ⟨globals₁, locals⟩ ∧ bound₂ = ⟨globals₂, locals⟩ := by
  unfold bindArguments at binds₁ binds₂
  split at binds₁
  · rename_i none
    rw [if_pos none] at binds₂
    cases binds₁
    cases binds₂
    exact ⟨locals, rfl, rfl⟩
  · rename_i some
    rw [if_neg some] at binds₂
    split at binds₁
    · cases binds₁
    · rename_i fits
      rw [if_neg fits] at binds₂
      cases binds₁
      cases binds₂
      exact ⟨_, rfl, rfl⟩

/-- Whether all calls of templates that are reached end alike over both layers. -/
def CallsInsensitive (name : String) (found : Dependencies) (globals₁ globals₂ : Value) (calls : Calls Evaluation) :
    Prop :=
  -- Both scopes have the same local layer.
  ∀ callee, ((splitRerun callee).1 = (splitRerun name).1 ∨ (splitRerun callee).1 ∈ found.templates) →
    ∀ locals, Evaluation.endsAlike.Alike (calls.template callee ⟨globals₁, locals⟩) (calls.template callee ⟨globals₂, locals⟩)

include insensitive

/-- An expression in a template that is reached ends alike over both layers. -/
theorem Insensitive.embedsAlike {calls : Calls Evaluation}
    (callsAlike : CallsInsensitive name found globals₁ globals₂ calls) {template : Template}
    (reached : template ∈ environment.registry.reached name found) {embedded : Embedded}
    (among : embedded ∈ template.expressions) (locals : Option Fields) :
    Evaluation.endsAlike.EmbedsAlike environment environment calls calls ⟨globals₁, locals⟩ ⟨globals₂, locals⟩
      embedded := by
  have handles := Evaluation.endsAlike_handles
  have called (callee : String) (values : List Value) (known : environment.hasTemplate callee = true →
      (splitRerun callee).1 ∈ found.templates) :
      Evaluation.endsAlike.Alike (callTemplate environment calls callee values ⟨globals₁, locals⟩)
        (callTemplate environment calls callee values ⟨globals₂, locals⟩) := by
    refine callTemplate_alike handles environment (fun _ _ _ _ => trivial)
      fun template bound₁ bound₂ defined binds₁ binds₂ => ?_
    obtain ⟨locals', rfl, rfl⟩ := bindArguments_layers binds₁ binds₂
    have has : environment.hasTemplate callee = true := by
      rw [Environment.hasTemplate, SortedMap.has_eq_isSome_get?, get?_of_lookup defined]
      rfl
    exact callsAlike callee (.inr (known has)) locals'
  have covers := insensitive.covers template reached
  refine embedsAlike_of_eval handles rfl embedded ?_
  refine Expression.eval_alike Evaluation.endsAlike (fun error => handles.raises error) embedded.expression
    (fun part inside => insensitive.pathValue_eq reached among locals inside)
    fun callee args node => ⟨fun lazy => isNone_own_if lazy rfl, fun values fit => ?_⟩
  have traced := insensitive.traced template reached embedded among _ node
  refine hostOf_call_alike (fun _ => rfl) (fun _ _ => rfl) (fun _ _ _ => rfl) (fun error => handles.raises error) ?_ ?_ ?_ ?_
  · -- The function that takes a template's name has been told a literal one.
    rintro rfl target rest names
    obtain ⟨more, rfl, _⟩ := literal_of_templateTarget (traced.2 rfl) fit names
    refine called target rest fun has => ?_
    have unmarked := insensitive.unmarked template reached embedded among target more node
    rw [Environment.hasTemplate, unmarked] at has
    rw [unmarked]
    exact covers.templates embedded among "template" _ node target rfl has
  · rintro rfl
    exact absurd rfl traced.1.1
  · intro other has
    refine called callee values fun _ => ?_
    have noFunction : (splitRerun callee).1 ≠ "template" := by
      intro same
      rw [Environment.hasTemplate, same] at has
      rcases eq_or_eq_append_of_splitRerun same with rfl | rfl
      · exact other List.mem_cons_self
      · have marked := insensitive.unshadowed has template reached embedded among _ node
        cases marked
    refine covers.templates embedded among callee args node _ ?_ has
    simp [callTarget?, noFunction]
  · exact fun other unknown _ _ found _ => absurd found (not_registered traced.1.2 other unknown)

/-- A template that is evaluated by name ends alike over both layers. -/
theorem Insensitive.evalTemplate_alike {calls : Calls Evaluation}
    (callsAlike : CallsInsensitive name found globals₁ globals₂ calls) {callee : String}
    (reached : (splitRerun callee).1 = (splitRerun name).1 ∨ (splitRerun callee).1 ∈ found.templates)
    (locals : Option Fields) :
    Evaluation.endsAlike.Alike (evalTemplate environment calls callee ⟨globals₁, locals⟩ : Evaluation Value)
      (evalTemplate environment calls callee ⟨globals₂, locals⟩) := by
  -- Calls have the same local layer over both global ones.
  refine Evaluation.endsAmong_evalTemplate Evaluation.endsAlike_handles (fun _ => trivial) rfl callee rfl fun template defined => ?_
  have among := mem_reached reached (get?_of_lookup defined)
  exact evalBody_alike template.body (fun candidates _ => Evaluation.endsAmong_picks candidates)
    fun embedded inside => insensitive.embedsAlike callsAlike among inside locals

/-- All calls within a bound end alike over both layers. -/
theorem Insensitive.callsWithin_alike (limit : Nat) :
    CallsInsensitive name found globals₁ globals₂ (callsWithin limit environment) := by
  induction limit with
  | zero => exact fun callee _ locals => Evaluation.endsAlike_refl _
  | succ limit calls => exact fun callee reached locals => insensitive.evalTemplate_alike calls reached locals

/-- Within every bound, the template is evaluated alike over both layers. -/
theorem Insensitive.evaluateWithin_alike (limit : Nat) :
    Evaluation.endsAlike.Alike (evaluateWithin limit environment name (.ofValue globals₁))
      (evaluateWithin limit environment name (.ofValue globals₂)) := by
  -- Line breaks are written in the same way.
  refine Evaluation.endsAlike.alike_bind ?_ fun value => Evaluation.endsAlike_refl _
  exact insensitive.callsWithin_alike limit name (.inl rfl) none

end Soundness

/-- The environment of a collection without errors has its templates and its functions. -/
theorem Environment.of_eq_ok {collection : Collection} {options : Options} {files : FileTree} {functions : FunctionTable}
    {environment : Environment} (given : Environment.of collection options files functions = .ok environment) :
    collection.errors = [] ∧ environment.registry = collection.registry := by
  unfold Environment.of at given
  split at given
  · rename_i sound
    cases given
    exact ⟨sound, rfl⟩
  · cases given

/--
Analysis is sound.

Over data that agree on the paths of an analysis, and on the parameters of the templates in it, evaluation comes to the same.
-/
theorem evaluate_eq_of_agree {collection : Collection} (loaded : collection.IsLoaded) {options : Options}
    {files : FileTree} {functions : FunctionTable} {environment : Environment}
    (given : Environment.of collection options files functions = .ok environment) {name : String}
    {found : Dependencies} (analyzed : collection.analyze name = .ok found)
    (traced : ∀ template ∈ environment.registry.reached name found, ∀ embedded ∈ template.expressions,
      ∀ node ∈ embedded.expression.nodes, environment.Traces node)
    (unshadowed : environment.registry.has "template" = true → ∀ template ∈ environment.registry.reached name found,
      ∀ embedded ∈ template.expressions, ∀ node ∈ embedded.expression.nodes, node.rerunsTemplate = false)
    {globals₁ globals₂ : Value}
    (paths : ∀ path ∈ found.paths, (Scope.ofValue globals₁).getPath? path = (Scope.ofValue globals₂).getPath? path)
    (parameters : ∀ template ∈ environment.registry.reached name found, ∀ parameter ∈ template.parameters,
      (Scope.ofValue globals₁).getPath? parameter = (Scope.ofValue globals₂).getPath? parameter)
    (stack : CallStack) (picks : List Nat) :
    (evaluate environment name (.ofValue globals₁)).ending stack picks =
      (evaluate environment name (.ofValue globals₂)).ending stack picks := by
  obtain ⟨sound, registry⟩ := Environment.of_eq_ok given
  have analyzed' : environment.registry.analyze name = .ok found := by
    rw [registry]
    simpa only [Collection.analyze, sound] using analyzed
  -- Every template that is reached comes from a file that was read and checked.
  have origin (template : Template) (reached : template ∈ environment.registry.reached name found) :
      ∃ member id, (member = (splitRerun name).1 ∨ member ∈ found.templates) ∧
        environment.registry.get? member = some template ∧ collection.Leads collection.id id ∧
          template ∈ (collection.fileOf id).templates := by
    obtain ⟨member, among, defined⟩ := List.mem_filterMap.mp reached
    have inside := SortedMap.mem_of_get? defined
    rw [registry] at inside
    obtain ⟨id, _, leads, listed, _⟩ := Collection.exists_of_mem_registry inside
    exact ⟨member, id, List.mem_cons.mp among, defined, leads, listed⟩
  have insensitive : Insensitive environment name found globals₁ globals₂ := by
    refine ⟨fun template reached => ?_, fun template reached => ?_, traced, fun template reached => ?_, unshadowed, paths,
      parameters⟩
    · obtain ⟨member, _, under, defined, _⟩ := origin template reached
      exact Registry.covers_of_analyze analyzed' under defined
    · obtain ⟨_, id, _, _, _, listed⟩ := origin template reached
      exact (loaded.isRead listed).named
    · obtain ⟨_, id, _, _, leads, listed⟩ := origin template reached
      intro embedded among target rest node
      exact loaded.splitRerun_of_call sound leads listed among node rfl
  exact Evaluation.ending_eq_of_alike (insensitive.evaluateWithin_alike environment.depthLimit) stack picks

/-- A file whose first template looks into the data and calls the second one. -/
def survey : Collection :=
  -- Neither template looks at everything in the data.
  .ofText "# report(x)\n- $\x7ba.b\x7d $\x7bx\x7d $\x7bpart(1)\x7d\n\n# part(y)\n- $\x7by\x7d$\x7bc\x7d\n"

/-- Data for the report, with a part that it does not look at. -/
def surveyData (unseen : Int) : Value :=
  -- There is nothing under the names of the parameters.
  .obj [("a", .obj [("b", .int 1), ("d", .int unseen)]), ("c", .str "s")]

/-- A report is the same over data that differ where it does not look. -/
theorem survey_eq_of_agree :
    survey.IsLoaded ∧ Environment.of survey {} {} [] = .ok survey.alone ∧
      survey.analyze "report" = .ok ⟨["a.b", "c"], ["part"]⟩ ∧
      (∀ template ∈ survey.alone.registry.reached "report" ⟨["a.b", "c"], ["part"]⟩,
        ∀ embedded ∈ template.expressions, ∀ node ∈ embedded.expression.nodes, survey.alone.Traces node) ∧
      survey.alone.registry.has "template" = false ∧
      (∀ path ∈ ["a.b", "c", "x", "y"],
        (Scope.ofValue (surveyData 1)).getPath? path = (Scope.ofValue (surveyData 2)).getPath? path) ∧
      (∀ template ∈ survey.alone.registry.reached "report" ⟨["a.b", "c"], ["part"]⟩,
        ∀ parameter ∈ template.parameters, parameter ∈ ["x", "y"]) ∧
      (evaluate survey.alone "report" (.ofValue (surveyData 1))).ending {} [] =
        (evaluate survey.alone "report" (.ofValue (surveyData 2))).ending {} [] := by
  obtain ⟨sound, told, traced, plain, parameters⟩ : survey.errors.length = 0 ∧
      (survey.analyze "report").toOption = some ⟨["a.b", "c"], ["part"]⟩ ∧
      (∀ template ∈ survey.alone.registry.reached "report" ⟨["a.b", "c"], ["part"]⟩,
        ∀ embedded ∈ template.expressions, ∀ node ∈ embedded.expression.nodes, survey.alone.Traces node) ∧
      survey.alone.registry.has "template" = false ∧
      ∀ template ∈ survey.alone.registry.reached "report" ⟨["a.b", "c"], ["part"]⟩,
        ∀ parameter ∈ template.parameters, parameter ∈ ["x", "y"] := by
    decide +kernel
  have given := Collection.alone_eq sound
  have analyzed : survey.analyze "report" = .ok ⟨["a.b", "c"], ["part"]⟩ := eq_ok_of_toOption told
  have paths : ∀ path ∈ ["a.b", "c", "x", "y"],
      (Scope.ofValue (surveyData 1)).getPath? path = (Scope.ofValue (surveyData 2)).getPath? path := by
    intro path inside
    simp only [List.mem_cons, List.not_mem_nil, or_false] at inside
    rcases inside with rfl | rfl | rfl | rfl <;> rfl
  have loaded : survey.IsLoaded := ⟨_, _, _, rfl⟩
  refine ⟨loaded, given, analyzed, traced, plain, paths, parameters, ?_⟩
  refine evaluate_eq_of_agree loaded given analyzed traced (fun shadowed => by simp [plain] at shadowed)
    (fun path inside => paths path ?_) (fun template reached parameter inside => paths parameter ?_) {} []
  · exact List.mem_append_left ["x", "y"] inside
  · exact List.mem_append_right ["a.b", "c"] (parameters template reached parameter inside)

/-- A file with a template that is named like the function, and with a call of it that has an exclamation mark. -/
def shadowing : Collection :=
  -- The analysis takes the call for one of the function.
  .ofText "# template(x)\n- $\x7bsecret\x7d\n\n# t\n- $\x7btemplate!('other')\x7d\n\n# other\n- hi"

/-- The data of the file with the call. -/
def shadowingData (secret : Int) : Value :=
  .obj [("secret", .int secret)]

/-- Analysis is not sound where a template that is named like the function is called with an exclamation mark. -/
theorem shadowing_differs :
    shadowing.IsLoaded ∧ Environment.of shadowing {} {} [] = .ok shadowing.alone ∧
      shadowing.analyze "t" = .ok ⟨[], ["other"]⟩ ∧
      (∀ template ∈ shadowing.alone.registry.reached "t" ⟨[], ["other"]⟩, template.parameters = [] ∧
        ∀ embedded ∈ template.expressions, ∀ node ∈ embedded.expression.nodes, shadowing.alone.Traces node) ∧
      ((evaluate shadowing.alone "t" (.ofValue (shadowingData 1))).ending {} []).result ≠
        ((evaluate shadowing.alone "t" (.ofValue (shadowingData 2))).ending {} []).result := by
  -- The secret is given away as it is.
  obtain ⟨sound, told, traced, first, second⟩ : shadowing.errors.length = 0 ∧
      (shadowing.analyze "t").toOption = some ⟨[], ["other"]⟩ ∧
      (∀ template ∈ shadowing.alone.registry.reached "t" ⟨[], ["other"]⟩, template.parameters = [] ∧
        ∀ embedded ∈ template.expressions, ∀ node ∈ embedded.expression.nodes, shadowing.alone.Traces node) ∧
      (((evaluate shadowing.alone "t" (.ofValue (shadowingData 1))).ending {} []).result.toOption.bind Value.toSigned?) =
        some 1 ∧
      (((evaluate shadowing.alone "t" (.ofValue (shadowingData 2))).ending {} []).result.toOption.bind Value.toSigned?) =
        some 2 := by
    decide +kernel
  refine ⟨⟨_, _, _, rfl⟩, Collection.alone_eq sound, eq_ok_of_toOption told, traced, fun same => ?_⟩
  rw [same, second] at first
  cases first

end Phrasebook
