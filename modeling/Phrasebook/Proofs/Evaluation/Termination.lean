import Mathlib.Order.WellFoundedSet
import Phrasebook.Proofs.Collection.Loaded
import Phrasebook.Proofs.Evaluation.Completion

/-! Evaluation ends, unless an exported template leads back to itself through the functions that are registered. -/

namespace Phrasebook

/-- Whether the calls of an exported template come to the same within every bound from a certain one on. -/
def Environment.Settles (exporter : Environment) (template : String) (bound : Nat) : Prop :=
  -- They run on an empty stack.
  ∀ limit, bound ≤ limit → ∀ more args scope, Completes (· = ·) {}
    (callTemplate exporter (callsWithin limit exporter) template args scope)
    (callTemplate exporter (callsWithin (limit + more) exporter) template args scope)

/-- Every larger bound will do as well. -/
theorem Environment.Settles.of_le {exporter : Environment} {template : String} {bound larger : Nat}
    (settles : exporter.Settles template bound) (wider : bound ≤ larger) : exporter.Settles template larger :=
  fun limit ample => settles limit (wider.trans ample)

section Bounds

variable {environment : Environment} {root : String} {spare : Nat}

/-- An exported template that settles completes. -/
theorem exported_complete {function name : String} {owner : Collection} {room limit : Nat}
    (registered : environment.functions.get? function = some (.exported owner name))
    (settles : ∀ exporter, environment.Exports function exporter name → exporter.Settles name spare)
    (ample : spare ≤ limit) (more : Nat) (args : List Value) (scope : Scope) :
    (completion environment.registry room).Alike
      (callExported (callsWithin limit) environment owner name args scope : Evaluation Value)
      (callExported (callsWithin (limit + more)) environment owner name args scope) := by
  unfold callExported
  cases allowed : Environment.of owner {} environment.files environment.functions with
  | error error =>
    -- A collection with errors is refused in both cases.
    have barred : (completion environment.registry room).Related (fun _ _ : Environment => False)
        (Evaluating.fail error) (Evaluating.fail error) := by
      refine completion_handles.fails error ?_
      rintro rfl
      unfold Environment.of at allowed
      split at allowed <;> cases allowed
    exact Congruence.andThen _ barred fun _ _ none => none.elim
  | ok exporter =>
    simp only [Evaluating.ofExcept, pure_bind]
    have settled := settles exporter ⟨owner, registered, allowed⟩ limit ample more args scope
    refine Congruence.andThen _ (completion_isolated settled) ?_
    rintro result _ ⟨rfl, finished⟩
    exact completion_handles.ofExcept result finished

/-- Calls complete within a bound that leaves room for all templates and for the exported ones that are used. -/
theorem callsWithin_complete (files : environment.FileFreeFrom root)
    (settles : ∀ caller function, Relation.ReflTransGen environment.Calls root caller → environment.Uses caller function →
      ∀ exporter name, environment.Exports function exporter name → exporter.Settles name spare) (more : Nat) :
    ∀ room limit, room + spare < limit →
      CallsComplete environment root room (callsWithin limit environment) (callsWithin (limit + more) environment) := by
  intro room
  induction room with
  | zero =>
    intro limit ample
    obtain ⟨limit, rfl⟩ := Nat.exists_eq_add_one_of_ne_zero (Nat.ne_of_gt (Nat.zero_lt_of_lt ample))
    refine ⟨fun callee scope _ start sound roomy => ?_, fun caller function owner name reached used registered args scope => ?_⟩
    · -- The stack is no higher than the registry is long.
      have height := sound.length_le
      omega
    · rw [Nat.add_right_comm]
      exact exported_complete registered (fun exporter => settles caller function reached used exporter name)
        (by omega) more args scope
  | succ room complete =>
    intro limit ample
    obtain ⟨limit, rfl⟩ := Nat.exists_eq_add_one_of_ne_zero (Nat.ne_of_gt (Nat.zero_lt_of_lt ample))
    rw [Nat.add_right_comm]
    have calls := complete limit (by omega)
    refine ⟨fun callee scope reached => calls.evalTemplate files reached scope, ?_⟩
    intro caller function owner name reached used registered args scope
    exact exported_complete registered (fun exporter => settles caller function reached used exporter name)
      (by omega) more args scope

/-- A template settles if the exported templates that it leads to do. -/
theorem settles_of_spare (files : environment.FileFree) {template : String}
    (settles : ∀ caller function, Relation.ReflTransGen environment.Calls (splitRerun template).1 caller →
      environment.Uses caller function → ∀ exporter name, environment.Exports function exporter name →
        exporter.Settles name spare) : environment.Settles template (environment.registry.length + spare + 2) := by
  intro limit ample more args scope
  have calls := callsWithin_complete (files.fileFreeFrom _) settles more (environment.registry.length + 1) limit (by omega)
  exact calls.called .refl args scope {} ⟨List.nodup_nil, nofun⟩ (by simp [CallStack.names])

/-- A registered function is exported from one environment only, as one template. -/
theorem Environment.Exports.unique {function name name' : String} {exporter exporter' : Environment}
    (exported : environment.Exports function exporter name) (exported' : environment.Exports function exporter' name') :
    exporter = exporter' ∧ name = name' := by
  obtain ⟨owner, registered, given⟩ := exported
  obtain ⟨owner', registered', given'⟩ := exported'
  cases registered.symm.trans registered'
  exact ⟨Except.ok.inj (given.symm.trans given'), rfl⟩

/-- An exported template is registered. -/
theorem Environment.Exports.mem {function name : String} {exporter : Environment}
    (exported : environment.Exports function exporter name) : function ∈ environment.functions.map (·.1) := by
  obtain ⟨owner, registered, _⟩ := exported
  obtain ⟨entry, found, _⟩ := Option.map_eq_some_iff.mp registered
  have same : entry.1 = function := by simpa using List.find?_some found
  exact same ▸ List.mem_map_of_mem (List.mem_of_find?_eq_some found)

/-- Exported templates that settle one by one settle within one bound. -/
theorem exists_spare {used : String → Prop}
    (each : ∀ function, used function → ∀ exporter name, environment.Exports function exporter name →
      ∃ bound, exporter.Settles name bound) :
    ∃ spare, ∀ function, used function → ∀ exporter name, environment.Exports function exporter name →
      exporter.Settles name spare := by
  -- There are only finitely many registered functions.
  have listed : ∀ functions : List String, ∃ spare, ∀ function ∈ functions, used function → ∀ exporter name,
      environment.Exports function exporter name → exporter.Settles name spare := by
    intro functions
    induction functions with
    | nil => exact ⟨0, nofun⟩
    | cons first rest others =>
      obtain ⟨spare, settles⟩ := others
      by_cases exported : used first ∧ ∃ exporter name, environment.Exports first exporter name
      · obtain ⟨needed, exporter, name, exports⟩ := exported
        obtain ⟨bound, settled⟩ := each first needed exporter name exports
        refine ⟨max spare bound, fun function inside needed exporter' name' exports' => ?_⟩
        rcases List.mem_cons.mp inside with rfl | inside
        · obtain ⟨rfl, rfl⟩ := exports.unique exports'
          exact settled.of_le (le_max_right spare bound)
        · exact (settles function inside needed exporter' name' exports').of_le (le_max_left spare bound)
      · refine ⟨spare, fun function inside needed exporter name exports => ?_⟩
        rcases List.mem_cons.mp inside with rfl | inside
        · exact absurd ⟨needed, exporter, name, exports⟩ exported
        · exact settles function inside needed exporter name exports
  obtain ⟨spare, settles⟩ := listed (environment.functions.map (·.1))
  exact ⟨spare, fun function needed exporter name exports => settles function exports.mem needed exporter name exports⟩

/-- Where no exported template leads back to itself, every exported template settles. -/
theorem exists_settles (files : ∀ function exporter name, environment.Exports function exporter name → exporter.FileFree)
    (acyclic : ∀ function, ¬ Relation.TransGen environment.Leads function function) :
    ∀ function exporter name, environment.Exports function exporter name → ∃ bound, exporter.Settles name bound := by
  -- On finitely many functions, leading on without coming back cannot go on for ever.
  let onward : String → String → Prop := fun next function => Relation.TransGen environment.Leads function next
  have order : IsStrictOrder String onward :=
    { irrefl := acyclic, trans := fun _ _ _ later earlier => earlier.trans later }
  have finite : {function | function ∈ environment.functions.map (·.1)}.Finite := List.finite_toSet _
  have founded := Set.wellFoundedOn_iff.mp (finite.wellFoundedOn (r := onward))
  intro function
  induction function using founded.induction with
  | _ function settled =>
    intro exporter name exports
    have each : ∀ next, environment.Leads function next → ∀ deeper other, exporter.Exports next deeper other →
        ∃ bound, deeper.Settles other bound := by
      intro next leads deeper other exports'
      have registered := (exports.exports_iff next deeper other).mp exports'
      exact settled next ⟨.single leads, registered.mem, exports.mem⟩ deeper other registered
    obtain ⟨spare, settles⟩ := exists_spare each
    have bounded : exporter.Settles name (exporter.registry.length + spare + 2) :=
      settles_of_spare (files function exporter name exports) fun caller next reached used =>
        settles next ⟨exporter, name, caller, exports, reached, used⟩
    exact ⟨_, bounded⟩

/-- Evaluation comes to the same within all bounds that leave room for all templates and for the exported ones that are used. -/
theorem evaluateWithin_complete {name : String} (files : environment.FileFreeFrom (splitRerun name).1)
    (settles : ∀ caller function, Relation.ReflTransGen environment.Calls (splitRerun name).1 caller →
      environment.Uses caller function → ∀ exporter template, environment.Exports function exporter template →
        exporter.Settles template spare)
    {limit : Nat} (ample : environment.registry.length + spare + 2 ≤ limit) (more : Nat) (scope : Scope) {start : CallStack}
    (sound : start.Sound environment.registry) (picks : List Nat) :
    Evaluation.ending (evaluateWithin (limit + more) environment name scope) start picks =
        Evaluation.ending (evaluateWithin limit environment name scope) start picks ∧
      (Evaluation.ending (evaluateWithin limit environment name scope) start picks).result ≠ .error .unfinished := by
  have calls : CallsComplete environment (splitRerun name).1 (environment.registry.length + 1)
      (callsWithin limit environment) (callsWithin (limit + more) environment) :=
    callsWithin_complete files settles more _ _ (by omega)
  have whole : (completion environment.registry (environment.registry.length + 1)).Alike
      (evaluateWithin limit environment name scope) (evaluateWithin (limit + more) environment name scope) :=
    Congruence.alike_bind _ (calls.template name scope .refl) fun value => Congruence.alike_pure _ _
  exact (whole start sound (by omega)).ending_eq picks

/--
Evaluation ends.

Where no exported template leads back to itself, some bound on the nesting of calls lets every evaluation finish.
A template that is called by plain name or by alias while it runs is always reported.
-/
theorem evaluate_finishes {environment : Environment} (files : environment.FileFree)
    (exportedFiles : ∀ function exporter name, environment.Exports function exporter name → exporter.FileFree)
    (acyclic : ∀ function, ¬ Relation.TransGen environment.Leads function function) :
    (∃ bound, ∀ limit, bound ≤ limit → ∀ name scope start picks, start.Sound environment.registry →
      Evaluation.ending (evaluateWithin limit environment name scope) start picks =
          Evaluation.ending (evaluateWithin bound environment name scope) start picks ∧
        (Evaluation.ending (evaluateWithin bound environment name scope) start picks).result ≠ .error .unfinished) ∧
      ∀ limit name scope picks (start : CallStack), (splitRerun name).1 ∈ start.names →
        environment.registry.has (splitRerun name).1 = true →
          Evaluation.ending (evaluateWithin (limit + 1) environment name scope) start picks =
            ⟨.error (.loop (start.names.reverse ++ [(splitRerun name).1])), start, picks⟩ := by
  have each (function : String) (_ : True) := exists_settles exportedFiles acyclic function
  obtain ⟨spare, settles⟩ := exists_spare each
  constructor
  · refine ⟨environment.registry.length + spare + 2, fun limit ample name scope start picks sound => ?_⟩
    obtain ⟨more, rfl⟩ := Nat.exists_eq_add_of_le ample
    exact evaluateWithin_complete (files.fileFreeFrom _) (fun _ function _ _ => settles function trivial) le_rfl more scope
      sound picks
  · intro limit name scope picks start running known
    rw [SortedMap.has_eq_isSome_get?, Option.isSome_iff_exists] at known
    obtain ⟨template, defined⟩ := known
    have found : environment.lookup (splitRerun name).1 = .ok template := by
      rw [Environment.lookup, defined]
    rw [evaluateWithin, Evaluation.ending_bind, template_callsWithin_succ, ending_evalTemplate, found]
    simp only [if_pos running]

end Bounds

/-- The environment of a collection alone, its exported templates being the only registered functions. -/
def Collection.exporting (collection : Collection) : Environment :=
  -- No other collection is loaded.
  { collection.alone with functions := FunctionTable.registerExports [] collection }

/-- A collection without errors can be evaluated with its own exported templates. -/
theorem Collection.exporting_eq {collection : Collection} (sound : collection.errors.length = 0) :
    Environment.of collection {} {} (FunctionTable.registerExports [] collection) = .ok collection.exporting := by
  rw [Environment.of, List.eq_nil_of_length_eq_zero sound]
  rfl

/-- Templates that call no function by the name of the one that includes files include none. -/
theorem Environment.fileFree_of_callNames {environment : Environment}
    (others : ∀ call ∈ environment.callNames, call.2 ≠ "fromFile") : environment.FileFree :=
  fun _ _ holds => others _ holds.mem_callNames rfl

/-- Registering the exports of a collection adds templates that it exports, and nothing else. -/
theorem FunctionTable.exported_of_registerExports {table : FunctionTable} {root owner : Collection}
    {function template : String}
    (found : (table.registerExports root).get? function = some (.exported owner template)) :
    (∃ id, (function, id, template) ∈ root.exported ∧ owner = root.focus id) ∨
      table.get? function = some (.exported owner template) := by
  unfold registerExports at found
  -- The exports are registered one after the other, so the table changes.
  generalize root.exported = entries at found
  induction entries generalizing table with
  | nil => exact .inr found
  | cons entry rest later =>
    obtain ⟨full, id, name⟩ := entry
    rcases later found with ⟨id', inside, same⟩ | earlier
    · exact .inl ⟨id', List.mem_cons_of_mem _ inside, same⟩
    · by_cases named : function = full
      · subst named
        rw [get?_register_self] at earlier
        cases earlier
        exact .inl ⟨id, List.mem_cons_self, rfl⟩
      · rw [get?_register_of_ne _ _ named] at earlier
        exact .inr earlier

/-- What a collection of one file exports is run in the environment of that collection. -/
theorem Collection.eq_of_exports {collection : Collection} (sound : collection.errors.length = 0)
    (single : ∀ entry ∈ collection.exported, entry.2.1 = collection.id) {function template : String}
    {exporter : Environment} (exported : collection.exporting.Exports function exporter template) :
    exporter = collection.exporting ∧ ∃ id, (function, id, template) ∈ collection.exported := by
  obtain ⟨owner, registered, given⟩ := exported
  rcases FunctionTable.exported_of_registerExports registered with ⟨id, inside, rfl⟩ | none
  · have own : collection.focus id = collection := by
      rw [show id = collection.id from single _ inside]
      rfl
    rw [own] at given
    exact ⟨Except.ok.inj (given.symm.trans (exporting_eq sound)), id, inside⟩
  · cases none

/-- The template that is exported last is registered for the collection that it is exported from. -/
theorem Collection.get?_exporting {collection : Collection} {entries : List (String × String × String)}
    {function id template : String} (listed : collection.exported = entries ++ [(function, id, template)])
    (own : id = collection.id) :
    collection.exporting.functions.get? function = some (.exported collection template) := by
  subst own
  change FunctionTable.get? (FunctionTable.registerExports [] collection) function = _
  rw [FunctionTable.registerExports, listed, List.foldl_append]
  exact FunctionTable.get?_register_self _ function _

/-- A file with two exported templates, one of which calls the other, and with a template that calls itself. -/
def relay : Collection :=
  -- No exported template leads back to itself.
  .ofText ("> !# @namespace = g\n> !# @exports = outer, inner\n# outer(n)\n- $\x7bg.inner(n)\x7d\n\n" ++
    "# inner(n)\n- $\x7bn\x7d\n\n# circle\n- $\x7bcircle()\x7d")

/-- Evaluation ends where one exported template calls another, and a template that calls itself is reported. -/
theorem relay_finishes :
    Environment.of relay {} {} (FunctionTable.registerExports [] relay) = .ok relay.exporting ∧
      relay.exported = [("g.outer", "", "outer"), ("g.inner", "", "inner")] ∧
      relay.exporting.callNames = [("circle", "circle"), ("outer", "g.inner")] ∧
      relay.exporting.FileFree ∧
      (∀ function exporter name, relay.exporting.Exports function exporter name → exporter.FileFree) ∧
      (∀ function, ¬ Relation.TransGen relay.exporting.Leads function function) ∧
      (∃ bound, ∀ limit, bound ≤ limit → ∀ name scope start picks, start.Sound relay.exporting.registry →
        Evaluation.ending (evaluateWithin limit relay.exporting name scope) start picks =
            Evaluation.ending (evaluateWithin bound relay.exporting name scope) start picks ∧
          (Evaluation.ending (evaluateWithin bound relay.exporting name scope) start picks).result ≠ .error .unfinished) ∧
      Evaluation.ending (evaluateWithin 1 relay.exporting "circle" (.ofValue .null)) ⟨[⟨"circle", []⟩], true⟩ [] =
        ⟨.error (.loop ["circle", "circle"]), ⟨[⟨"circle", []⟩], true⟩, []⟩ := by
  obtain ⟨sound, names, entries⟩ : relay.errors.length = 0 ∧
      relay.exporting.callNames = [("circle", "circle"), ("outer", "g.inner")] ∧
      relay.exported = [("g.outer", "", "outer"), ("g.inner", "", "inner")] := by
    decide +kernel
  have own {function template : String} {exporter : Environment}
      (exported : relay.exporting.Exports function exporter template) :=
    Collection.eq_of_exports sound (by rw [entries]; decide +kernel) exported
  have files : relay.exporting.FileFree := Environment.fileFree_of_callNames (by rw [names]; decide)
  have exportedFiles : ∀ function exporter name, relay.exporting.Exports function exporter name → exporter.FileFree := by
    intro function exporter name exported
    rw [(own exported).1]
    exact files
  -- Nothing calls the outer template, and it uses only the inner one.
  have uncalled (caller : String) : ¬ relay.exporting.Calls caller "outer" := by
    rintro ⟨name, args, holds, may⟩
    have listed := holds.mem_callNames
    simp only [names, List.mem_cons, Prod.mk.injEq, List.not_mem_nil, or_false] at listed
    rcases listed with ⟨rfl, rfl⟩ | ⟨rfl, rfl⟩
    · exact absurd (show "outer" = (splitRerun "circle").1 from may) (by decide +kernel)
    · exact absurd (show "outer" = (splitRerun "g.inner").1 from may) (by decide +kernel)
  have leads (function next : String) (leads : relay.exporting.Leads function next) :
      function = "g.outer" ∧ next = "g.inner" := by
    obtain ⟨exporter, template, caller, exported, reached, -, unknown, args, holds⟩ := leads
    obtain ⟨rfl, id, entry⟩ := own exported
    have listed := holds.mem_callNames
    simp only [names, List.mem_cons, Prod.mk.injEq, List.not_mem_nil, or_false] at listed
    rcases listed with ⟨rfl, rfl⟩ | ⟨rfl, rfl⟩
    · exact absurd unknown (by decide +kernel)
    · refine ⟨?_, rfl⟩
      rcases Relation.ReflTransGen.cases_tail reached with same | ⟨before, _, calls⟩
      · simp only [entries, List.mem_cons, Prod.mk.injEq, List.not_mem_nil, or_false] at entry
        rcases entry with ⟨rfl, rfl, rfl⟩ | ⟨rfl, rfl, rfl⟩
        · rfl
        · exact absurd same (by decide +kernel)
      · exact absurd calls (uncalled before)
  have acyclic (function : String) : ¬ Relation.TransGen relay.exporting.Leads function function := by
    intro cycle
    obtain ⟨next, first, _⟩ := Relation.TransGen.head'_iff.mp cycle
    obtain ⟨before, _, last⟩ := Relation.TransGen.tail'_iff.mp cycle
    have outer := (leads _ _ first).1
    rw [outer] at last
    exact absurd (leads _ _ last).2 (by decide)
  obtain ⟨ends, reported⟩ := evaluate_finishes files exportedFiles acyclic
  exact ⟨Collection.exporting_eq sound, entries, names, files, exportedFiles, acyclic, ends,
    reported 0 "circle" (.ofValue .null) [] ⟨[⟨"circle", []⟩], true⟩ (by decide +kernel) (by decide +kernel)⟩

section Refusals

variable {environment : Environment} {calls : Calls Evaluation} {scope : Scope} {picks : List Nat}

/-- A text that is nothing but an expression is refused if the expression is. -/
theorem ending_evalText_refused {expression : Expression} {stack : CallStack}
    (refused : Evaluation.ending (expression.eval (hostOf environment calls) scope) stack picks =
      ⟨.error .unfinished, stack, picks⟩) (source : String) (site : Site) :
    Evaluation.ending (evalText environment calls [.expression ⟨source, expression⟩] scope site) stack picks =
      ⟨.error .unfinished, stack, picks⟩ := by
  simp only [evalText, TemplateText.single?, evalEmbedded, Evaluation.ending_bind, Evaluation.ending_attempt, refused,
    Evaluation.ending_fail]

/-- A template of one text is refused on the empty stack if the text is refused in its frame. -/
theorem ending_evalTemplate_refused {name : String} {template : Template} {text : TemplateText}
    (defined : environment.lookup name = .ok template) (unmarked : splitRerun name = (name, false))
    (body : template.body = .normal [text])
    (refused : Evaluation.ending (evalText environment calls text scope .text) (({} : CallStack).push name) picks =
      ⟨.error .unfinished, ({} : CallStack).push name, picks⟩) :
    Evaluation.ending (evalTemplate environment calls name scope) {} picks = ⟨.error .unfinished, {}, picks⟩ := by
  -- The text is taken without a pick.
  have picked : pickAmong [text] picks = (some text, picks) := rfl
  have ran : Evaluation.ending (evalBody environment calls scope template.body) (({} : CallStack).push name) picks =
      ⟨.error .unfinished, ({} : CallStack).push name, picks⟩ := by
    rw [body, evalBody, evalCandidates, Evaluation.ending_bind, Evaluation.ending_pickOne, picked]
    exact refused
  rw [ending_evalTemplate, unmarked, defined]
  simp only [CallStack.names, List.map_nil, List.not_mem_nil, if_false, Evaluation.ending_withFrame, ran]
  rfl

end Refusals

section SelfExport

variable {environment : Environment} {owner : Collection} {name function source : String} {template : Template}

/-- An exported template is refused within a bound if it is refused within the bound that is left to it. -/
theorem ending_exported_unfinished (defined : environment.lookup name = .ok template)
    (unmarked : (splitRerun name).1 = name)
    (given : Environment.of owner {} environment.files environment.functions = .ok environment) {limit : Nat}
    (refused : ∀ fewer < limit, ∀ scope picks,
      Evaluation.ending ((callsWithin fewer environment).template name scope) {} picks = ⟨.error .unfinished, {}, picks⟩)
    (scope : Scope) (stack : CallStack) (picks : List Nat) :
    Evaluation.ending ((callsWithin limit environment).exported owner name [] scope) stack picks =
      ⟨.error .unfinished, stack, picks⟩ := by
  cases limit with
  | zero => rfl
  | succ fewer =>
    have called : (callTemplate environment (callsWithin fewer environment) name [] scope : Evaluation Value) =
        (callsWithin fewer environment).template name scope := by
      simp only [callTemplate, unmarked, defined, Evaluating.ofExcept, pure_bind, bindArguments, List.isEmpty_nil, if_true]
    -- It runs in the same environment, on a stack of its own.
    change Evaluation.ending (callExported (callsWithin fewer) environment owner name [] scope) stack picks = _
    rw [callExported, given, Evaluating.ofExcept, pure_bind, called, Evaluation.ending_bind, Evaluation.ending_isolated,
      refused fewer (Nat.lt_succ_self fewer)]
    rfl

/-- A template that is nothing but a call of itself as an exported template does not finish within any bound. -/
theorem ending_template_unfinished (defined : environment.lookup name = .ok template)
    (unmarked : splitRerun name = (name, false)) (body : template.body = .normal [[.expression ⟨source, .call function []⟩]])
    (other : function ∉ templateFunctions) (lazy : function ≠ "if") (unknown : environment.hasTemplate function = false)
    (exported : environment.functions.get? function = some (.exported owner name))
    (given : Environment.of owner {} environment.files environment.functions = .ok environment) (limit : Nat) :
    ∀ scope picks, Evaluation.ending ((callsWithin limit environment).template name scope) {} picks =
      ⟨.error .unfinished, {}, picks⟩ := by
  induction limit using Nat.strongRecOn with
  | _ limit deeper =>
    intro scope picks
    cases limit with
    | zero => rfl
    | succ limit =>
      have inner (stack : CallStack) := ending_exported_unfinished defined (congrArg Prod.fst unmarked) given
        (fun fewer less => deeper fewer (Nat.lt_succ_of_lt less)) scope stack picks
      have ordinary : (function == "if") = false := by simpa using lazy
      have own : ownFunction? environment (callsWithin limit environment : Calls Evaluation) function = none := by
        rw [ownFunction?_of_not_mem _ _ other, unknown]
        rfl
      rw [template_callsWithin_succ]
      refine ending_evalTemplate_refused defined unmarked body (ending_evalText_refused ?_ source .text)
      -- The refusal of the inner call passes through the function unchanged.
      simp only [Expression.eval, Expression.evalItems, ordinary, Bool.false_and, Bool.false_eq_true, if_false, pure_bind,
        Host.call, hostOf, own, registeredFunction?, exported, Option.map_some, Evaluation.ending_bind,
        Evaluation.ending_outside, Evaluation.ending_attempt, inner, Evaluation.ending_fail]

end SelfExport

/-- What a template calls if it is nothing but a call without arguments. -/
def Template.onlyCall? (template : Template) : Option String :=
  -- There is one text, and nothing else in it.
  match template.body with
  | .normal [[.expression ⟨_, .call name []⟩]] => some name
  | _ => none

/-- A template that is nothing but a call has it as its only text. -/
theorem Template.body_of_onlyCall? {template : Template} {name : String} (only : template.onlyCall? = some name) :
    ∃ source, template.body = .normal [[.expression ⟨source, .call name []⟩]] := by
  unfold onlyCall? at only
  split at only
  · cases only
    exact ⟨_, ‹_›⟩
  · cases only

/-- Evaluating the template that is exported last never ends if it is nothing but a call of itself by its exported name. -/
theorem Collection.ending_exporting_unfinished {collection : Collection} (sound : collection.errors.length = 0)
    {entries : List (String × String × String)} {name function id : String}
    (listed : collection.exported = entries ++ [(function, id, name)]) (own : id = collection.id)
    (calls : (collection.exporting.registry.get? name).bind Template.onlyCall? = some function)
    (unmarked : splitRerun name = (name, false)) (other : function ∉ templateFunctions) (lazy : function ≠ "if")
    (unknown : collection.exporting.hasTemplate function = false) (limit : Nat) (scope : Scope) (picks : List Nat) :
    Evaluation.ending (evaluateWithin limit collection.exporting name scope) {} picks = ⟨.error .unfinished, {}, picks⟩ := by
  obtain ⟨template, defined, only⟩ := Option.bind_eq_some_iff.mp calls
  obtain ⟨source, body⟩ := Template.body_of_onlyCall? only
  have found : collection.exporting.lookup name = .ok template := by rw [Environment.lookup, defined]
  rw [evaluateWithin, Evaluation.ending_bind, ending_template_unfinished found unmarked body other lazy unknown
    (Collection.get?_exporting listed own) (Collection.exporting_eq sound)]

/-- A file with two exported templates that call themselves by their exported names, one of them without end. -/
def spinner : Collection :=
  -- The other one counts down.
  .ofText ("> !# @namespace = g\n> !# @exports = down, spin\n# down(n)\n- $\x7bif(n == 0, 'done', g.down(n - 1))\x7d\n\n" ++
    "# spin\n- $\x7bg.spin()\x7d")

/-- Exported templates that call themselves by their exported names are not reported: they give a value or never end. -/
theorem spinner_unfinished :
    Environment.of spinner {} {} (FunctionTable.registerExports [] spinner) = .ok spinner.exporting ∧
      spinner.exported = [("g.down", "", "down"), ("g.spin", "", "spin")] ∧
      spinner.exporting.callNames = [("down", "if"), ("down", "g.down"), ("spin", "g.spin")] ∧
      (∀ limit scope picks, Evaluation.ending (evaluateWithin limit spinner.exporting "spin" scope) {} picks =
        ⟨.error .unfinished, {}, picks⟩) ∧
      ((evaluate spinner.exporting "down" (.ofValue (.obj [("n", .int 1)]))).ending {} []).result.toOption.map Value.text =
        some "done" := by
  obtain ⟨sound, entries, own, calls, unknown, names, counted⟩ : spinner.errors.length = 0 ∧
      spinner.exported = [("g.down", "", "down")] ++ [("g.spin", "", "spin")] ∧ "" = spinner.id ∧
      (spinner.exporting.registry.get? "spin").bind Template.onlyCall? = some "g.spin" ∧
      spinner.exporting.hasTemplate "g.spin" = false ∧
      spinner.exporting.callNames = [("down", "if"), ("down", "g.down"), ("spin", "g.spin")] ∧
      ((evaluate spinner.exporting "down" (.ofValue (.obj [("n", .int 1)]))).ending {} []).result.toOption.map Value.text =
        some "done" := by
    decide +kernel
  have never := Collection.ending_exporting_unfinished sound entries own calls (by decide +kernel) (by decide) (by decide) unknown
  exact ⟨Collection.exporting_eq sound, entries, names, never, counted⟩

end Phrasebook
