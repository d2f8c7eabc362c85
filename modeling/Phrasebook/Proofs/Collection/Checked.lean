import Phrasebook.Proofs.Collection.WellFormed
import Phrasebook.Proofs.Evaluation.Counts

/-! What is checked before anything is evaluated keeps evaluation and expansion from failing. -/

namespace Phrasebook

/-- Whether a call through the function that takes a template's name, marked or not, tells the name by its form. -/
def Expression.tellsName (node : Expression) : Bool :=
  -- Expansion takes both kinds of calls for the same.
  match node with
  | .call name args => (splitRerun name).1 != "template" || namesLiterally args
  | _ => true

/-- Whether a call with arguments that leads to a template of one registry leads to one of another with as many parameters. -/
def Expression.CountsAlike (registry view : Registry) (node : Expression) : Prop :=
  -- Calls without arguments go anywhere.
  match node with
  | .call name args => 0 < passedCount name args → ∀ target ∈ callTarget? name args, ∀ callee ∈ registry.get? target,
      ∃ seen ∈ view.get? target, seen.parameters.length = callee.parameters.length
  | _ => True

instance (registry view : Registry) : DecidablePred (Expression.CountsAlike registry view)
  | .call _ _ => inferInstanceAs (Decidable (_ → ∀ _ ∈ _, ∀ _ ∈ _, ∃ _ ∈ _, _))
  | .literal _ | .variable _ | .member _ _ | .index _ _ | .array _ | .object _ | .unary _ _ | .binary _ _ _ => .isTrue trivial

/-- A call without a fault passes its template no arguments, or one for each parameter. -/
theorem count_of_callFault?_eq_none {registry : Registry} {name target : String} {args : List Expression} {template : Template}
    (fits : callFault? registry name args = none) (told : callTarget? name args = some target)
    (defined : registry.get? target = some template) :
    passedCount name args = 0 ∨ passedCount name args = template.parameters.length := by
  have counted (count : Nat) (none : argumentFault? template count = none) : count = 0 ∨ count = template.parameters.length := by
    simpa [argumentFault?, or_iff_not_imp_left] using none
  unfold callFault? at fits
  unfold callTarget? at told
  by_cases function : (splitRerun name).1 = "template"
  · simp only [function, beq_self_eq_true, if_true] at fits told
    split at told
    · cases told
      simp only [defined] at fits
      simpa [passedCount, function] using counted _ fits
    · cases told
  · have other : ((splitRerun name).1 == "template") = false := by simpa using function
    simp only [other, Bool.false_eq_true, if_false] at fits told
    cases told
    rw [defined] at fits
    simpa [passedCount, function] using counted _ fits

namespace Collection

variable {collection : Collection}

/-- The templates of a collection without errors know which file they come from. -/
theorem IsLoaded.source_eq (loaded : collection.IsLoaded) (sound : collection.errors = []) {id : String}
    (leads : collection.Leads collection.id id) {template : Template} (defined : template ∈ (collection.fileOf id).templates) :
    template.source = id := by
  have found := file?_of_mem_templates defined
  have named : (collection.fileOf id).id = id := by simpa using List.find?_some found
  rw [(loaded.isOfText found).templates] at defined
  rw [TemplateFile.source_of_isErrorFree (loaded.isErrorFree sound leads found) defined, named]

end Collection

/-- **The check of calls is sound.** In a collection without errors, whose templates use neither files nor registered functions
    nor computed names of templates, no evaluation and no expansion fails for the number of arguments of a call: provided that
    calls with arguments lead to templates with as many parameters as in the file that they stand in, and that no template which
    is named like the function is called with an exclamation mark. -/
theorem evaluate_expand_ne_argumentCount {collection : Collection} (loaded : collection.IsLoaded) {options : Options}
    {files : FileTree} {functions : FunctionTable} {environment : Environment}
    (given : Environment.of collection options files functions = .ok environment)
    (told : ∀ entry ∈ environment.registry, ∀ embedded ∈ entry.2.expressions, ∀ node ∈ embedded.expression.nodes,
      environment.Traces node ∧ node.tellsName = true)
    (unshadowed : environment.registry.has "template" = true → ∀ entry ∈ environment.registry,
      ∀ embedded ∈ entry.2.expressions, ∀ node ∈ embedded.expression.nodes, node.rerunsTemplate = false)
    (seen : ∀ entry ∈ environment.registry, ∀ embedded ∈ entry.2.expressions, ∀ node ∈ embedded.expression.nodes,
      node.CountsAlike environment.registry (collection.viewFrom entry.2.source).registry)
    (limit : Nat) (name : String) (scope : Scope) (stack : CallStack) (picks : List Nat) (template : String) (expected got : Nat) :
    (Evaluation.ending (evaluateWithin limit environment name scope) stack picks).result ≠
        .error (.argumentCount template expected got) ∧
      (Evaluation.ending (expandWithin limit environment name scope) stack picks).result ≠
        .error (.argumentCount template expected got) := by
  obtain ⟨sound, registry⟩ := Environment.of_eq_ok given
  -- Every template that can be called comes from a file that was read and checked.
  have origin {caller : String} {template : Template} (inside : (caller, template) ∈ environment.registry) :
      collection.Leads collection.id template.source ∧ template ∈ (collection.fileOf template.source).templates := by
    rw [registry] at inside
    obtain ⟨id, _, leads, defined, _⟩ := Collection.exists_of_mem_registry inside
    rw [loaded.source_eq sound leads defined]
    exact ⟨leads, defined⟩
  refine ne_argumentCount_of_countsFit ⟨?_, ?_, ?_, ?_, ?_⟩ limit name scope stack picks template expected got
  · rintro caller name args ⟨template, found, embedded, among, node⟩ target callee named defined
    have inside := SortedMap.mem_of_get? found
    obtain ⟨leads, listed⟩ := origin inside
    rcases Nat.eq_zero_or_pos (passedCount name args) with none | passed
    · exact .inl none
    · obtain ⟨viewed, here, same⟩ := seen _ inside embedded among _ node passed target named callee defined
      rw [← same]
      exact count_of_callFault?_eq_none (loaded.callFault?_eq_none sound leads listed among node) named here
  · rintro caller name args ⟨template, found, embedded, among, node⟩
    exact (told _ (SortedMap.mem_of_get? found) embedded among _ node).1.1
  · rintro caller name args ⟨template, found, embedded, among, node⟩ function
    have literal := (told _ (SortedMap.mem_of_get? found) embedded among _ node).2
    simpa [Expression.tellsName, function] using literal
  · rintro caller name target rest ⟨template, found, embedded, among, node⟩ function
    obtain ⟨leads, listed⟩ := origin (SortedMap.mem_of_get? found)
    exact loaded.splitRerun_of_call sound leads listed among node function
  · rintro has caller args ⟨template, found, embedded, among, node⟩
    have unmarked := unshadowed has _ (SortedMap.mem_of_get? found) embedded among _ node
    cases unmarked

/-- A file that calls templates of its own, of an imported file, and of one that is imported by an alias. -/
def brochure : Collection :=
  -- The greeting of the imported file is not the one that is called.
  (Collection.load (.table [("common.lg", "# greet(x)\n- Hi $\x7bx\x7d\n\n# bow\n- $\x7bgreet()\x7d"), ("parts.lg", "# item(a)\n- * $\x7ba\x7d")])
    ("[common](common.lg)\n[parts](parts.lg) as parts\n# greet(a, b)\n- $\x7ba\x7d and $\x7bb\x7d\n\n" ++
      "# page\n- $\x7bparts.item('x')\x7d $\x7btemplate('greet', 1, 2)\x7d $\x7bbow()\x7d") "root.lg").root

/-- All calls in the brochure pass the right number of arguments. -/
theorem brochure_ne_argumentCount :
    brochure.IsLoaded ∧ Environment.of brochure {} {} [] = .ok brochure.alone ∧
      (∀ entry ∈ brochure.alone.registry, ∀ embedded ∈ entry.2.expressions, ∀ node ∈ embedded.expression.nodes,
        brochure.alone.Traces node ∧ node.tellsName = true) ∧
      brochure.alone.registry.has "template" = false ∧
      (∀ entry ∈ brochure.alone.registry, ∀ embedded ∈ entry.2.expressions, ∀ node ∈ embedded.expression.nodes,
        node.CountsAlike brochure.alone.registry (brochure.viewFrom entry.2.source).registry) ∧
      ∀ limit scope stack picks template expected got,
        (Evaluation.ending (evaluateWithin limit brochure.alone "page" scope) stack picks).result ≠
            .error (.argumentCount template expected got) ∧
          (Evaluation.ending (expandWithin limit brochure.alone "page" scope) stack picks).result ≠
            .error (.argumentCount template expected got) := by
  have loaded : brochure.IsLoaded := ⟨_, _, _, rfl⟩
  obtain ⟨sound, told, plain, seen⟩ : brochure.errors.length = 0 ∧
      (∀ entry ∈ brochure.alone.registry, ∀ embedded ∈ entry.2.expressions,
        ∀ node ∈ embedded.expression.nodes, brochure.alone.Traces node ∧ node.tellsName = true) ∧
      brochure.alone.registry.has "template" = false ∧
      ∀ entry ∈ brochure.alone.registry, ∀ embedded ∈ entry.2.expressions, ∀ node ∈ embedded.expression.nodes,
        node.CountsAlike brochure.alone.registry (brochure.viewFrom entry.2.source).registry := by
    decide +kernel
  refine ⟨loaded, Collection.alone_eq sound, told, plain, seen, fun limit scope stack picks template expected got => ?_⟩
  exact evaluate_expand_ne_argumentCount loaded (Collection.alone_eq sound) told (fun shadowed => by simp [plain] at shadowed) seen
    limit "page" scope stack picks template expected got

/-- What a result tells of a wrong number of arguments: the template, the number of its parameters, and what was passed. -/
def argumentCount? {α : Type} : Except TemplateError α → Option (String × Nat × Nat)
  -- Other errors tell nothing of the kind.
  | .error (.argumentCount template expected got) => some (template, expected, got)
  | _ => none

/-- A file that replaces a template of an imported file, where it is called with other arguments. -/
def replacing : Collection :=
  -- Each file by itself passes the check.
  (Collection.load (.table [("common.lg", "# greet(x)\n- hi $\x7bx\x7d\n\n# use\n- $\x7bgreet(1)\x7d")])
    "[common](common.lg)\n# greet(a, b)\n- $\x7ba\x7d and $\x7bb\x7d" "root.lg").root

/-- An error about the number of arguments that is told by its parts is that error. -/
theorem eq_argumentCount_of_parts {α : Type} {result : Except TemplateError α} {template : String} {expected got : Nat}
    (parts : argumentCount? result = some (template, expected, got)) : result = .error (.argumentCount template expected got) := by
  unfold argumentCount? at parts
  split at parts
  · cases parts
    rfl
  · cases parts

/-- A call that was checked against the template of its own file can fail for the number of its arguments. -/
theorem replacing_argumentCount :
    replacing.IsLoaded ∧ Environment.of replacing {} {} [] = .ok replacing.alone ∧
      (∀ entry ∈ replacing.alone.registry, ∀ embedded ∈ entry.2.expressions, ∀ node ∈ embedded.expression.nodes,
        replacing.alone.Traces node ∧ node.tellsName = true ∧ node.rerunsTemplate = false) ∧
      ((evaluate replacing.alone "use" (.ofValue .null)).ending {} []).result = .error (.argumentCount "greet" 2 1) ∧
      ((expand replacing.alone "use" (.ofValue .null)).ending expansionStack []).result = .error (.argumentCount "greet" 2 1) := by
  obtain ⟨sound, told, evaluated, expanded⟩ : replacing.errors.length = 0 ∧
      (∀ entry ∈ replacing.alone.registry, ∀ embedded ∈ entry.2.expressions, ∀ node ∈ embedded.expression.nodes,
        replacing.alone.Traces node ∧ node.tellsName = true ∧ node.rerunsTemplate = false) ∧
      argumentCount? ((evaluate replacing.alone "use" (.ofValue .null)).ending {} []).result = some ("greet", 2, 1) ∧
      argumentCount? ((expand replacing.alone "use" (.ofValue .null)).ending expansionStack []).result =
        some ("greet", 2, 1) := by
    decide +kernel
  exact ⟨⟨_, _, _, rfl⟩, Collection.alone_eq sound, told, eq_argumentCount_of_parts evaluated,
    eq_argumentCount_of_parts expanded⟩

end Phrasebook
