import Phrasebook.Locale.Generator
import Phrasebook.Proofs.Collection.Loaded
import Phrasebook.Proofs.Evaluation.Tables
import Phrasebook.Proofs.Evaluation.Termination

/-! What a generator has loaded before shows in nothing but the table of registered functions. -/

namespace Phrasebook

/-- The functions that are registered when a collection is loaded. -/
def Collection.registered (collection : Collection) : FunctionTable :=
  -- The last one of a name counts.
  FunctionTable.registerExports [] collection

/-- A template of a single file that includes no files leads only to templates of that file. -/
theorem Collection.eq_of_reached_exporting {collection : Collection} (sound : collection.errors.length = 0)
    (single : ∀ entry ∈ collection.exported, entry.2.1 = collection.id)
    (others : ∀ call ∈ collection.exporting.callNames, call.2 ≠ "fromFile") {template : String}
    {reached : Environment × CallSite}
    (leads : Relation.ReflTransGen Environment.LeadsTo (collection.exporting, .template template) reached) :
    ∃ name, reached = (collection.exporting, .template name) := by
  induction leads with
  | refl => exact ⟨template, rfl⟩
  | tail _ step ih =>
    obtain ⟨caller, rfl⟩ := ih
    cases step with
    | template holds may => exact ⟨_, rfl⟩
    | file holds => exact absurd rfl (others _ (Environment.Holds.mem_callNames holds))
    | exported looks exports =>
      obtain ⟨rfl, _⟩ := eq_of_exports sound single exports
      exact ⟨_, rfl⟩

namespace FunctionTable

/-- Functions that are registered one after the other come before those that were there. -/
theorem get?_foldl_register {α : Type} (name : α → String) (function : α → RegisteredFunction) (key : String) :
    ∀ (entries : List α) (table : FunctionTable),
      (entries.foldl (fun table entry => table.register (name entry) (function entry)) table).get? key =
        (FunctionTable.get? (entries.foldl (fun table entry => table.register (name entry) (function entry)) []) key).or
          (table.get? key)
  | [], table => rfl
  | entry :: rest, table => by
    rw [List.foldl_cons, List.foldl_cons, get?_foldl_register name function key rest (table.register _ _),
      get?_foldl_register name function key rest (FunctionTable.register [] _ _), Option.or_assoc]
    congr 1
    by_cases same : key = name entry
    · rw [same, get?_register_self, get?_register_self]
      rfl
    · rw [get?_register_of_ne _ _ same, get?_register_of_ne _ _ same]
      rfl

/-- Loading a collection replaces the functions of the names that it registers, and no others. -/
theorem get?_registerExports (table : FunctionTable) (collection : Collection) (name : String) :
    (table.registerExports collection).get? name = (collection.registered.get? name).or (table.get? name) :=
  get?_foldl_register (fun entry : String × String × String => entry.1)
    (fun entry => .exported (collection.focus entry.2.1) entry.2.2) name collection.exported table

end FunctionTable

namespace Generator

/-- A call of a generator. -/
structure Call where
  /-- The name of the localized files. -/
  name : String
  /-- The template. -/
  template : String
  /-- The locale, unless it is the default one. -/
  locale : Option String
  /-- The data. -/
  scope : Scope

/-- A generator after some calls. -/
def after (generator : Generator) (history : List Call) : Generator :=
  -- Calls that fail count as well.
  history.foldl (fun generator call => (generator.generate call.name call.template call.locale call.scope).1) generator

/-- What a call comes to under some picks. -/
def answer (generator : Generator) (call : Call) (picks : List Nat) : Except LocaleError Value :=
  -- The evaluation starts on an empty stack.
  (generator.generate call.name call.template call.locale call.scope).2 >>= fun evaluation =>
    (evaluation.ending {} picks).result.mapError .template

/-- Whether a collection is the one that is loaded for an id. -/
def Loads (generator : Generator) (id : String) (collection : Collection) : Prop :=
  -- The text is found by the resolver.
  ∃ found, generator.resolver.resolve "" id = .ok found ∧
    (Collection.load generator.resolver found.content found.id).root = collection

/-- Only one collection is loaded for an id. -/
theorem Loads.unique {generator : Generator} {id : String} {collection₁ collection₂ : Collection}
    (loads₁ : generator.Loads id collection₁) (loads₂ : generator.Loads id collection₂) : collection₁ = collection₂ := by
  obtain ⟨found₁, given₁, rfl⟩ := loads₁
  obtain ⟨found₂, given₂, rfl⟩ := loads₂
  obtain rfl := Except.ok.inj (given₁.symm.trans given₂)
  rfl

/-- A collection is there, or its file is not found, or it is loaded and registers what it exports. -/
theorem collectionOf_cases (generator : Generator) (resource : ResourceId) :
    (∃ collection, (resource.id, collection) ∈ generator.cache ∧
      generator.collectionOf resource = (generator, .ok collection)) ∨
    (∃ error requests, generator.resolver.resolve "" resource.id = .error error ∧
      generator.collectionOf resource = ({ generator with requests := requests }, .error (.load error))) ∨
    ∃ collection requests, generator.Loads resource.id collection ∧
      generator.collectionOf resource =
        ({ generator with
            cache := (resource.id, collection) :: generator.cache
            functions := generator.functions.registerExports collection
            requests := requests }, .ok collection) := by
  unfold Generator.collectionOf
  cases kept : generator.cache.find? (·.1 == resource.id) with
  | some entry =>
    have same : entry.1 = resource.id := by simpa using List.find?_some kept
    exact .inl ⟨entry.2, same ▸ List.mem_of_find?_eq_some kept, rfl⟩
  | none =>
    refine .inr ?_
    cases given : generator.resolver.resolve "" resource.id with
    | error error => exact .inl ⟨error, _, rfl, rfl⟩
    | ok found => exact .inr ⟨_, _, ⟨found, given, rfl⟩, rfl⟩

/-- A generator that has loaded nothing loads the collection, if there is one. -/
theorem collectionOf_of_loads {generator : Generator} (fresh : generator.cache = []) {resource : ResourceId}
    {collection : Collection} (loads : generator.Loads resource.id collection) :
    ∃ requests, generator.collectionOf resource =
      ({ generator with
          cache := (resource.id, collection) :: generator.cache
          functions := generator.functions.registerExports collection
          requests := requests }, .ok collection) := by
  rcases generator.collectionOf_cases resource with ⟨_, inside, _⟩ | ⟨_, _, missing, _⟩ | ⟨own, requests, again, same⟩
  · rw [fresh] at inside
    cases inside
  · obtain ⟨found, given, _⟩ := loads
    cases missing.symm.trans given
  · obtain rfl := loads.unique again
    exact ⟨requests, same⟩

/-- What has become of a generator by loading some of its files. -/
structure DescendsFrom (later first : Generator) : Prop where
  /-- The default locale is the same. -/
  defaultLocale : later.defaultLocale = first.defaultLocale
  /-- Files come from the same place. -/
  resolver : later.resolver = first.resolver
  /-- The localized files are the same. -/
  resources : later.resources = first.resources
  /-- So are the files that can be included. -/
  files : later.files = first.files
  /-- What has been loaded is what would be loaded again. -/
  loads : ∀ entry ∈ later.cache, first.Loads entry.1 entry.2
  /-- A registered function is one of something loaded, or else has always been there. -/
  functions : ∀ name,
    (∃ entry ∈ later.cache, ∃ function, entry.2.registered.get? name = some function ∧
      later.functions.get? name = some function) ∨
    (∀ entry ∈ later.cache, entry.2.registered.get? name = none) ∧
      later.functions.get? name = first.functions.get? name

/-- A generator that has loaded nothing descends from itself. -/
theorem DescendsFrom.refl {generator : Generator} (fresh : generator.cache = []) : generator.DescendsFrom generator := by
  refine ⟨rfl, rfl, rfl, rfl, ?_, fun name => .inr ⟨?_, rfl⟩⟩ <;> rw [fresh] <;> exact nofun

section Descends

variable {later first : Generator} (descends : later.DescendsFrom first)

include descends

/-- Both load the same. -/
theorem DescendsFrom.loads_iff {id : String} {collection : Collection} :
    later.Loads id collection ↔ first.Loads id collection := by
  rw [Loads, Loads, descends.resolver]

/-- The same file is chosen. -/
theorem DescendsFrom.resolve_eq (name : String) (locale : Option String) :
    later.resolve name locale = first.resolve name locale := by
  rw [resolve, resolve, descends.defaultLocale, descends.resources]

/-- Getting a collection loads it unless it is there, and registers what it exports. -/
theorem DescendsFrom.collectionOf (resource : ResourceId) : ((later.collectionOf resource).1).DescendsFrom first := by
  rcases later.collectionOf_cases resource with
    ⟨_, _, same⟩ | ⟨_, _, _, same⟩ | ⟨collection, _, loads, same⟩ <;> rw [same]
  · exact descends
  · exact ⟨descends.defaultLocale, descends.resolver, descends.resources, descends.files, descends.loads, descends.functions⟩
  · refine ⟨descends.defaultLocale, descends.resolver, descends.resources, descends.files, ?_, fun name => ?_⟩
    · exact List.forall_mem_cons.mpr ⟨descends.loads_iff.mp loads, descends.loads⟩
    · dsimp only
      rw [FunctionTable.get?_registerExports]
      cases exported : collection.registered.get? name with
      | some function => exact .inl ⟨_, List.mem_cons_self, function, exported, rfl⟩
      | none =>
        -- What is not registered anew stays as it was.
        rcases descends.functions name with ⟨entry, inside, function, registered, same⟩ | ⟨unregistered, same⟩
        · exact .inl ⟨entry, List.mem_cons_of_mem _ inside, function, registered, same⟩
        · exact .inr ⟨List.forall_mem_cons.mpr ⟨exported, unregistered⟩, same⟩

/-- Generating a text loads at most the file that is chosen. -/
theorem DescendsFrom.generate (call : Call) :
    ((later.generate call.name call.template call.locale call.scope).1).DescendsFrom first := by
  unfold Generator.generate
  cases later.resolve call.name call.locale with
  | error error => exact descends
  | ok resource =>
    have loaded := descends.collectionOf resource
    dsimp only
    cases given : later.collectionOf resource with | mk now result =>
    rw [given] at loaded
    cases result <;> exact loaded

/-- Whatever is generated, a generator descends from what it was. -/
theorem DescendsFrom.after (history : List Call) : (later.after history).DescendsFrom first := by
  unfold Generator.after
  induction history generalizing later with
  | nil => exact descends
  | cons call rest ih =>
    rw [List.foldl_cons]
    exact ih (descends.generate call)

/-- A file that is not found now would not have been found before. -/
theorem DescendsFrom.collectionOf_error (fresh : first.cache = []) {resource : ResourceId} {now : Generator}
    {error : LocaleError} (given : later.collectionOf resource = (now, .error error)) :
    ∃ requests, first.collectionOf resource = ({ first with requests := requests }, .error error) := by
  rcases later.collectionOf_cases resource with ⟨_, _, same⟩ | ⟨fault, requests, missing, same⟩ | ⟨_, _, _, same⟩
  · cases (Prod.mk.inj (same.symm.trans given)).2
  · obtain ⟨rfl, rfl⟩ := Prod.mk.inj (same.symm.trans given) |>.imp id Except.error.inj
    rw [descends.resolver] at missing
    rcases first.collectionOf_cases resource with ⟨_, inside, _⟩ | ⟨fault', requests', missing', same'⟩ | ⟨_, _, ⟨_, found, _⟩, _⟩
    · rw [fresh] at inside
      cases inside
    · obtain rfl := Except.error.inj (missing.symm.trans missing')
      exact ⟨requests', same'⟩
    · cases missing.symm.trans found
  · cases (Prod.mk.inj (same.symm.trans given)).2

/-- A collection that is found is what would be loaded, and is all that may have been loaded for it. -/
theorem DescendsFrom.collectionOf_ok {resource : ResourceId} {now : Generator} {collection : Collection}
    (given : later.collectionOf resource = (now, .ok collection)) :
    first.Loads resource.id collection ∧ ∀ entry, entry ∈ now.cache ↔ entry = (resource.id, collection) ∨ entry ∈ later.cache := by
  rcases later.collectionOf_cases resource with ⟨kept, inside, same⟩ | ⟨_, _, _, same⟩ | ⟨own, requests, loads, same⟩
  · obtain ⟨rfl, rfl⟩ := Prod.mk.inj (same.symm.trans given) |>.imp id Except.ok.inj
    exact ⟨descends.loads (resource.id, kept) inside, fun entry => ⟨.inr, fun either => either.elim (· ▸ inside) id⟩⟩
  · cases (Prod.mk.inj (same.symm.trans given)).2
  · obtain ⟨rfl, rfl⟩ := Prod.mk.inj (same.symm.trans given) |>.imp id Except.ok.inj
    exact ⟨descends.loads_iff.mp loads, fun entry => List.mem_cons⟩

end Descends

/-- Whether what has been loaded since registers nothing else than a call loads itself under a name that it can look up. -/
def Unaffected (first later : Generator) (call : Call) : Prop :=
  -- A call that fails before any template is evaluated is not affected.
  ∀ resource collection environment, first.resolve call.name call.locale = .ok resource →
    first.Loads resource.id collection →
      Environment.of collection {} first.files (first.functions.registerExports collection) = .ok environment →
        ∀ reached holder name,
          Relation.ReflTransGen Environment.LeadsTo (environment, .template (splitRerun call.template).1) (reached, holder) →
            reached.LooksUp holder name → ∀ entry ∈ later.cache, ∀ function, entry.2.registered.get? name = some function →
              ∃ own, collection.registered.get? name = some own ∧ own.SameAs function

/-- What can be looked up is the same after a collection is loaded into a later generator as into a first one. -/
theorem DescendsFrom.agreesFrom {first later now : Generator} (descends : now.DescendsFrom first) {call : Call}
    (unaffected : first.Unaffected later call) {resource : ResourceId} {collection : Collection} {environment : Environment}
    (chosen : first.resolve call.name call.locale = .ok resource) (loads : first.Loads resource.id collection)
    (kept : ∀ entry, entry ∈ now.cache ↔ entry = (resource.id, collection) ∨ entry ∈ later.cache)
    (opens : Environment.of collection {} first.files (first.functions.registerExports collection) = .ok environment) :
    Environment.AgreesFrom (environment, .template (splitRerun call.template).1) now.functions := by
  intro reached holder name leads looks
  rw [Environment.functions_eq_of_reached leads, Environment.functions_of opens, FunctionTable.get?_registerExports]
  rcases descends.functions name with ⟨entry, inside, function, registered, found⟩ | ⟨unregistered, found⟩ <;> rw [found]
  · -- A function that has been loaded since is the one of the collection.
    have own : ∃ own, collection.registered.get? name = some own ∧ own.SameAs function := by
      rcases (kept entry).mp inside with rfl | before
      · exact ⟨function, registered, function.sameAs_refl⟩
      · exact unaffected resource collection environment chosen loads opens reached holder name leads looks entry before
          function registered
    obtain ⟨own, registers, same⟩ := own
    rw [registers]
    exact .some same
  · rw [unregistered (resource.id, collection) ((kept _).mpr (.inl rfl)), Option.none_or]
    cases first.functions.get? name with
    | none => exact .none
    | some function => exact .some function.sameAs_refl

/-- A call for which no file is found is answered with that error. -/
theorem answer_of_unresolved {generator : Generator} {call : Call} {error : LocaleError}
    (failed : generator.resolve call.name call.locale = .error error) {picks : List Nat} :
    generator.answer call picks = .error error := by
  delta answer generate
  rw [failed]
  rfl

/-- A call for which a file is found is answered by the collection of the file, if it has one. -/
theorem answer_of_resolved {generator now : Generator} {call : Call} {resource : ResourceId}
    {result : Except LocaleError Collection} (chosen : generator.resolve call.name call.locale = .ok resource)
    (given : generator.collectionOf resource = (now, result)) {picks : List Nat} :
    generator.answer call picks = result >>= fun collection =>
      match Environment.of collection {} now.files now.functions with
      | .error error => .error (.template error)
      | .ok environment => (Evaluation.ending (evaluate environment call.template call.scope) {} picks).result.mapError .template := by
  delta answer generate
  rw [chosen]
  dsimp only
  rw [given]
  cases result with
  | error error => rfl
  | ok collection =>
    dsimp only [bind, Except.bind]
    cases Environment.of collection {} now.files now.functions <;> rfl

/--
What a generator has loaded before shows in an answer only through functions that are looked up.

A call comes to the same after any history, if what the history has loaded registers nothing under a name that the call
can look up, apart from functions that the call registers itself.
-/
theorem answer_after {generator : Generator} (fresh : generator.cache = []) (history : List Call) (call : Call)
    (unaffected : generator.Unaffected (generator.after history) call) (picks : List Nat) :
    (generator.after history).answer call picks = generator.answer call picks := by
  have descends := (DescendsFrom.refl fresh).after history
  have resolved := descends.resolve_eq call.name call.locale
  cases chosen : generator.resolve call.name call.locale with
  | error error => rw [answer_of_unresolved (resolved.trans chosen), answer_of_unresolved chosen]
  | ok resource =>
    have onward := descends.collectionOf resource
    obtain ⟨⟨now, result⟩, given⟩ : ∃ loaded, (generator.after history).collectionOf resource = loaded := ⟨_, rfl⟩
    rw [given] at onward
    rw [answer_of_resolved (resolved.trans chosen) given]
    cases result with
    | error error =>
      obtain ⟨requests, same⟩ := descends.collectionOf_error fresh given
      rw [answer_of_resolved chosen same]
      rfl
    | ok collection =>
      obtain ⟨loads, kept⟩ := descends.collectionOf_ok given
      obtain ⟨requests, same⟩ := collectionOf_of_loads fresh loads
      rw [answer_of_resolved chosen same]
      dsimp only [bind, Except.bind]
      rw [onward.files, Environment.of_eq_map collection {} generator.files (generator.functions.registerExports collection)]
      cases opens : Environment.of collection {} generator.files (generator.functions.registerExports collection) with
      | error error => rfl
      | ok environment =>
        have agrees := onward.agreesFrom unaffected chosen loads kept opens
        have alike := ending_evaluate_withFunctions agrees call.scope {} picks
        exact congrArg (fun outcome => outcome.result.mapError LocaleError.template) alike.symm

/-- A localized file that greets by an exported template. -/
def greetingFile (space greeting : String) : String :=
  -- The template is called by its full name.
  "> !# @namespace = " ++ space ++ "\n> !# @exports = hello\n# hello\n- " ++ greeting ++
    "\n\n# t\n- $\x7b" ++ space ++ ".hello()\x7d"

/-- A generator that greets in English and in French. -/
def greeter (english french : String) : Generator where
  -- The namespaces are given.
  defaultLocale := ""
  resolver := .table [("greet.en.lg", greetingFile english "Hello"), ("greet.fr.lg", greetingFile french "Bonjour")]
  resources := [ResourceId.parse "greet.en.lg", ResourceId.parse "greet.fr.lg"]

/-- A call of the greeting in some locale. -/
def Call.greet (locale : String) : Call :=
  -- No data are needed.
  ⟨"greet", "t", some locale, .ofValue .null⟩

/-- The file that is loaded for the greeting in English. -/
def greetingEnglish : Collection :=
  (Collection.load (greeter "en" "fr").resolver (greetingFile "en" "Hello") "greet.en.lg").root

/-- The file that is loaded for the greeting in French. -/
def greetingFrench : Collection :=
  (Collection.load (greeter "en" "fr").resolver (greetingFile "fr" "Bonjour") "greet.fr.lg").root

/-- A greeting in English can look up nothing that is loaded for one in French. -/
theorem greeter_unaffected :
    (greeter "en" "fr").Unaffected ((greeter "en" "fr").after [.greet "en", .greet "fr"]) (.greet "en") := by
  intro resource collection environment chosen loads opens reached holder name leads looks entry inside function registered
  -- The environment is the one of the file that is chosen.
  have target : ((greeter "en" "fr").resolve "greet" (some "en")).toOption.map (·.id) = some "greet.en.lg" := by
    decide +kernel
  rw [show (greeter "en" "fr").resolve "greet" (some "en") = .ok resource from chosen] at target
  have english : (greeter "en" "fr").Loads "greet.en.lg" greetingEnglish := ⟨_, rfl, rfl⟩
  have french : (greeter "en" "fr").Loads "greet.fr.lg" greetingFrench := ⟨_, rfl, rfl⟩
  rw [show resource.id = "greet.en.lg" from Option.some.inj target] at loads
  obtain rfl := loads.unique english
  have sound : greetingEnglish.errors.length = 0 := by decide +kernel
  obtain rfl := Except.ok.inj (opens.symm.trans (Collection.exporting_eq sound))
  -- The only name that it can look up is the one of its own greeting.
  have names : greetingEnglish.exporting.callNames = [("t", "en.hello")] := by decide +kernel
  have others : ∀ call ∈ greetingEnglish.exporting.callNames, call.2 ≠ "fromFile" := by simp [names]
  obtain ⟨caller, same⟩ := Collection.eq_of_reached_exporting sound (by decide +kernel) others leads
  obtain ⟨rfl, rfl⟩ := Prod.mk.inj same
  obtain ⟨_, _, args, holds⟩ := looks
  have called := Environment.Holds.mem_callNames holds
  rw [names, List.mem_singleton] at called
  obtain ⟨rfl, rfl⟩ := Prod.mk.inj called
  -- Both files have been loaded, and the one in French registers another name.
  have ids : ((greeter "en" "fr").after [.greet "en", .greet "fr"]).cache.map (·.1) = ["greet.fr.lg", "greet.en.lg"] := by
    decide +kernel
  have listed : entry.1 ∈ ((greeter "en" "fr").after [.greet "en", .greet "fr"]).cache.map (·.1) := List.mem_map_of_mem inside
  have kept := ((DescendsFrom.refl rfl).after [.greet "en", .greet "fr"]).loads entry inside
  obtain ⟨id, other⟩ := entry
  simp only [ids, List.mem_cons, List.not_mem_nil, or_false] at listed
  rcases listed with rfl | rfl
  · obtain rfl := kept.unique french
    have unregistered : (greetingFrench.registered.get? "en.hello").isNone = true := by decide +kernel
    rw [registered] at unregistered
    cases unregistered
  · obtain rfl := kept.unique english
    exact ⟨function, registered, function.sameAs_refl⟩

/-- The greeting in English is the same after one in French that is exported to another namespace. -/
theorem greeter_answer_after :
    (greeter "en" "fr").cache = [] ∧
      (greeter "en" "fr").Unaffected ((greeter "en" "fr").after [.greet "en", .greet "fr"]) (.greet "en") ∧
      ((greeter "en" "fr").after [.greet "en", .greet "fr"]).functions.map (·.1) = ["fr.hello", "en.hello"] ∧
      ((greeter "en" "fr").answer (.greet "en") []).toOption.map Value.text = some "Hello" ∧
      ((greeter "en" "fr").after [.greet "en", .greet "fr"]).answer (.greet "en") [] =
        (greeter "en" "fr").answer (.greet "en") [] :=
  ⟨rfl, greeter_unaffected, by decide +kernel, by decide +kernel,
    answer_after rfl [.greet "en", .greet "fr"] (.greet "en") greeter_unaffected []⟩

/-- A greeting in English becomes one in French, if the same is done in French and exported under the same name. -/
theorem greeter_answer_changes :
    (greeter "g" "g").cache = [] ∧ (greeter "g" "g").functions = [] ∧
      ((greeter "g" "g").answer (.greet "en") []).toOption.map Value.text = some "Hello" ∧
      (((greeter "g" "g").after [.greet "en", .greet "fr"]).answer (.greet "en") []).toOption.map Value.text =
        some "Bonjour" ∧
      ((greeter "g" "g").after [.greet "en", .greet "fr"]).answer (.greet "en") [] ≠
        (greeter "g" "g").answer (.greet "en") [] := by
  obtain ⟨before, later⟩ : ((greeter "g" "g").answer (.greet "en") []).toOption.map Value.text = some "Hello" ∧
      (((greeter "g" "g").after [.greet "en", .greet "fr"]).answer (.greet "en") []).toOption.map Value.text =
        some "Bonjour" := by
    decide +kernel
  refine ⟨rfl, rfl, before, later, fun same => ?_⟩
  rw [same] at later
  exact absurd (before.symm.trans later) (by decide)

end Generator

end Phrasebook
