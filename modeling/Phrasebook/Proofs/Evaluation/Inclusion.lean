import Mathlib.Data.Set.Card
import Phrasebook.Proofs.Evaluation.Termination

/-! Evaluation ends where files are included, unless a text that a template reads leads back to itself. -/

namespace Phrasebook

/-- The texts of all files in a tree. -/
def FileTree.texts (tree : FileTree) : List TemplateText :=
  -- Not all bytes are text, and not every text is well formed.
  tree.nodes.filterMap fun (_, node) =>
    match node with
    | .file bytes => (String.fromUTF8? bytes).bind fun content => (TemplateText.parse content).toOption
    | .directory => none

/-- The text of the file at a path, if it can be read as one. -/
def FileTree.text? (tree : FileTree) (path : String) : Option TemplateText :=
  -- Why it cannot be is of no interest.
  (tree.read path).toOption.bind fun content => (TemplateText.parse content).toOption

/-- A text is that of a file if the file can be read and its content is well formed. -/
theorem FileTree.text?_eq_some_iff {tree : FileTree} {path : String} {text : TemplateText} :
    tree.text? path = some text ↔ ∃ content, tree.read path = .ok content ∧ TemplateText.parse content = .ok text := by
  rw [text?, Option.bind_eq_some_iff]
  constructor
  · intro ⟨content, found, parsed⟩
    exact ⟨content, eq_ok_of_toOption found, eq_ok_of_toOption parsed⟩
  · intro ⟨content, found, parsed⟩
    exact ⟨content, by rw [found]; rfl, by rw [parsed]; rfl⟩

/-- A file that stands at given names is one of the tree. -/
theorem FileTree.mem_nodes_of_node? {tree : FileTree} {names : List String} {bytes : ByteArray}
    (there : tree.node? names = some (.file bytes)) : (names, .file bytes) ∈ tree.nodes := by
  unfold node? at there
  split at there
  · cases there
  · obtain ⟨⟨names', node⟩, first, same⟩ := Option.map_eq_some_iff.mp there
    obtain rfl : names' = names := by simpa using List.find?_some first
    obtain rfl : node = .file bytes := same
    exact List.mem_of_find?_eq_some first

/-- A file that a path leads to is one of the tree. -/
theorem FileTree.mem_nodes_of_walk {tree : FileTree} {bytes : ByteArray} {found : List String} {segments : List String} :
    ∀ {names : List String}, tree.walk names segments = .ok (found, .file bytes) → (found, .file bytes) ∈ tree.nodes := by
  induction segments with
  | nil => exact fun walked => nomatch walked
  | cons segment rest onward =>
    intro names walked
    rw [walk] at walked
    split at walked
    · exact onward walked
    split at walked
    · exact onward walked
    split at walked
    · cases walked
    split at walked
    · cases walked
    · exact onward walked
    · rename_i there
      split at walked
      · cases walked
        exact mem_nodes_of_node? there
      · cases walked

/-- A text that a path leads to is the text of a file. -/
theorem FileTree.mem_texts_of_text? {tree : FileTree} {path : String} {text : TemplateText}
    (there : tree.text? path = some text) : text ∈ tree.texts := by
  obtain ⟨content, found, parsed⟩ := text?_eq_some_iff.mp there
  unfold read at found
  split at found
  · cases found
  · cases found
  · rename_i names bytes located
    split at found
    · rename_i decoded
      cases found
      have inside : (names, .file bytes) ∈ tree.nodes := by
        unfold locate at located
        split at located
        · cases located
        split at located
        · cases located
        split at located
        · cases located
        · exact mem_nodes_of_walk located
      refine List.mem_filterMap.mpr ⟨_, inside, ?_⟩
      simp only [decoded, Option.bind_some, parsed, Except.toOption]
    · cases found

namespace Environment

variable (environment : Environment)

/-- Whether expressions that are evaluated in a template of a file may include a text. -/
def Includes (source : String) (expressions : List Embedded) (text : TemplateText) : Prop :=
  -- The path is relative to the file of the template, wherever the expressions stand.
  ∃ embedded ∈ expressions, ∃ args, .call "fromFile" args ∈ embedded.expression.nodes ∧
    ∃ values path, List.Forall₂ Expression.CanBe args values ∧ includedFile values = .ok (path, false) ∧
      environment.files.text? (resolvePath source path) = some text

/-- Whether a text may include another one directly. -/
def Nests (source : String) (text next : TemplateText) : Prop :=
  -- It is evaluated in the template that reads it.
  environment.Includes source text.expressions next

/-- Whether a template may read a text, be it in other texts that it reads. -/
def Opens (template : Template) (text : TemplateText) : Prop :=
  -- What the templates read that it calls does not count.
  ∃ first, environment.Includes template.source template.expressions first ∧
    Relation.ReflTransGen (environment.Nests template.source) first text

/-- Whether an expression may be evaluated while a template is the innermost running one. -/
def RunsIn (template : Template) (embedded : Embedded) : Prop :=
  -- The texts that it reads have no frames of their own.
  embedded ∈ template.expressions ∨ ∃ text, environment.Opens template text ∧ embedded ∈ text.expressions

/-- Whether no registered function is called, neither in templates nor in the texts that they read. -/
def TableFree : Prop :=
  -- Templates and the functions that know them come first.
  ∀ name template, environment.registry.get? name = some template → ∀ embedded, environment.RunsIn template embedded →
    ∀ function args, .call function args ∈ embedded.expression.nodes →
      function ∈ templateFunctions ∨ environment.hasTemplate function = true ∨ environment.functions.get? function = none

/-- Whether no text leads back to itself in any template that reads it. -/
def Acyclic : Prop :=
  -- Templates that are called in between do not count, for they are refused while they run.
  ∀ name template, environment.registry.get? name = some template → ∀ text, environment.Opens template text →
    ¬ Relation.TransGen (environment.Nests template.source) text text

/-- How many texts a text may lead to. -/
noncomputable def depth (source : String) (text : TemplateText) : Nat :=
  -- Other texts may stand in between.
  Set.ncard {next | Relation.TransGen (environment.Nests source) text next}

/-- How many calls may nest from one frame to the next. -/
def span : Nat :=
  -- Texts that do not lead back to themselves are all different.
  environment.files.texts.length + 2

variable {environment} {source : String} {expressions : List Embedded} {text next : TemplateText}

/-- A text that is included is the text of a file. -/
theorem Includes.mem_texts (includes : environment.Includes source expressions text) : text ∈ environment.files.texts := by
  obtain ⟨_, _, _, _, _, _, _, _, found⟩ := includes
  exact FileTree.mem_texts_of_text? found

/-- What a text leads to are texts of files. -/
theorem mem_texts_of_transGen (leads : Relation.TransGen (environment.Nests source) text next) :
    next ∈ environment.files.texts := by
  obtain ⟨_, _, last⟩ := Relation.TransGen.tail'_iff.mp leads
  exact last.mem_texts

/-- A text leads to finitely many texts. -/
theorem finite_transGen (environment : Environment) (source : String) (text : TemplateText) :
    {next | Relation.TransGen (environment.Nests source) text next}.Finite :=
  (List.finite_toSet environment.files.texts).subset fun _ => mem_texts_of_transGen

/-- A text leads to no more texts than there are files. -/
theorem depth_le (environment : Environment) (source : String) (text : TemplateText) :
    environment.depth source text ≤ environment.files.texts.length := by
  classical
  calc environment.depth source text
      ≤ Set.ncard {next | next ∈ environment.files.texts} :=
        Set.ncard_le_ncard (fun _ => mem_texts_of_transGen) (List.finite_toSet _)
    _ = environment.files.texts.toFinset.card := by rw [← List.coe_toFinset, Set.ncard_coe_finset]
    _ ≤ environment.files.texts.length := List.toFinset_card_le _

/-- A text that does not lead back to itself leads to fewer texts than one that includes it. -/
theorem depth_lt (nests : environment.Nests source text next)
    (acyclic : ¬ Relation.TransGen (environment.Nests source) next next) :
    environment.depth source next < environment.depth source text := by
  refine Set.ncard_lt_ncard ?_ (finite_transGen environment source text)
  rw [Set.ssubset_iff_of_subset fun _ later => .head nests later]
  exact ⟨next, .single nests, acyclic⟩

/-- What a text includes its template reads as well. -/
theorem Opens.nests {template : Template} (opens : environment.Opens template text)
    (nests : environment.Nests template.source text next) : environment.Opens template next := by
  obtain ⟨first, included, onward⟩ := opens
  exact ⟨first, included, onward.tail nests⟩

end Environment

/-- In a running template, files are looked for in its directory. -/
theorem currentSource_of_names {environment : Environment} {stack : CallStack} {name : String} {template : Template}
    (current : stack.names.head? = some name) (defined : environment.registry.get? name = some template) :
    currentSource environment stack = template.source := by
  have innermost : stack.current? = some name := by rwa [CallStack.names, List.head?_map] at current
  rw [currentSource, innermost, Option.bind_some, defined]

section Inclusion

variable {environment : Environment} {names : List String} {name : String} {template : Template}
  {calls₁ calls₂ : Calls Evaluation}

/-- Expressions of a running template complete if the templates that they call and the texts that they include do. -/
theorem embeds_complete (current : names.head? = some name) (defined : environment.registry.get? name = some template)
    {expressions : List Embedded} {embedded : Embedded} (among : embedded ∈ expressions)
    (functions : ∀ function args, .call function args ∈ embedded.expression.nodes → function ∈ templateFunctions ∨
      environment.hasTemplate function = true ∨ environment.functions.get? function = none)
    (templates : ∀ callee scope, (completionOn environment.registry names).Alike (calls₁.template callee scope)
      (calls₂.template callee scope))
    (texts : ∀ text, environment.Includes template.source expressions text → ∀ scope,
      (completionOn environment.registry names).Alike (calls₁.text text scope) (calls₂.text text scope)) (scope : Scope) :
    (completionOn environment.registry names).EmbedsAlike environment environment calls₁ calls₂ scope scope embedded := by
  have handles : (completionOn environment.registry names).Handles (· ≠ .unfinished) := completionOn_handles
  have called (callee : String) (args : List Value) : (completionOn environment.registry names).Alike
      (callTemplate environment calls₁ callee args scope) (callTemplate environment calls₂ callee args scope) :=
    callee_alike handles environment (fun _ _ _ _ => by simp) fun _ bound _ _ => templates callee bound
  refine embedsAlike_of_eval handles rfl embedded ?_
  refine Expression.eval_alike _ (fun error => handles.raises error) embedded.expression (fun _ _ => rfl)
    fun function args node => ⟨fun lazy => isNone_own_if lazy rfl, fun values fit => ?_⟩
  refine hostOf_call_alike (fun _ => rfl) (fun _ _ => rfl) (fun _ _ _ => rfl) (fun error => handles.raises error) ?_ ?_ ?_ ?_
  · exact fun _ target rest _ => called target rest
  · -- The text is found from the file of the running template.
    rintro rfl
    have places : (completionOn environment.registry names).Related (fun stack₁ stack₂ =>
        currentSource environment stack₁ = currentSource environment stack₂ ∧
          currentSource environment stack₁ = template.source)
        (Evaluating.stack : Evaluation CallStack) Evaluating.stack := by
      intro start sound named picks
      have here := currentSource_of_names (named ▸ current) defined
      exact ⟨.ok start, .ok start, start, picks, rfl, rfl, .ok ⟨rfl, here⟩, finished_ok, .refl start⟩
    refine includeFile_alike handles rfl (Congruence.alike_pure _ ()) (· = template.source) places ?_
    rintro _ path content text rfl requested found parsed
    have there := FileTree.text?_eq_some_iff.mpr ⟨content, found, parsed⟩
    exact texts text ⟨embedded, among, args, node, values, path, fit, requested, there⟩ scope
  · exact fun _ _ => called function values
  · exact fun other unknown _ _ found _ => absurd found (not_registered (functions function args node) other unknown)

/-- Templates and the texts that they read complete within a bound that leaves room for all of them. -/
structure InclusionsComplete (environment : Environment) (limit : Nat) (calls₁ calls₂ : Calls Evaluation) : Prop where
  /-- Every template completes where there are few enough that do not run yet. -/
  template : ∀ room (names : List String), environment.registry.length < room + names.length →
    room * environment.span ≤ limit → ∀ callee scope,
      (completionOn environment.registry names).Alike (calls₁.template callee scope) (calls₂.template callee scope)
  /-- Every text that the innermost template reads completes if it leads to few enough others besides. -/
  text : ∀ room (names : List String), environment.registry.length < room + names.length →
    ∀ name template, names.head? = some name → environment.registry.get? name = some template →
      ∀ text, environment.Opens template text →
        room * environment.span + environment.depth template.source text < limit → ∀ scope,
          (completionOn environment.registry names).Alike (calls₁.text text scope) (calls₂.text text scope)

/-- Templates complete one level deeper than what they call and read. -/
theorem InclusionsComplete.evalTemplate {limit : Nat} (calls : InclusionsComplete environment limit calls₁ calls₂)
    (functions : environment.TableFree) {room : Nat} {names : List String}
    (roomy : environment.registry.length < room + 1 + names.length) (ample : (room + 1) * environment.span ≤ limit + 1)
    (callee : String) (scope : Scope) :
    (completionOn environment.registry names).Alike (Phrasebook.evalTemplate environment calls₁ callee scope)
      (Phrasebook.evalTemplate environment calls₂ callee scope) := by
  intro start sound named
  subst named
  apply completes_evalTemplate sound
  intro template found
  have defined := get?_of_lookup found
  have less : environment.registry.length < room + ((splitRerun callee).1 :: start.names).length := by
    rw [List.length_cons]
    omega
  rw [Nat.succ_mul, Environment.span] at ample
  apply evalBody_alike template.body fun candidates _ => completionOn_picks candidates
  intro embedded among
  refine embeds_complete rfl defined among (functions _ template defined embedded (.inl among)) ?_ ?_ scope
  · exact calls.template room _ less (by rw [Environment.span]; omega)
  · intro text included
    have shallow := environment.depth_le template.source text
    exact calls.text room _ less _ template rfl defined text ⟨text, included, .refl⟩ (by rw [Environment.span]; omega)

/-- Texts that do not lead back to themselves complete one level deeper than what they call and include. -/
theorem InclusionsComplete.evalText {limit : Nat} (calls : InclusionsComplete environment limit calls₁ calls₂)
    (functions : environment.TableFree) {room : Nat} (roomy : environment.registry.length < room + names.length)
    (current : names.head? = some name) (defined : environment.registry.get? name = some template)
    (acyclic : environment.Acyclic) {text : TemplateText} (opens : environment.Opens template text)
    (ample : room * environment.span + environment.depth template.source text < limit + 1) (scope : Scope) :
    (completionOn environment.registry names).Alike (Phrasebook.evalText environment calls₁ text scope .text)
      (Phrasebook.evalText environment calls₂ text scope .text) := by
  apply evalText_alike
  intro embedded among
  refine embeds_complete current defined among (functions _ template defined embedded (.inr ⟨text, opens, among⟩)) ?_ ?_ scope
  · exact calls.template room names roomy (by omega)
  · intro next nests
    have deeper := Environment.depth_lt nests (acyclic name template defined next (opens.nests nests))
    exact calls.text room names roomy name template current defined next (opens.nests nests) (by omega)

/-- Within every bound, what it leaves room for completes, and does so alike with more. -/
theorem callsWithin_inclusionsComplete (functions : environment.TableFree) (acyclic : environment.Acyclic) (limit more : Nat) :
    InclusionsComplete environment limit (callsWithin limit environment) (callsWithin (limit + more) environment) := by
  -- No stack is higher than the registry is long.
  have full {names : List String} (roomy : environment.registry.length < 0 + names.length) {first second : Evaluation Value} :
      (completionOn environment.registry names).Alike first second := by
    intro start sound named
    have height := sound.length_le
    rw [named] at height
    omega
  induction limit with
  | zero =>
    constructor
    · intro room names roomy ample callee scope
      have none : room = 0 := by
        rcases Nat.mul_eq_zero.mp (Nat.le_zero.mp ample) with none | none
        · exact none
        · exact absurd none (Nat.succ_ne_zero _)
      exact full (none ▸ roomy)
    · intro room names _ name template _ _ text _ ample
      exact absurd ample (Nat.not_lt_zero _)
  | succ limit calls =>
    rw [Nat.add_right_comm]
    constructor
    · intro room names roomy ample callee scope
      cases room with
      | zero => exact full roomy
      | succ room => exact calls.evalTemplate functions roomy ample callee scope
    · intro room names roomy name template current defined text opens ample scope
      exact calls.evalText functions roomy current defined acyclic opens ample scope

/--
Evaluation ends although templates include files.

Where no text that a template reads leads back to itself, some bound on the nesting of calls lets every evaluation finish,
however templates and texts call and include each other otherwise.
-/
theorem evaluate_finishes_of_inclusions (functions : environment.TableFree) (acyclic : environment.Acyclic) :
    ∃ bound, ∀ limit, bound ≤ limit → ∀ name scope start picks, start.Sound environment.registry →
      Evaluation.ending (evaluateWithin limit environment name scope) start picks =
          Evaluation.ending (evaluateWithin bound environment name scope) start picks ∧
        (Evaluation.ending (evaluateWithin bound environment name scope) start picks).result ≠ .error .unfinished := by
  refine ⟨(environment.registry.length + 1) * environment.span, fun limit ample name scope start picks sound => ?_⟩
  obtain ⟨more, rfl⟩ := Nat.exists_eq_add_of_le ample
  have calls := callsWithin_inclusionsComplete functions acyclic ((environment.registry.length + 1) * environment.span) more
  have template := calls.template _ start.names (by omega) le_rfl name scope
  have whole : Completes (· = ·) start (evaluateWithin _ environment name scope) (evaluateWithin _ environment name scope) :=
    Congruence.alike_bind _ template (fun value => Congruence.alike_pure _ (environment.applyLineBreaks value)) start sound rfl
  exact whole.ending_eq picks

end Inclusion

section Checks

variable {environment : Environment} {source : String} {expressions : List Embedded} {text : TemplateText}

/-- The texts that a call may include, told by its form. -/
def Environment.includable (environment : Environment) (source : String) :
    String × List Expression → List TemplateText
  -- A computed path can be that of any file.
  | ("fromFile", .literal (.str path) :: _) => (environment.files.text? (resolvePath source path)).toList
  | ("fromFile", _) => environment.files.texts
  | _ => []

/-- The file that is asked for is the one that comes first. -/
theorem path_of_includedFile {path asked : String} {rest : List Value} {bare : Bool}
    (requested : includedFile (.str path :: rest) = .ok (asked, bare)) : asked = path := by
  unfold includedFile at requested
  split at requested <;> simp_all

/-- A text that is included is one that some call may include. -/
theorem Environment.Includes.exists_includable (includes : environment.Includes source expressions text) :
    ∃ call ∈ callsOf expressions, text ∈ environment.includable source call := by
  have file := includes.mem_texts
  obtain ⟨embedded, among, args, node, values, path, fit, requested, found⟩ := includes
  refine ⟨("fromFile", args), mem_callsOf_iff.mpr ⟨embedded, among, node⟩, ?_⟩
  unfold includable
  split
  · -- A literal path is the one that is read.
    rename_i same
    cases same
    cases fit with
    | cons fits rest =>
      cases fits
      obtain rfl := path_of_includedFile requested
      simp only [found, Option.toList_some, List.mem_singleton]
  · exact file
  · simp_all

/-- No text leads back to itself if each has a higher rank than all that its calls may include. -/
theorem Environment.acyclic_of_rank (rank : TemplateText → Nat)
    (falls : ∀ entry ∈ environment.registry, ∀ text ∈ environment.files.texts, ∀ call ∈ callsOf text.expressions,
      ∀ next ∈ environment.includable entry.2.source call, rank next < rank text) : environment.Acyclic := by
  intro name template defined text _ cycle
  have known := SortedMap.mem_of_get? defined
  have lower {next : TemplateText} (leads : Relation.TransGen (environment.Nests template.source) text next) :
      rank next < rank text := by
    induction leads with
    | single nests =>
      obtain ⟨call, among, may⟩ := nests.exists_includable
      exact falls _ known _ (mem_texts_of_transGen cycle) call among _ may
    | tail earlier nests below =>
      obtain ⟨call, among, may⟩ := nests.exists_includable
      exact (falls _ known _ (mem_texts_of_transGen earlier) call among _ may).trans below
  exact Nat.lt_irrefl _ (lower cycle)

/-- No registered function is called if none is in any template or file. -/
theorem Environment.tableFree_of_callsOf
    (known : ∀ expressions ∈ environment.registry.map (·.2.expressions) ++ environment.files.texts.map (·.expressions),
      ∀ call ∈ callsOf expressions, call.1 ∈ templateFunctions ∨ environment.hasTemplate call.1 = true ∨
        environment.functions.get? call.1 = none) : environment.TableFree := by
  rintro name template defined embedded (among | ⟨text, ⟨first, included, onward⟩, among⟩) function args node
  · have inside := List.mem_map_of_mem (f := (·.2.expressions)) (SortedMap.mem_of_get? defined)
    exact known _ (List.mem_append_left _ inside) _ (mem_callsOf_iff.mpr ⟨embedded, among, node⟩)
  · have file : text ∈ environment.files.texts := by
      rcases Relation.ReflTransGen.cases_tail onward with rfl | ⟨_, _, last⟩
      · exact included.mem_texts
      · exact last.mem_texts
    exact known _ (List.mem_append_right _ (List.mem_map_of_mem file)) _ (mem_callsOf_iff.mpr ⟨embedded, among, node⟩)

end Checks

/-- The environment of a collection among files, without registered functions. -/
def Collection.amid (collection : Collection) (files : FileTree) : Environment :=
  -- The options are those of the file.
  { collection.alone with files := files }

/-- A collection without errors can be evaluated among any files. -/
theorem Collection.amid_eq {collection : Collection} (sound : collection.errors.length = 0) (files : FileTree) :
    Environment.of collection {} files [] = .ok (collection.amid files) := by
  rw [Environment.of, List.eq_nil_of_length_eq_zero sound]
  rfl

/-- A letter whose beginning is included, and includes another file in turn. -/
def letter : Collection :=
  -- The title asks for the name, which may ask for the title.
  .ofText "# letter\n- $\x7bfromFile('greeting.txt')\x7d!\n\n# title\n- Dr $\x7bfromFile('name.txt')\x7d"

/-- The files that the letter includes. -/
def letterFiles : FileTree where
  nodes := [(["greeting.txt"], .file "Dear $\x7bfromFile('name.txt')\x7d".toUTF8),
    (["name.txt"], .file "$\x7bif(formal, title(), 'Kim')\x7d".toUTF8)]

/-- Evaluating the letter ends; a template that calls itself through a file that it includes is reported. -/
theorem letter_finishes :
    Environment.of letter {} letterFiles [] = .ok (letter.amid letterFiles) ∧ (letter.amid letterFiles).TableFree ∧
      (letter.amid letterFiles).Acyclic ∧
      (∃ bound, ∀ limit, bound ≤ limit → ∀ name scope start picks, start.Sound (letter.amid letterFiles).registry →
        Evaluation.ending (evaluateWithin limit (letter.amid letterFiles) name scope) start picks =
            Evaluation.ending (evaluateWithin bound (letter.amid letterFiles) name scope) start picks ∧
          (Evaluation.ending (evaluateWithin bound (letter.amid letterFiles) name scope) start picks).result ≠
            .error .unfinished) ∧
      ((evaluate (letter.amid letterFiles) "letter" (.ofValue (.obj []))).ending {} []).result.toOption.map Value.text =
        some "Dear Kim!" ∧
      (((evaluate (letter.amid letterFiles) "letter" (.ofValue (.obj [("formal", .bool true)]))).ending {} []).result.map
        Value.text).mapError TemplateError.message = .error "loop detected: letter => title => title" := by
  have functions : (letter.amid letterFiles).TableFree := Environment.tableFree_of_callsOf (by decide +kernel)
  have acyclic : (letter.amid letterFiles).Acyclic :=
    Environment.acyclic_of_rank (fun text => ((callsOf text.expressions).filter (·.1 == "fromFile")).length) (by decide +kernel)
  obtain ⟨sound, written, looped⟩ : letter.errors.length = 0 ∧
      ((evaluate (letter.amid letterFiles) "letter" (.ofValue (.obj []))).ending {} []).result.toOption.map Value.text =
        some "Dear Kim!" ∧
      (((evaluate (letter.amid letterFiles) "letter" (.ofValue (.obj [("formal", .bool true)]))).ending {} []).result.map
        Value.text).mapError TemplateError.message = .error "loop detected: letter => title => title" := by
    decide +kernel
  exact ⟨Collection.amid_eq sound letterFiles, functions, acyclic, evaluate_finishes_of_inclusions functions acyclic, written,
    looped⟩

/-- The file that a text includes if it is nothing but that. -/
def TemplateText.onlyFile? (text : TemplateText) : Option String :=
  -- The path must be a constant.
  match text with
  | [.expression ⟨_, .call "fromFile" [.literal (.str path)]⟩] => some path
  | _ => none

/-- Including a file is evaluating its text. -/
theorem ending_includeFile {environment : Environment} {calls : Calls Evaluation} {path : String} {text : TemplateText}
    {stack : CallStack} (found : environment.files.text? (resolvePath (currentSource environment stack) path) = some text)
    (scope : Scope) (picks : List Nat) :
    Evaluation.ending (includeFile environment calls [.str path] scope) stack picks =
      Evaluation.ending (calls.text text scope) stack picks := by
  obtain ⟨content, read, parsed⟩ := FileTree.text?_eq_some_iff.mp found
  simp only [includeFile, includedFile, Evaluation.ending_bind, Evaluation.ending_outside, Evaluation.ending_stack, read,
    Bool.false_eq_true, if_false, parsed]

/-- A text that is nothing but the inclusion of a file is refused if the text of the file is. -/
theorem ending_evalText_of_onlyFile? {environment : Environment} {calls : Calls Evaluation} {text inner : TemplateText}
    {path : String} (only : text.onlyFile? = some path) {stack : CallStack}
    (found : environment.files.text? (resolvePath (currentSource environment stack) path) = some inner) {scope : Scope}
    {picks : List Nat}
    (refused : Evaluation.ending (calls.text inner scope) stack picks = ⟨.error .unfinished, stack, picks⟩) (site : Site) :
    Evaluation.ending (evalText environment calls text scope site) stack picks = ⟨.error .unfinished, stack, picks⟩ := by
  unfold TemplateText.onlyFile? at only
  split at only
  · cases only
    refine ending_evalText_refused ?_ _ site
    have ran := (ending_includeFile found scope picks).trans refused
    have ordinary : ("fromFile" == "if") = false := by decide
    simpa only [Expression.eval, Expression.evalItems, ordinary, Bool.false_and, Bool.false_eq_true, if_false, pure_bind,
      Host.call, hostOf, ownFunction?] using ran
  · cases only

/-- A text that is nothing but the inclusion of itself does not finish within any bound. -/
theorem ending_text_unfinished {environment : Environment} {source path : String} {text : TemplateText}
    (found : environment.files.text? (resolvePath source path) = some text) (only : text.onlyFile? = some path) (limit : Nat)
    (scope : Scope) {stack : CallStack} (here : currentSource environment stack = source) (picks : List Nat) :
    Evaluation.ending ((callsWithin limit environment).text text scope) stack picks =
      ⟨.error .unfinished, stack, picks⟩ := by
  induction limit with
  | zero => rfl
  | succ limit refused => exact ending_evalText_of_onlyFile? only (here ▸ found) refused .text

/-- The file that a template includes if it is nothing but that. -/
def Template.onlyFile? (template : Template) : Option String :=
  -- There is one text, and nothing else in it.
  match template.body with
  | .normal [text] => text.onlyFile?
  | _ => none

/-- Evaluating a template never ends if it is nothing but the inclusion of a text that is nothing but that as well. -/
theorem ending_evaluateWithin_unfinished {environment : Environment} {name path : String} {template : Template}
    (defined : environment.registry.get? name = some template) (unmarked : splitRerun name = (name, false))
    (reads : template.onlyFile? = some path)
    (circular : (environment.files.text? (resolvePath template.source path)).bind TemplateText.onlyFile? = some path)
    (limit : Nat) (scope : Scope) (picks : List Nat) :
    Evaluation.ending (evaluateWithin limit environment name scope) {} picks = ⟨.error .unfinished, {}, picks⟩ := by
  obtain ⟨text, found, only⟩ := Option.bind_eq_some_iff.mp circular
  have refused : Evaluation.ending ((callsWithin limit environment).template name scope) {} picks =
      ⟨.error .unfinished, {}, picks⟩ := by
    cases limit with
    | zero => rfl
    | succ limit =>
      have here : currentSource environment (({} : CallStack).push name) = template.source :=
        currentSource_of_names rfl defined
      have inner := ending_text_unfinished found only limit scope here picks
      unfold Template.onlyFile? at reads
      split at reads
      · rename_i body
        rw [template_callsWithin_succ]
        refine ending_evalTemplate_refused (by rw [Environment.lookup, defined]) unmarked body ?_
        exact ending_evalText_of_onlyFile? reads (here ▸ found) inner .text
      · cases reads
  rw [evaluateWithin, Evaluation.ending_bind, refused]

/-- Templates that include files which include themselves, at once or through a template. -/
def whirlpool : Collection :=
  -- The templates that share a file count down in turn.
  .ofText ("# down(n)\n- $\x7bfromFile('down.txt')\x7d\n\n# further(n)\n- $\x7bfromFile('down.txt')\x7d\n\n" ++
    "# spin\n- $\x7bfromFile('spin.txt')\x7d")

/-- The files that lead back to themselves. -/
def whirlpoolFiles : FileTree where
  nodes := [(["down.txt"], .file "$\x7bif(n == 0, 'done', further(n - 1))\x7d".toUTF8),
    (["spin.txt"], .file "$\x7bfromFile('spin.txt')\x7d".toUTF8)]

/-- Files that include themselves, at once or through a template, are not reported: they give a value or never end. -/
theorem whirlpool_unfinished :
    Environment.of whirlpool {} whirlpoolFiles [] = .ok (whirlpool.amid whirlpoolFiles) ∧
      (whirlpool.amid whirlpoolFiles).TableFree ∧
      (∀ limit scope picks, Evaluation.ending (evaluateWithin limit (whirlpool.amid whirlpoolFiles) "spin" scope) {} picks =
        ⟨.error .unfinished, {}, picks⟩) ∧
      ((evaluate (whirlpool.amid whirlpoolFiles) "down" (.ofValue (.obj [("n", .int 1)]))).ending {} []).result.toOption.map
        Value.text = some "done" := by
  have functions : (whirlpool.amid whirlpoolFiles).TableFree := Environment.tableFree_of_callsOf (by decide +kernel)
  obtain ⟨sound, spins, sources, counted⟩ : whirlpool.errors.length = 0 ∧
      ((whirlpool.amid whirlpoolFiles).registry.get? "spin").bind Template.onlyFile? = some "spin.txt" ∧
      (∀ entry ∈ (whirlpool.amid whirlpoolFiles).registry, entry.2.source = "") ∧
      ((evaluate (whirlpool.amid whirlpoolFiles) "down" (.ofValue (.obj [("n", .int 1)]))).ending {} []).result.toOption.map
        Value.text = some "done" := by
    decide +kernel
  obtain ⟨spin, defined, reads⟩ := Option.bind_eq_some_iff.mp spins
  have circular : ((whirlpool.amid whirlpoolFiles).files.text? (resolvePath spin.source "spin.txt")).bind
      TemplateText.onlyFile? = some "spin.txt" := by
    rw [sources _ (SortedMap.mem_of_get? defined)]
    decide +kernel
  exact ⟨Collection.amid_eq sound whirlpoolFiles, functions,
    ending_evaluateWithin_unfinished defined (by decide +kernel) reads circular, counted⟩

end Phrasebook
