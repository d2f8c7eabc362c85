import Phrasebook.Proofs.Expression.Curtailed
import Phrasebook.Proofs.Template.Files

/-! A template is called by the name in its header if the name is put together as the names of calls are. -/

namespace Phrasebook

open Rule Expression

/-- A call as it is written, with its arguments between parentheses and white space behind each comma. -/
def callChars (gap : List Char) (name : String) (sources : List String) : List Char :=
  -- There may be no arguments.
  name.toList ++ '(' :: (List.intercalate (',' :: gap) (sources.map String.toList) ++ [')'])

/-- A text that ends without white space has no white space behind its parts. -/
theorem Closes.eq_nil {front gap : List Char} (closes : Closes (front ++ gap)) (blank : ∀ c ∈ gap, isBlank c = true) :
    gap = [] := by
  obtain ⟨before, c, same, dark⟩ := closes
  rcases List.eq_nil_or_concat gap with none | ⟨more, d, rfl⟩
  · exact none
  · rw [List.concat_eq_append, ← List.append_assoc] at same
    have last : d = c := by simpa using (List.append_inj' same rfl).2
    rw [← last, blank d (by simp)] at dark
    cases dark

/-- A text without white space at its ends spells the element that it is read as alone. -/
theorem spells_of_parse {source : String} {expression : Expression} (trimmed : IsTrimmed source.toList)
    (accepted : Expression.parse source = .ok expression) {depth : Nat} (deep : source.toList.length < depth) :
    Spells (expressionRule depth) source.toList expression := by
  obtain ⟨rest, done, blank⟩ := parse_eq_ok_iff.mp accepted
  rcases trimmed.ends with none | ⟨opens, closes⟩
  · obtain ⟨left, refused⟩ := expressionRule_nil (source.toList.length + 1)
    rw [none] at done refused
    cases refused.symm.trans done
  · rw [opens.trimFront] at done
    -- The bound on the depth is raised while nothing follows.
    have bounds := expressionRule_mirrors (Nat.le_refl _) deep _ _ (.refl source.toList) (Nat.lt_succ_self _)
    obtain ⟨rest, done, blank⟩ := (bounds.done_iff expression).mp ⟨rest, done, blank⟩
    obtain ⟨read, whole, again⟩ := expressionRule_rereads depth _ _ _ done
    rw [whole] at closes
    obtain rfl := closes.eq_nil blank
    rw [List.append_nil] at whole
    refine ⟨opens, fun c more closes => ?_⟩
    rw [whole]
    refine again (c :: more) (.closed closes) ?_
    rintro _ ⟨rfl, rfl⟩
    exact absurd closes (by decide)

/-- Arguments that are read alone are read between parentheses. -/
theorem argumentsRule_done {gap : List Char} (blank : ∀ c ∈ gap, isBlank c = true) {depth : Nat} {texts : List (List Char)}
    {args : List Expression} (each : List.Forall₂ (Spells (expressionRule depth)) texts args) (more : List Char) :
    argumentsRule (expressionRule depth) ('(' :: (List.intercalate (',' :: gap) texts ++ ')' :: more)) = .done args more := by
  cases each with
  | nil =>
    obtain ⟨left, none⟩ := expressionRule_refused depth more (startsExpression_closing ')' (by decide))
    exact enclosed_done (by decide) (Opens.cons (by decide) more) (elements_none none)
  | cons first others =>
    rw [intercalate_cons, List.append_assoc]
    exact enclosed_done (by decide) (first.opens.append _) (elements_done (separates_between blank) first others (by decide) more)

/-- There is no exclamation mark in an identifier. -/
theorem IsIdentifier.unmarked {name : String} (identifier : IsIdentifier name) : '!' ∉ name.toList := by
  obtain ⟨c, rest, chars, starts, continues⟩ := identifier
  rw [chars, List.mem_cons]
  rintro (rfl | inside)
  · exact absurd starts (by decide)
  · exact absurd (continues '!' inside) (by decide)

/-- Whether a name is that of a call does not depend on an exclamation mark behind it. -/
theorem isCallName_mark {name : String} (unmarked : '!' ∉ name.toList) : IsCallName (name ++ "!") ↔ IsCallName name := by
  have bang : "!".toList = ['!'] := rfl
  constructor
  · rintro ⟨first, segments, parts, rerun, starts, continues, dashed, chars⟩
    rw [String.toList_append, bang] at chars
    cases rerun with
    | true => exact ⟨first, segments, parts, false, starts, continues, dashed, by simpa using List.append_cancel_right chars⟩
    | false =>
      -- No other part of a name holds the mark.
      have inside : '!' ∈ first.toList ++ dottedChars segments ++ dashedChars parts := by
        rw [if_neg Bool.false_ne_true, List.append_nil] at chars
        rw [← chars]
        exact List.mem_append_right _ (List.mem_singleton_self '!')
      rw [List.mem_append, List.mem_append, dottedChars, dashedChars, List.mem_flatMap, List.mem_flatMap] at inside
      rcases inside with (here | ⟨segment, listed, here⟩) | ⟨part, listed, here⟩
      · exact absurd here starts.unmarked
      · exact absurd ((List.mem_cons.mp here).resolve_left (by decide)) (continues segment listed).unmarked
      · have continued := (dashed part listed).2 '!' ((List.mem_cons.mp here).resolve_left (by decide))
        exact absurd continued (by decide)
  · rintro ⟨first, segments, parts, rerun, starts, continues, dashed, chars⟩
    cases rerun with
    | true =>
      rw [chars] at unmarked
      simp at unmarked
    | false => exact ⟨first, segments, parts, true, starts, continues, dashed, by rw [String.toList_append, chars, bang]; simp⟩

/-- What is called by the text of a call has a name that calls can have. -/
theorem isCallName_of_parse {source name : String} {args : List Expression}
    (accepted : Expression.parse source = .ok (.call name args)) : IsCallName name := by
  obtain ⟨_, _, _, _, _, _, _, readable⟩ := reads_of_parse accepted
  rcases (everywhere_call.mp readable).1 with spelled | ⟨x, same, -⟩
  · exact spelled
  · cases same

/-- A call by a name that calls can have is read with the arguments that its parts are read as. -/
theorem parse_callChars {name : String} (named : IsCallName name) {gap : List Char} (blank : ∀ c ∈ gap, isBlank c = true)
    {sources : List String} {args : List Expression}
    (accepted : List.Forall₂ (fun source arg => IsTrimmed source.toList ∧ Expression.parse source = .ok arg) sources args) :
    Expression.parse (String.ofList (callChars gap name sources)) = .ok (.call name args) := by
  have deep (source : String) (inside : source ∈ sources) : source.toList.length < (callChars gap name sources).length := by
    have part := length_le_intercalate (',' :: gap) (List.mem_map_of_mem (f := String.toList) inside)
    simp only [callChars, List.length_append, List.length_cons]
    omega
  have each : List.Forall₂ (Spells (expressionRule (callChars gap name sources).length)) (sources.map String.toList) args := by
    generalize (callChars gap name sources).length = depth at deep
    induction accepted with
    | nil => exact .nil
    | cons here _ later =>
      obtain ⟨first, others⟩ := List.forall_mem_cons.mp deep
      exact .cons (spells_of_parse here.1 here.2 first) (later others)
  exact (readAt_call named fun more => argumentsRule_done blank each more).parse (Nat.zero_le 7)

/-- A template is called by the name in its header, with or without an exclamation mark, if the name is put together as the
names of calls are, and by no call otherwise. -/
theorem parse_call {line : List Char} {name : String} {parameters : List String}
    (header : FileReading.readWhole FileReading.headerRule line = some (name, parameters)) {gap : List Char}
    (blank : ∀ c ∈ gap, isBlank c = true) {sources : List String} {args : List Expression}
    (accepted : List.Forall₂ (fun source arg => IsTrimmed source.toList ∧ Expression.parse source = .ok arg) sources args) :
    (Expression.parse (String.ofList (callChars gap name sources)) = .ok (.call name args) ↔ IsCallName name) ∧
      (Expression.parse (String.ofList (callChars gap (name ++ "!") sources)) = .ok (.call (name ++ "!") args) ↔
        IsCallName name) := by
  have spelled := FileReading.of_readWhole headerRule_gives header
  have unmarked : '!' ∉ name.toList := fun inside => absurd (spelled '!' inside) (by decide)
  refine ⟨⟨isCallName_of_parse, fun named => parse_callChars named blank accepted⟩, fun read => ?_, fun named => ?_⟩
  · exact (isCallName_mark unmarked).mp (isCallName_of_parse read)
  · exact parse_callChars ((isCallName_mark unmarked).mpr named) blank accepted

/-- A template with a dot and a dash in its name is called by it. -/
theorem card_isCalled :
    FileReading.readWhole FileReading.headerRule " card.title-short(a, b)".toList = some ("card.title-short", ["a", "b"]) ∧
      Expression.parse "card.title-short(1 + 2, [3])" =
        .ok (.call "card.title-short" [.binary .add (.literal (.int 1)) (.literal (.int 2)), .array [.literal (.int 3)]]) ∧
      Expression.parse "card.title-short!(1 + 2, [3])" =
        .ok (.call "card.title-short!" [.binary .add (.literal (.int 1)) (.literal (.int 2)), .array [.literal (.int 3)]]) := by
  have header : FileReading.readWhole FileReading.headerRule " card.title-short(a, b)".toList =
      some ("card.title-short", ["a", "b"]) := by
    decide +kernel
  have dashed : ∀ part ∈ ["short"], IsDashedPart part := by
    simp only [List.mem_singleton, forall_eq]
    exact ⟨by decide, by decide⟩
  have named : IsCallName "card.title-short" := ⟨"card", ["title"], ["short"], false, by decide, by decide, dashed, by decide⟩
  have accepted : List.Forall₂ (fun source arg => IsTrimmed source.toList ∧ Expression.parse source = .ok arg)
      ["1 + 2", "[3]"] [.binary .add (.literal (.int 1)) (.literal (.int 2)), .array [.literal (.int 3)]] :=
    .cons ⟨by unfold IsTrimmed; decide, rfl⟩ (.cons ⟨by unfold IsTrimmed; decide, rfl⟩ .nil)
  have texts : String.ofList (callChars [' '] "card.title-short" ["1 + 2", "[3]"]) = "card.title-short(1 + 2, [3])" ∧
      String.ofList (callChars [' '] ("card.title-short" ++ "!") ["1 + 2", "[3]"]) = "card.title-short!(1 + 2, [3])" := by
    decide
  obtain ⟨called, called'⟩ := parse_call header (by decide : ∀ c ∈ [' '], isBlank c = true) accepted
  rw [texts.1] at called
  rw [texts.2] at called'
  exact ⟨header, called.mpr named, called'.mpr named⟩

/-- A template with a digit behind a dot in its name is not called by it: that is no expression at all. -/
theorem numbered_isNotCalled :
    FileReading.readWhole FileReading.headerRule " a.1".toList = some ("a.1", []) ∧
      String.ofList (callChars [] "a.1" []) = "a.1()" ∧
        ∀ expression, Expression.parse "a.1()" ≠ .ok expression := by
  have header : FileReading.readWhole FileReading.headerRule " a.1".toList = some ("a.1", []) := by decide +kernel
  have rejected : (Expression.parse "a.1()").isOk = false := by decide +kernel
  refine ⟨header, by decide, fun expression accepted => ?_⟩
  rw [accepted] at rejected
  cases rejected

end Phrasebook
