import Mathlib.Data.List.Infix
import Phrasebook.Proofs.Template.Writer

/-! What is written for a text means nothing but that text: no keyword, no fence, no separator, no end of a line. -/

namespace Phrasebook

/-- A property of texts that holds of each of several parts holds of them together. -/
theorem Joined.flatMap {Part : List Char → Prop} (joined : Joined Part) {α : Type} {parts : List α} {chars : α → List Char}
    (each : ∀ part ∈ parts, Part (chars part)) : Part (parts.flatMap chars) := by
  induction parts with
  | nil => exact joined.nil
  | cons part parts later =>
    obtain ⟨here, others⟩ := List.forall_mem_cons.mp each
    rw [List.flatMap_cons]
    exact joined.append here (later others)

/-- Whether a character stands for itself at a place. -/
def TextPlace.Plain (place : TextPlace) (c : Char) : Prop :=
  -- Line ends and tabs never do.
  place.marks c = false ∧ c ∉ ['\n', '\r', '\t']

/-- A character that stands for itself is neither a backslash nor a dollar sign. -/
theorem TextPlace.areInert (place : TextPlace) : AreInert place.Plain := by
  rintro c ⟨plain, _⟩
  refine ⟨?_, ?_⟩ <;> rintro rfl <;> simp [TextPlace.marks] at plain

section Characters

variable (layout : Layout) (place : TextPlace) (c : Char)

/-- White space is no letter that a backslash gives another meaning. -/
theorem unescapeChar_of_isBlank {c : Char} (blank : isBlank c = true) : unescapeChar c = c := by
  have letters : ∀ letter ∈ ['n', 'r', 't'], c ≠ letter := by
    rintro letter inside rfl
    have dark : ∀ letter ∈ ['n', 'r', 't'], isBlank letter = false := by decide
    simp [dark c inside] at blank
  simp [unescapeChar, letters 'n' (by decide), letters 'r' (by decide), letters 't' (by decide)]

/-- A character is written as itself, or behind a backslash, where no line ends and no more white space is than there was. -/
theorem Layout.char_cases :
    (layout.char place c = [c] ∧ place.Plain c) ∨ ∃ d, layout.char place c = ['\\', d] ∧ unescapeChar d = c ∧ d ≠ '\n' ∧
      (isBlank d = true → isBlank c = true ∧ c ∉ ['\n', '\r', '\t']) := by
  unfold Layout.char
  by_cases feed : c = '\n'
  · subst feed
    exact .inr ⟨'n', rfl, rfl, by decide, by decide⟩
  by_cases carriage : c = '\r'
  · subst carriage
    exact .inr ⟨'r', rfl, rfl, by decide, by decide⟩
  by_cases tab : c = '\t'
  · subst tab
    exact .inr ⟨'t', rfl, rfl, by decide, by decide⟩
  rw [if_neg feed, if_neg carriage, if_neg tab]
  have other : c ∉ ['\n', '\r', '\t'] := by simp [feed, carriage, tab]
  split
  · rename_i special
    refine .inr ⟨c, rfl, ?_, feed, fun blank => ⟨blank, other⟩⟩
    -- No letter that a backslash would change is written behind one.
    have letters : ∀ letter ∈ ['n', 'r', 't'], c ≠ letter := by
      rintro letter inside rfl
      have plain : place.marks c = false := by
        simp only [List.mem_cons, List.not_mem_nil, or_false] at inside
        cases place <;> rcases inside with rfl | rfl | rfl <;> rfl
      simp [plain, layout.letters c inside] at special
    simp [unescapeChar, letters 'n' (by decide), letters 'r' (by decide), letters 't' (by decide)]
  · rename_i plain
    simp only [Bool.or_eq_true, not_or, Bool.not_eq_true] at plain
    exact .inl ⟨rfl, plain.1, other⟩

/-- What is written for a character spells it. -/
theorem Layout.char_spelled {chars text : List Char} (later : Spelled place.Plain chars text) :
    Spelled place.Plain (layout.char place c ++ chars) (c :: text) := by
  rcases layout.char_cases place c with ⟨same, plain⟩ | ⟨d, same, stands, _⟩
  · rw [same]
    exact .plain plain later
  · rw [same, ← stands]
    exact .escaped d later

end Characters

section Texts

variable (layout : Layout) (place : TextPlace)

/-- The characters of the pieces spell the text. -/
theorem Layout.segments_rendered (text : TemplateText) :
    Rendered place.Plain (text.flatMap (layout.segment place)) text := by
  have spelled (chars : List Char) : Spelled place.Plain (chars.flatMap (layout.char place)) chars := by
    induction chars with
    | nil => exact .nil
    | cons c chars later =>
      rw [List.flatMap_cons]
      exact layout.char_spelled place c later
  induction text with
  | nil => exact .nil
  | cons segment text later =>
    rw [List.flatMap_cons]
    cases segment with
    | literal text => exact .literal (spelled text.toList) later
    | expression embedded => exact .expression embedded later

/-- White space at the front may take a backslash. -/
theorem Rendered.guard {plain : Char → Prop} {c : Char} (blank : isBlank c = true) {chars : List Char} {text : TemplateText}
    (rendered : Rendered plain chars text) {rest : List Char} (start : chars = c :: rest) :
    Rendered plain ('\\' :: c :: rest) text := by
  induction rendered with
  | nil => cases start
  | @literal text chars others segments here later guarded =>
    generalize same : text.toList = stands at here
    cases here with
    | nil =>
      have none : Spelled plain [] text.toList := by
        rw [same]
        exact .nil
      exact .literal none (guarded start)
    | @plain d chars text here more =>
      obtain ⟨rfl, rfl⟩ := List.cons.inj start
      have escaped := Spelled.escaped d more
      rw [unescapeChar_of_isBlank blank, ← same] at escaped
      exact .literal escaped later
    | escaped =>
      obtain ⟨rfl, _⟩ := List.cons.inj start
      exact absurd blank (by decide)
  | expression =>
    obtain ⟨rfl, _⟩ := List.cons.inj start
    exact absurd blank (by decide)

/-- What is written for a text spells it. -/
theorem Layout.text_rendered (text : TemplateText) : Rendered place.Plain (layout.text place text) text := by
  have rendered := layout.segments_rendered place text
  unfold Layout.text
  generalize text.flatMap (layout.segment place) = chars at rendered
  unfold guardFront
  split
  · exact rendered
  · split
    · rename_i blank
      exact rendered.guard blank rfl
    · exact rendered

/-- A text that can be written is read back from what is written for it. -/
theorem Layout.parse_text {text : TemplateText} (writable : text.IsWritable) :
    TemplateText.parse (String.ofList (layout.text place text)) = .ok text :=
  TemplateText.parse_rendered place.areInert (layout.text_rendered place text) writable.normal

/-- A guard in front adds no other character than the backslash. -/
theorem mem_guardFront {c : Char} {chars : List Char} (inside : c ∈ guardFront chars) : c = '\\' ∨ c ∈ chars := by
  unfold guardFront at inside
  split at inside
  · exact .inr inside
  · split at inside
    · exact List.mem_cons.mp inside
    · exact .inr inside

/-- A text that can be written takes one line. -/
theorem Layout.text_oneLine {text : TemplateText} (writable : text.IsWritable) : '\n' ∉ layout.text place text := by
  intro inside
  have inside := (mem_guardFront inside).resolve_left (by decide)
  obtain ⟨segment, among, inside⟩ := List.mem_flatMap.mp inside
  cases segment with
  | literal literal =>
    obtain ⟨c, _, inside⟩ := List.mem_flatMap.mp inside
    rcases layout.char_cases place c with ⟨same, plain⟩ | ⟨d, same, _, other, _⟩
    · rw [same, List.mem_singleton] at inside
      exact plain.2 (inside ▸ List.mem_cons_self)
    · rw [same] at inside
      simp only [List.mem_cons, List.not_mem_nil, or_false] at inside
      exact inside.elim (by decide) fun same => other same.symm
  | expression embedded =>
    have oneLine := (writable.embedded embedded among).oneLine
    simp only [Layout.segment, embeddedChars, List.mem_cons, List.mem_append, List.not_mem_nil, or_false] at inside
    simp_all

/-- What is written for a text has white space at neither end. -/
theorem Layout.text_isTrimmed {text : TemplateText} (writable : text.IsWritable) : IsTrimmed (layout.text place text) := by
  -- The last piece is not empty, and does not end in white space.
  have closes : text.flatMap (layout.segment place) = [] ∨ Closes (text.flatMap (layout.segment place)) := by
    rcases List.eq_nil_or_concat text with rfl | ⟨front, last, rfl⟩
    · exact .inl rfl
    refine .inr ?_
    rw [List.concat_eq_append, List.flatMap_append, List.flatMap_singleton]
    refine Closes.append ?_ _
    cases last with
    | expression embedded => exact Closes.concat (by decide) ('$' :: '\x7b' :: embedded.source.toList)
    | literal literal =>
      have some : literal ≠ "" := writable.normal.each (.literal literal) (by simp)
      rcases List.eq_nil_or_concat literal.toList with none | ⟨chars, c, whole⟩
      · exact absurd (by simpa using none) some
      rw [List.concat_eq_append] at whole
      rw [Layout.segment, whole, List.flatMap_append, List.flatMap_singleton]
      refine Closes.append ?_ _
      have ends := writable.closes literal (by simp) c (by simp [whole])
      rcases layout.char_cases place c with ⟨same, plain⟩ | ⟨d, same, _, _, blank⟩
      · rw [same]
        cases dark : isBlank c with
        | false => exact Closes.concat dark []
        | true => exact absurd (ends dark) plain.2
      · rw [same]
        cases dark : isBlank d with
        | false => exact Closes.concat dark ['\\']
        | true => exact absurd (ends (blank dark).1) (blank dark).2
  unfold Layout.text
  generalize text.flatMap (layout.segment place) = chars at closes
  unfold guardFront
  split
  · exact isTrimmed_nil
  · have closes := closes.resolve_left (List.cons_ne_nil _ _)
    split
    · exact isTrimmed_of_ends (Opens.cons (by decide) _) (closes.append ['\\'])
    · rename_i dark
      exact isTrimmed_of_ends (Opens.cons (by simpa using dark) _) closes

/-- Whether a text holds no fence, and starts with none of its signs. -/
def Unfenced (text : List Char) : Prop :=
  -- So no fence can arise where it follows another text.
  cutAt fence text = none ∧ text.head? ≠ some '`'

/-- A text without a fence followed by one that starts with none of its signs has no fence. -/
theorem cutAt_fence_append {front back : List Char} (free : cutAt fence front = none) (unfenced : Unfenced back) :
    cutAt fence (front ++ back) = none := by
  induction front with
  | nil => exact unfenced.1
  | cons c front later =>
    simp only [cutAt] at free
    split at free
    · cases free
    · rename_i here
      rw [List.cons_append, cutAt, if_neg, later (Option.map_eq_none_iff.mp free)]
      · rfl
      · -- A fence that starts here would lie within the first text, or the second would start with a sign of it.
        intro starts
        obtain ⟨rest, whole⟩ := List.isPrefixOf_iff_prefix.mp starts
        refine here (List.isPrefixOf_iff_prefix.mpr ?_)
        rcases front with _ | ⟨d, _ | ⟨e, front⟩⟩
        · rcases back with _ | ⟨d, back⟩
          · simp [fence] at whole
          · simp [fence] at whole
            simp [Unfenced, ← whole.2.1] at unfenced
        · rcases back with _ | ⟨e, back⟩
          · simp [fence] at whole
          · simp [fence] at whole
            simp [Unfenced, ← whole.2.2.1] at unfenced
        · simp [fence] at whole ⊢
          simp [← whole.1, ← whole.2.1, ← whole.2.2.1]

/-- Two texts without fences in a row have none. -/
theorem joined_unfenced : Joined Unfenced where
  nil := ⟨rfl, nofun⟩
  append {front back} free unfenced := by
    refine ⟨cutAt_fence_append free.1 unfenced, ?_⟩
    cases front with
    | nil => exact unfenced.2
    | cons c front => exact free.2

/-- A text without a fence has none behind another sign. -/
theorem unfenced_cons {c : Char} (other : c ≠ '`') {rest : List Char} (free : cutAt fence rest = none) :
    Unfenced (c :: rest) := by
  have signs : fence = ['`', '`', '`'] := rfl
  refine ⟨?_, by simpa using other⟩
  rw [signs] at free ⊢
  simp [cutAt, List.isPrefixOf, free, other.symm]

/-- A mark that is no part of a text is not found in it. -/
theorem cutAt_eq_none {mark text : List Char} (absent : ¬ mark <:+: text) : cutAt mark text = none := by
  cases cut : cutAt mark text with
  | none => rfl
  | some parts => exact absurd ⟨parts.1, parts.2, (eq_append_of_cutAt cut).symm⟩ absent

/-- There is no fence in the text of an expression and its signs. -/
theorem unfenced_embeddedChars {embedded : Embedded} (writable : embedded.IsWritable) :
    Unfenced (embeddedChars embedded.source.toList) := by
  have brace : Unfenced ['\x7d'] := ⟨by decide, by decide⟩
  have source := cutAt_fence_append (cutAt_eq_none writable.unfenced) brace
  exact unfenced_cons (by decide) (unfenced_cons (by decide) source).1

/-- A text that can be written has no fence on its line. -/
theorem Layout.text_unfenced {text : TemplateText} (writable : text.IsWritable) :
    cutAt fence (layout.text .dashed text) = none := by
  have pieces : Unfenced (text.flatMap (layout.segment .dashed)) := by
    refine joined_unfenced.flatMap fun segment among => ?_
    cases segment with
    | expression embedded => exact unfenced_embeddedChars (writable.embedded embedded among)
    | literal literal =>
      refine joined_unfenced.flatMap fun c _ => ?_
      rcases layout.char_cases .dashed c with ⟨same, plain⟩ | ⟨d, same, _⟩
      · -- A backtick never stands for itself.
        have other : c ≠ '`' := by
          rintro rfl
          exact absurd plain.1 (by decide)
        rw [same]
        exact unfenced_cons other rfl
      · rw [same]
        exact unfenced_cons (by decide) (by simp [cutAt, fence, List.isPrefixOf])
  unfold Layout.text
  generalize text.flatMap (layout.segment .dashed) = chars at pieces
  unfold guardFront
  split
  · rfl
  · split
    · exact cutAt_fence_append (show cutAt fence ['\\'] = none by decide) pieces
    · exact pieces.1

/-- Whether a backslash or a dollar sign stands in front of every colon. -/
def ColonHidden (text : List Char) : Prop :=
  -- So what stands in front of the first colon is no keyword.
  ∀ before after, text = before ++ ':' :: after → '\\' ∈ before ∨ '$' ∈ before

/-- Two texts with hidden colons in a row have hidden colons. -/
theorem joined_colonHidden : Joined ColonHidden where
  nil before after whole := by simp at whole
  append {front back} hidden hidden' before after whole := by
    rcases List.append_eq_append_iff.mp whole with ⟨more, rfl, rest⟩ | ⟨more, rfl, rest⟩
    · rcases hidden' more after rest with inside | inside
      · exact .inl (List.mem_append_right front inside)
      · exact .inr (List.mem_append_right front inside)
    · cases more with
      | nil => exact absurd (hidden' [] after rest.symm) (by simp)
      | cons c more =>
        obtain ⟨rfl, rfl⟩ := List.cons.inj rest
        exact hidden before more rfl

/-- A text that starts with a backslash or a dollar sign has hidden colons. -/
theorem colonHidden_cons {c : Char} (hides : c = '\\' ∨ c = '$') (rest : List Char) : ColonHidden (c :: rest) := by
  intro before after whole
  cases before with
  | nil =>
    obtain ⟨rfl, _⟩ := List.cons.inj whole
    exact absurd hides (by decide)
  | cons d before =>
    obtain ⟨rfl, _⟩ := List.cons.inj whole
    rcases hides with rfl | rfl
    · exact .inl List.mem_cons_self
    · exact .inr List.mem_cons_self

/-- Every colon of a text on a dashed line is hidden. -/
theorem Layout.text_colonHidden (text : TemplateText) : ColonHidden (layout.text .dashed text) := by
  have pieces : ColonHidden (text.flatMap (layout.segment .dashed)) := by
    refine joined_colonHidden.flatMap fun segment _ => ?_
    cases segment with
    | expression embedded => exact colonHidden_cons (.inr rfl) _
    | literal literal =>
      refine joined_colonHidden.flatMap fun c _ => ?_
      rcases layout.char_cases .dashed c with ⟨same, plain⟩ | ⟨d, same, _⟩
      · rw [same]
        rintro before after whole
        have colon : c = ':' := by
          cases before with
          | nil => exact (List.cons.inj whole).1
          | cons d before => simp at whole
        subst colon
        exact absurd plain.1 (by decide)
      · rw [same]
        exact colonHidden_cons (.inl rfl) [d]
  unfold Layout.text
  generalize text.flatMap (layout.segment .dashed) = chars at pieces
  unfold guardFront
  split
  · exact pieces
  · split
    · exact colonHidden_cons (.inl rfl) _
    · exact pieces

/-- Every character that is no white space belongs to a word. -/
theorem mem_wordsFrom {c : Char} (dark : isBlank c = false) {word text : List Char} (inside : c ∈ word ∨ c ∈ text) :
    ∃ found ∈ wordsFrom word text, c ∈ found := by
  fun_induction wordsFrom word text with
  | case1 word none => simp_all
  | case2 word some => exact ⟨word.reverse, List.mem_singleton_self _, by simpa using inside⟩
  | case3 word d rest blank none later =>
    refine later (.inr ?_)
    rcases inside with inside | inside
    · simp_all
    · exact (List.mem_cons.mp inside).resolve_left (by rintro rfl; simp_all)
  | case4 word d rest blank some later =>
    rcases inside with inside | inside
    · exact ⟨word.reverse, List.mem_cons_self, List.mem_reverse.mpr inside⟩
    · obtain ⟨found, among, here⟩ := later (.inr ((List.mem_cons.mp inside).resolve_left (by rintro rfl; simp_all)))
      exact ⟨found, List.mem_cons_of_mem _ among, here⟩
  | case5 word d rest other later =>
    refine later ?_
    rcases inside with inside | inside
    · exact .inl (List.mem_cons_of_mem _ inside)
    · rcases List.mem_cons.mp inside with rfl | inside
      · exact .inl List.mem_cons_self
      · exact .inr inside

/-- A sign stays in the lower case of a text. -/
theorem mem_lowerText {c : Char} (sign : c ∈ ['\\', '$']) {text : List Char} (inside : c ∈ text) :
    c ∈ (lowerText (String.ofList text)).toList := by
  have itself : ∀ c ∈ ['\\', '$'], c ≠ 'Σ' ∧ lowerChar c = [c] := by decide
  obtain ⟨other, same⟩ := itself c sign
  have from' (before : List Char) : c ∈ lowerFrom before text := by
    induction text generalizing before with
    | nil => cases inside
    | cons d text later =>
      rw [lowerFrom]
      rcases List.mem_cons.mp inside with rfl | inside
      · simp [other, same]
      · exact List.mem_append_right _ (later inside (d :: before))
  rw [lowerText, String.toList_ofList, String.toList_ofList]
  exact from' []

/-- A text with hidden colons starts with no keyword. -/
theorem keyword?_of_colonHidden {text : List Char} (hidden : ColonHidden text) : keyword? text = none := by
  unfold keyword?
  cases cut : cutAt [':'] text with
  | none => rfl
  | some parts =>
    obtain ⟨head, rest⟩ := parts
    -- A word in front of the colon has a sign, and no keyword does.
    have sign : ∃ c ∈ ['\\', '$'], c ∈ head := by
      have whole := eq_append_of_cutAt cut
      rw [List.append_assoc, List.singleton_append] at whole
      rcases hidden head rest whole with inside | inside
      · exact ⟨_, by decide, inside⟩
      · exact ⟨_, by decide, inside⟩
    obtain ⟨c, sign, inside⟩ := sign
    have dark : ∀ c ∈ ['\\', '$'], isBlank c = false := by decide
    obtain ⟨word, among, inside⟩ := mem_wordsFrom (dark c sign) (.inr inside)
    have lowered : lowerText (String.ofList word) ∈ (wordsOf head).map fun word => lowerText (String.ofList word) :=
      List.mem_map.mpr ⟨word, among, rfl⟩
    have marked := mem_lowerText sign inside
    dsimp only
    generalize (wordsOf head).map (fun word => lowerText (String.ofList word)) = words at lowered
    generalize lowerText (String.ofList word) = found at lowered marked
    have plain : ∀ c ∈ ['\\', '$'], ∀ word ∈ ["if", "else", "elseif", "switch", "case", "default"], c ∉ word.toList := by
      decide
    split
    case h_2 =>
      rcases List.mem_pair.mp lowered with rfl | rfl <;> exact absurd marked (plain c sign _ (by decide))
    case h_8 => rfl
    all_goals
      obtain rfl := List.mem_singleton.mp lowered
      exact absurd marked (plain c sign _ (by decide))

end Texts

end Phrasebook
