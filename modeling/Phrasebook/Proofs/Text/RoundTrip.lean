import Mathlib.Data.List.Chain
import Phrasebook.Proofs.Expression.RoundTrip
import Phrasebook.Proofs.Results
import Phrasebook.Text.Reader

/-! Template texts are read back from what they are written as, and so are conditions. -/

namespace Phrasebook

namespace Expression

variable {source : String} {expression : Expression} (accepted : Expression.parse source = .ok expression)

include accepted

/-- Quotes and braces are closed within the text of an expression. -/
theorem balanced_of_parse : Balanced source.toList := by
  obtain ⟨lead, read, trail, whole, blank, blank', balanced, _⟩ := reads_of_parse accepted
  rw [whole]
  exact joined_balanced.append (joined_balanced.append (balanced_of_blank lead blank) balanced) (balanced_of_blank trail blank')

/-- Behind white space the text of an expression starts with a character that can start one. -/
theorem starts_of_parse {c : Char} {rest : List Char} (start : trimFront source.toList = c :: rest) :
    startsExpression c = true := by
  obtain ⟨left, done, _⟩ := parse_eq_ok_iff.mp accepted
  cases starts : startsExpression c with
  | true => rfl
  | false =>
    rw [start, expressionRule_succ, looseRule_other starts] at done
    cases done

/-- The trimmed text of an expression spells it, too. -/
theorem parse_trimChars : Expression.parse (String.ofList (trimChars source.toList)) = .ok expression := by
  obtain ⟨lead, trail, whole, blank, blank'⟩ := exists_margins source.toList
  refine (parse_margins blank blank' _ expression).mp ?_
  rw [← whole, String.ofList_toList]
  exact accepted

/-- An expression is read out of its characters, and its trimmed text is kept. -/
theorem embed_of_parse : embed source.toList = .ok ⟨trimText source, expression⟩ := by
  simp only [embed, parse_trimChars accepted]
  rfl

/-- A bare condition is read with white space around it. -/
theorem parseCondition_bare {lead trail : List Char} (blank : ∀ c ∈ lead, isBlank c = true)
    (blank' : ∀ c ∈ trail, isBlank c = true) :
    parseCondition (String.ofList (lead ++ source.toList ++ trail)) = .ok ⟨trimText source, expression⟩ := by
  have core := parse_trimChars accepted
  have trimmed : trimChars (trimChars source.toList) = trimChars source.toList := isTrimmed_trimChars source.toList
  have read : embed (trimChars source.toList) = .ok ⟨trimText source, expression⟩ := by
    have read := embed_of_parse core
    rwa [trimText, String.toList_ofList, trimmed] at read
  -- The signs of an embedded expression start no expression.
  have bare : ∀ rest, trimChars source.toList ≠ '$' :: rest := by
    intro rest same
    have front : trimFront (String.ofList (trimChars source.toList)).toList = '$' :: rest := by
      rw [String.toList_ofList, same]
      exact (Opens.cons (by decide) rest).trimFront
    exact absurd (starts_of_parse core front) (by decide)
  simp only [parseCondition, String.toList_ofList, trimChars_margins blank blank']
  split
  · rename_i rest same
    exact absurd same (bare _)
  · exact read

end Expression

/-- The characters of an expression inside a text. -/
def embeddedChars (source : List Char) : List Char :=
  -- The brace behind the expression is the first that it leaves open.
  '$' :: '\x7b' :: (source ++ ['\x7d'])

/-- There is no white space around the signs of an embedded expression. -/
theorem isTrimmed_embeddedChars (source : List Char) : IsTrimmed (embeddedChars source) :=
  isTrimmed_of_ends (Opens.cons (by decide) _) (Closes.concat (by decide) ('$' :: '\x7b' :: source))

/-- The signs of an embedded expression are taken off a condition that they enclose. -/
theorem parseCondition_of_closed {text : String} {rest body : List Char}
    (chars : trimChars text.toList = '$' :: '\x7b' :: rest)
    (closed : closeExpression .start rest = some (body, [])) : parseCondition text = embed body := by
  rw [parseCondition]
  simp only [chars, closed]

/-- A condition between the signs of an embedded expression is read with white space around it. -/
theorem Expression.parseCondition_enclosed {source : String} {expression : Expression}
    (accepted : Expression.parse source = .ok expression) {lead trail : List Char} (blank : ∀ c ∈ lead, isBlank c = true)
    (blank' : ∀ c ∈ trail, isBlank c = true) :
    parseCondition (String.ofList (lead ++ embeddedChars source.toList ++ trail)) = .ok ⟨trimText source, expression⟩ := by
  have closed := (balanced_of_parse accepted).closeExpression []
  refine (parseCondition_of_closed ?_ closed).trans (embed_of_parse accepted)
  rw [String.toList_ofList, trimChars_margins blank blank']
  exact isTrimmed_embeddedChars source.toList

/-- Whether an embedded expression is the one that its trimmed text spells. -/
structure Embedded.IsFaithful (embedded : Embedded) : Prop where
  /-- There is no white space around the text. -/
  trimmed : IsTrimmed embedded.source.toList
  /-- The text spells the expression. -/
  accepted : Expression.parse embedded.source = .ok embedded.expression

/-- An embedded expression is read out of its text. -/
theorem Embedded.IsFaithful.embed {embedded : Embedded} (faithful : embedded.IsFaithful) :
    embed embedded.source.toList = .ok embedded := by
  have read := Expression.embed_of_parse faithful.accepted
  rwa [trimText, show trimChars _ = _ from faithful.trimmed, String.ofList_toList] at read

/-- An expression that was read out of its characters is the one that its text spells. -/
theorem isFaithful_of_embed {source : List Char} {embedded : Embedded} (reads : embed source = .ok embedded) :
    embedded.IsFaithful := by
  simp only [embed] at reads
  split at reads
  · rename_i expression parses
    cases reads
    refine ⟨?_, parses⟩
    rw [String.toList_ofList]
    exact isTrimmed_trimChars source
  · cases reads

namespace Segment

/-- Whether a piece is made of characters that stand for themselves. -/
def isLiteral : Segment → Bool
  -- The other pieces are expressions.
  | .literal _ => true
  | .expression _ => false

/-- Whether a piece is one that reading makes. -/
def IsNormal : Segment → Prop
  -- A literal stands for something.
  | .literal text => text ≠ ""
  | .expression embedded => embedded.IsFaithful

end Segment

/-- Whether a text is one that reading makes. -/
structure TemplateText.IsNormal (text : TemplateText) : Prop where
  /-- Every piece is one that reading makes. -/
  each : ∀ segment ∈ text, segment.IsNormal
  /-- No two literals are neighbours. -/
  apart : text.IsChain fun first second => ¬ (first.isLiteral = true ∧ second.isLiteral = true)

/-- What is left of a text that reading makes is one as well. -/
theorem TemplateText.IsNormal.tail {segment : Segment} {rest : TemplateText} (normal : IsNormal (segment :: rest)) :
    IsNormal rest :=
  ⟨(List.forall_mem_cons.mp normal.each).2, normal.apart.tail⟩

/-- Characters spell a literal if each stands for itself or follows a backslash. -/
inductive Spelled (plain : Char → Prop) : List Char → List Char → Prop where
  /-- Nothing spells nothing. -/
  | nil : Spelled plain [] []
  /-- A plain character stands for itself. -/
  | plain {c : Char} {chars text : List Char} (here : plain c) (later : Spelled plain chars text) :
    Spelled plain (c :: chars) (c :: text)
  /-- A character behind a backslash stands for what it is an escape of. -/
  | escaped (c : Char) {chars text : List Char} (later : Spelled plain chars text) :
    Spelled plain ('\\' :: c :: chars) (unescapeChar c :: text)

/-- Characters spell a text if they spell its pieces one after the other. -/
inductive Rendered (plain : Char → Prop) : List Char → TemplateText → Prop where
  /-- Nothing spells a text without pieces. -/
  | nil : Rendered plain [] []
  /-- A literal is spelled by characters that may be escaped. -/
  | literal {text : String} {chars rest : List Char} {segments : TemplateText} (here : Spelled plain chars text.toList)
    (later : Rendered plain rest segments) : Rendered plain (chars ++ rest) (.literal text :: segments)
  /-- An expression stands between its signs. -/
  | expression (embedded : Embedded) {rest : List Char} {segments : TemplateText} (later : Rendered plain rest segments) :
    Rendered plain (embeddedChars embedded.source.toList ++ rest) (.expression embedded :: segments)

/-- Whether all plain characters stand for themselves wherever they are. -/
def AreInert (plain : Char → Prop) : Prop :=
  -- The dollar sign is one only in front of a brace, but it is never needed there.
  ∀ c, plain c → c ≠ '\\' ∧ c ≠ '$'

/-- The piece that a segment is read from. -/
def Segment.raw : Segment → RawSegment
  -- Expressions are read from their text.
  | .literal text => .literal text.toList
  | .expression embedded => .expression embedded.source.toList

/-- A plain character goes to the literal in front of what follows. -/
theorem rawSegments_plain {c : Char} (inert : c ≠ '\\' ∧ c ≠ '$') (turns : Nat) (rest : List Char) :
    rawSegments (turns + 1) (c :: rest) = (rawSegments turns rest).map (consLiteral c) := by
  cases rest with
  | nil =>
    rw [rawSegments]
    all_goals simp_all
  | cons d rest =>
    rw [rawSegments]
    all_goals simp_all

/-- An expression is a piece of its own. -/
theorem rawSegments_expression {body rest after : List Char} (closed : closeExpression .start rest = some (body, after))
    (turns : Nat) :
    rawSegments (turns + 1) ('$' :: '\x7b' :: rest) = (rawSegments turns after).map (.expression body :: ·) := by
  simp only [rawSegments, closed]

section Rendering

variable {plain : Char → Prop} (inert : AreInert plain)

include inert

/-- The characters of a literal go to the literal in front of what follows. -/
theorem rawSegments_spelled {chars text : List Char} (spelled : Spelled plain chars text) {rest : List Char}
    {pieces : List RawSegment} (later : ∀ turns, rest.length ≤ turns → rawSegments turns rest = .ok pieces) {turns : Nat}
    (ample : (chars ++ rest).length ≤ turns) : rawSegments turns (chars ++ rest) = .ok (text.foldr consLiteral pieces) := by
  induction spelled generalizing turns with
  | nil => exact later turns ample
  | plain here _ more =>
    obtain ⟨turns, rfl⟩ := Nat.exists_eq_add_one_of_ne_zero (Nat.ne_of_gt (Nat.lt_of_lt_of_le (Nat.succ_pos _) ample))
    rw [List.cons_append, rawSegments_plain (inert _ here), more (Nat.le_of_succ_le_succ ample)]
    rfl
  | escaped c _ more =>
    obtain ⟨turns, rfl⟩ := Nat.exists_eq_add_one_of_ne_zero (Nat.ne_of_gt (Nat.lt_of_lt_of_le (Nat.succ_pos _) ample))
    rw [List.cons_append, List.cons_append, rawSegments, more (Nat.le_of_succ_le (Nat.le_of_succ_le_succ ample))]
    rfl

omit inert in
/-- Characters in front of no literal make up one. -/
theorem foldr_consLiteral {pieces : List RawSegment} (apart : ∀ text rest, pieces ≠ .literal text :: rest) (c : Char)
    (text : List Char) : (c :: text).foldr consLiteral pieces = .literal (c :: text) :: pieces := by
  induction text generalizing c with
  | nil =>
    rw [List.foldr_cons, List.foldr_nil, consLiteral]
    exact apart
  | cons d text later => rw [List.foldr_cons, later, consLiteral]

/-- The pieces of a text are read one by one. -/
theorem rawSegments_rendered {chars : List Char} {segments : TemplateText} (rendered : Rendered plain chars segments)
    (normal : segments.IsNormal) {turns : Nat} (ample : chars.length ≤ turns) :
    rawSegments turns chars = .ok (segments.map Segment.raw) := by
  induction rendered generalizing turns with
  | nil => cases turns <;> rfl
  | @literal text chars rest segments here _ later =>
    rw [rawSegments_spelled inert here (fun turns ample => later normal.tail ample) ample]
    have some : text ≠ "" := normal.each _ List.mem_cons_self
    obtain ⟨c, others, start⟩ := List.exists_cons_of_ne_nil (by simpa using some : text.toList ≠ [])
    have apart : ∀ text rest, segments.map Segment.raw ≠ .literal text :: rest := by
      rintro text rest same
      cases segments with
      | nil => cases same
      | cons segment segments =>
        cases segment with
        | literal text => exact (List.isChain_cons_cons.mp normal.apart).1 ⟨rfl, rfl⟩
        | expression embedded => cases same
    rw [start, foldr_consLiteral apart, List.map_cons, Segment.raw, start]
  | @expression embedded rest segments _ later =>
    have faithful : embedded.IsFaithful := normal.each _ List.mem_cons_self
    have closed := (Expression.balanced_of_parse faithful.accepted).closeExpression rest
    have split : embeddedChars embedded.source.toList ++ rest =
        '$' :: '\x7b' :: (embedded.source.toList ++ '\x7d' :: rest) := by simp [embeddedChars]
    rw [split] at ample ⊢
    obtain ⟨turns, rfl⟩ := Nat.exists_eq_add_one_of_ne_zero (Nat.ne_of_gt (Nat.lt_of_lt_of_le (Nat.succ_pos _) ample))
    rw [rawSegments_expression closed, later normal.tail (by simp at ample; omega)]
    rfl

omit inert in
/-- The pieces of a text that reading makes are read into that text. -/
theorem mapM_raw {segments : TemplateText} (normal : segments.IsNormal) :
    (segments.map Segment.raw).mapM RawSegment.read = .ok segments := by
  induction segments with
  | nil => rfl
  | cons segment segments later =>
    have here : segment.raw.read = .ok segment := by
      cases segment with
      | literal text => simp [Segment.raw, RawSegment.read]
      | expression embedded =>
        have faithful : embedded.IsFaithful := normal.each _ List.mem_cons_self
        simp only [Segment.raw, RawSegment.read, faithful.embed]
        rfl
    rw [List.map_cons, List.mapM_cons, here, later normal.tail]
    rfl

/-- A text is read back from the characters that spell it. -/
theorem TemplateText.parse_rendered {chars : List Char} {segments : TemplateText} (rendered : Rendered plain chars segments)
    (normal : segments.IsNormal) : TemplateText.parse (String.ofList chars) = .ok segments := by
  simp only [TemplateText.parse, String.toList_ofList, rawSegments_rendered inert rendered normal (Nat.le_refl _)]
  exact mapM_raw normal

end Rendering

/-- Whether a piece of a text is a literal. -/
def RawSegment.isLiteral : RawSegment → Bool
  -- The other pieces are expressions.
  | .literal _ => true
  | .expression _ => false

/-- Whether pieces are as cutting a text makes them. -/
structure AreCut (pieces : List RawSegment) : Prop where
  /-- No literal is empty. -/
  some : .literal [] ∉ pieces
  /-- No two literals are neighbours. -/
  apart : pieces.IsChain fun first second => ¬ (first.isLiteral = true ∧ second.isLiteral = true)

/-- A character in front of pieces makes no neighbours of literals. -/
theorem AreCut.consLiteral {pieces : List RawSegment} (cut : AreCut pieces) (c : Char) : AreCut (consLiteral c pieces) := by
  unfold Phrasebook.consLiteral
  split
  · rename_i text rest
    obtain ⟨next, chain⟩ := List.isChain_cons.mp cut.apart
    refine ⟨?_, List.isChain_cons.mpr ⟨next, chain⟩⟩
    rintro (_ | ⟨_, inside⟩)
    exact cut.some (List.mem_cons_of_mem _ inside)
  · rename_i other
    refine ⟨?_, List.isChain_cons.mpr ⟨fun next first => ?_, cut.apart⟩⟩
    · rintro (_ | ⟨_, inside⟩)
      exact cut.some inside
    · rintro ⟨_, literal⟩
      obtain ⟨rest, rfl⟩ := List.head?_eq_some_iff.mp first
      cases next with
      | literal text => exact other text rest rfl
      | expression source => cases literal

/-- Cutting a text leaves no literals empty or beside each other. -/
theorem areCut_of_rawSegments {turns : Nat} {text : List Char} {pieces : List RawSegment}
    (cut : rawSegments turns text = .ok pieces) : AreCut pieces := by
  have none : AreCut [] := ⟨List.not_mem_nil, .nil⟩
  -- Whatever is put in front of the later pieces keeps them as they should be.
  have further {turns : Nat} {rest : List Char} {pieces : List RawSegment} {change : List RawSegment → List RawSegment}
      (keeps : ∀ pieces, AreCut pieces → AreCut (change pieces))
      (later : ∀ {pieces}, rawSegments turns rest = .ok pieces → AreCut pieces)
      (cut : (rawSegments turns rest).map change = .ok pieces) : AreCut pieces := by
    obtain ⟨others, read, rfl⟩ := map_eq_ok.mp cut
    exact keeps others (later read)
  fun_induction rawSegments turns text generalizing pieces with
  | case1 => cases cut; exact none
  | case2 => cases cut; exact none
  | case3 turns c rest later => exact further (fun _ areCut => areCut.consLiteral _) later cut
  | case4 => cases cut
  | case5 turns rest body after closed later =>
    refine further (fun others areCut => ?_) later cut
    refine ⟨?_, List.isChain_cons.mpr ⟨fun _ _ => nofun, areCut.apart⟩⟩
    rintro (_ | ⟨_, inside⟩)
    exact areCut.some inside
  | case6 turns c rest _ _ later => exact further (fun _ areCut => areCut.consLiteral _) later cut

/-- A piece is read as a piece of its own kind, and as one that reading makes. -/
theorem isNormal_of_read {piece : RawSegment} {segment : Segment} (some : piece ≠ .literal [])
    (reads : piece.read = .ok segment) : segment.IsNormal ∧ segment.isLiteral = piece.isLiteral := by
  cases piece with
  | literal text =>
    cases reads
    refine ⟨fun none => some ?_, rfl⟩
    rw [String.ofList_eq_empty_iff.mp none]
  | expression source =>
    obtain ⟨embedded, embeds, rfl⟩ := map_eq_ok.mp reads
    exact ⟨isFaithful_of_embed embeds, rfl⟩

/-- Pieces that cutting makes are read into a text that reading makes. -/
theorem isNormal_of_mapM {pieces : List RawSegment} {segments : TemplateText} (cut : AreCut pieces)
    (reads : pieces.mapM RawSegment.read = .ok segments) :
    segments.IsNormal ∧ segments.map Segment.isLiteral = pieces.map RawSegment.isLiteral := by
  induction pieces generalizing segments with
  | nil =>
    cases reads
    exact ⟨⟨nofun, .nil⟩, rfl⟩
  | cons piece rest later =>
    obtain ⟨segment, segments, rfl, first, others⟩ := mapM_cons_eq_ok.mp reads
    obtain ⟨next, chain⟩ := List.isChain_cons.mp cut.apart
    obtain ⟨normal, kind⟩ := isNormal_of_read (fun none => cut.some (none ▸ List.mem_cons_self)) first
    obtain ⟨others, kinds⟩ := later ⟨fun none => cut.some (List.mem_cons_of_mem _ none), chain⟩ others
    refine ⟨⟨List.forall_mem_cons.mpr ⟨normal, others.each⟩, List.isChain_cons.mpr ⟨?_, others.apart⟩⟩, ?_⟩
    · -- The neighbour is a literal exactly if the piece that it is read from is one.
      intro neighbour here
      have kind' : some neighbour.isLiteral = rest.head?.map RawSegment.isLiteral := by
        rw [← List.head?_map, ← kinds, List.head?_map, Option.mem_def.mp here]
        rfl
      obtain ⟨piece', here', same⟩ := Option.map_eq_some_iff.mp kind'.symm
      rw [kind, ← same]
      exact next piece' here'
    · rw [List.map_cons, List.map_cons, kind, kinds]

/-- A text that was read is one that reading makes. -/
theorem TemplateText.isNormal_of_parse {source : String} {text : TemplateText} (reads : TemplateText.parse source = .ok text) :
    text.IsNormal := by
  simp only [TemplateText.parse] at reads
  split at reads
  · cases reads
  · rename_i pieces cut
    exact (isNormal_of_mapM (areCut_of_rawSegments cut) reads).1

/-- The characters of a piece, with a backslash in front of every character of a literal that needs one. -/
def Segment.render : Segment → List Char
  -- The backslash and the dollar sign do.
  | .literal text => text.toList.flatMap fun c => if c = '\\' ∨ c = '$' then ['\\', c] else [c]
  | .expression embedded => embeddedChars embedded.source.toList

/-- The characters of a text. -/
def TemplateText.render (text : TemplateText) : List Char :=
  -- Nothing stands between the pieces.
  text.flatMap Segment.render

/-- The characters of a text spell it. -/
theorem TemplateText.rendered (text : TemplateText) : Rendered (fun c => c ≠ '\\' ∧ c ≠ '$') text.render text := by
  -- Each character of a literal stands for itself, with or without the backslash.
  have spelled (chars : List Char) : Spelled (fun c => c ≠ '\\' ∧ c ≠ '$')
      (chars.flatMap fun c => if c = '\\' ∨ c = '$' then ['\\', c] else [c]) chars := by
    induction chars with
    | nil => exact .nil
    | cons c chars later =>
      rw [List.flatMap_cons]
      by_cases special : c = '\\' ∨ c = '$'
      · have itself : unescapeChar c = c := by rcases special with rfl | rfl <;> rfl
        rw [if_pos special]
        have whole := Spelled.escaped c later
        rwa [itself] at whole
      · rw [if_neg special]
        exact .plain (not_or.mp special) later
  induction text with
  | nil => exact .nil
  | cons segment text later =>
    rw [TemplateText.render, List.flatMap_cons]
    cases segment with
    | literal text => exact .literal (spelled text.toList) later
    | expression embedded => exact .expression embedded later

/-- The texts that reading makes are those that are read back from their characters; a condition is read from the text of
its expression, bare or between signs; and the brace behind an expression is found whatever follows. -/
theorem TemplateText.parse_render :
    (∀ text : TemplateText, text.IsNormal → TemplateText.parse (String.ofList text.render) = .ok text) ∧
      (∀ (source : String) (text : TemplateText), TemplateText.parse source = .ok text → text.IsNormal) ∧
      ∀ (source : String) (expression : Expression), Expression.parse source = .ok expression →
        (∀ lead trail : List Char, (∀ c ∈ lead, isBlank c = true) → (∀ c ∈ trail, isBlank c = true) →
          parseCondition (String.ofList (lead ++ source.toList ++ trail)) = .ok ⟨trimText source, expression⟩ ∧
            parseCondition (String.ofList (lead ++ embeddedChars source.toList ++ trail)) =
              .ok ⟨trimText source, expression⟩) ∧
          ∀ after, closeExpression .start (source.toList ++ '\x7d' :: after) = some (source.toList, after) := by
  refine ⟨fun text normal => ?_, fun source text reads => isNormal_of_parse reads, fun source expression accepted => ⟨?_, ?_⟩⟩
  · exact parse_rendered (fun _ inert => inert) text.rendered normal
  · intro lead trail blank blank'
    exact ⟨Expression.parseCondition_bare accepted blank blank', Expression.parseCondition_enclosed accepted blank blank'⟩
  · exact (Expression.balanced_of_parse accepted).closeExpression

/-- A sum with a brace between quotes. -/
def taxed : Embedded :=
  -- The brace does not close the expression.
  ⟨"\x27\x7d\x27 + tax", .binary .add (.literal (.str "\x7d")) (.variable "tax")⟩

/-- The sum is the one that its text spells. -/
theorem isFaithful_taxed : taxed.IsFaithful := by
  have spelled : taxed.expression.Everywhere Expression.IsSpelled := by
    rw [taxed, Expression.everywhere_binary, Expression.everywhere_literal, Expression.everywhere_variable]
    exact ⟨trivial, trivial, by decide, by decide⟩
  have none : ∀ c ∈ ([] : List Char), isBlank c = true := nofun
  have text : String.ofList ([] ++ taxed.expression.print spacedStyle ++ []) = taxed.source := by decide
  have read := Expression.parse_of_isSpelled spacedStyle spelled none none
  have tight : trimChars taxed.source.toList = taxed.source.toList := by decide
  rw [text] at read
  exact ⟨tight, read⟩

/-- A text with both escapes and that sum. -/
def priceTag : TemplateText :=
  [.literal "5$ = \\", .expression taxed]

/-- The text is read back, its expression is a condition, and the brace between quotes does not close it. -/
theorem priceTag_reads_back :
    TemplateText.parse "5\\$ = \\\\$\x7b\x27\x7d\x27 + tax\x7d" = .ok priceTag ∧ priceTag.IsNormal ∧
      parseCondition " \x27\x7d\x27 + tax" = .ok taxed ∧
      parseCondition " $\x7b\x27\x7d\x27 + tax\x7d" = .ok taxed ∧
      closeExpression .start (taxed.source.toList ++ ['\x7d', '\x7d']) = some (taxed.source.toList, ['\x7d']) := by
  have trimmed : trimText taxed.source = taxed.source := by decide
  have some : "5$ = \\" ≠ "" := by decide
  have normal : priceTag.IsNormal :=
    ⟨List.forall_mem_cons.mpr ⟨some, List.forall_mem_singleton.mpr isFaithful_taxed⟩,
      List.isChain_cons_cons.mpr ⟨nofun, .singleton _⟩⟩
  have whole := TemplateText.parse_render.1 priceTag normal
  obtain ⟨condition, closes⟩ := TemplateText.parse_render.2.2 _ _ isFaithful_taxed.accepted
  obtain ⟨bare, enclosed⟩ := condition [' '] [] (by decide) nofun
  have texts : String.ofList priceTag.render = "5\\$ = \\\\$\x7b\x27\x7d\x27 + tax\x7d" ∧
      String.ofList ([' '] ++ taxed.source.toList ++ []) = " \x27\x7d\x27 + tax" ∧
      String.ofList ([' '] ++ embeddedChars taxed.source.toList ++ []) = " $\x7b\x27\x7d\x27 + tax\x7d" := by
    decide
  rw [texts.1] at whole
  rw [texts.2.1, trimmed] at bare
  rw [texts.2.2, trimmed] at enclosed
  exact ⟨whole, TemplateText.parse_render.2.1 _ _ whole, bare, enclosed, closes ['\x7d']⟩

end Phrasebook
