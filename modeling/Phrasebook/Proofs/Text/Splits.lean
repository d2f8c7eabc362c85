import Phrasebook.Proofs.Text.Separators

/-! Texts are split between their tokens, so that the parts are read into what the whole is read into. -/

namespace Phrasebook

section Splits

variable {separator : Char} (inert : separator ≠ '\\' ∧ separator ≠ '$')

include inert

/-- A character that stands for itself is passed unless it is the separator. -/
theorem cutAtSeparator_of_isPlainBefore {c : Char} {rest : List Char} (alone : IsPlainBefore c rest) (turns : Nat) :
    cutAtSeparator separator (turns + 1) (c :: rest) =
      if c = separator then ([], some rest)
      else (c :: (cutAtSeparator separator turns rest).1, (cutAtSeparator separator turns rest).2) := by
  by_cases slash : c = '\\'
  · obtain rfl := alone.1 slash
    subst slash
    rw [if_neg inert.1.symm]
    cases turns <;> rfl
  · by_cases dollar : c = '$'
    · subst dollar
      rw [if_neg inert.2.symm]
      conv => lhs; unfold cutAtSeparator
      have apart : ('$' == separator) = false := beq_false_of_ne inert.2.symm
      simp only [show ('$' == '\\') = false by decide, Bool.false_eq_true, if_false, apart]
      split
      · rename_i found
        split at found
        · exact absurd rfl (alone.2 rfl _)
        · cases found
      · rfl
    · exact cutAtSeparator_plain ⟨slash, dollar⟩ turns rest

/-- A text is not cut, or between two of its tokens at the first that is the separator. -/
theorem Scan.cut {text : List Char} {tokens : List Token} (scan : Scan text tokens []) :
    (.plain separator ∉ tokens ∧ CutsTo separator text text none) ∨
      ∃ front back, tokens = front ++ .plain separator :: back ∧ .plain separator ∉ front ∧
        Scan (tokensChars front) front [] ∧ Scan (tokensChars back) back [] ∧
          CutsTo separator text (tokensChars front) (some (tokensChars back)) := by
  generalize ended : ([] : List Char) = left at scan
  induction scan with
  | finish => exact .inl ⟨List.not_mem_nil, cutsTo_nil⟩
  | unclosed => cases ended
  | escaped c _ later =>
    rcases later ended with ⟨none, cuts⟩ | ⟨front, back, rfl, none, scan, scan', cuts⟩
    · exact .inl ⟨by simpa using none, passed_escaped c _ _ _ cuts⟩
    · exact .inr ⟨.escaped c :: front, back, rfl, by simpa using none, .escaped c scan, scan', passed_escaped c _ _ _ cuts⟩
  | expression closed _ later =>
    rcases later ended with ⟨none, cuts⟩ | ⟨front, back, rfl, none, scan, scan', cuts⟩
    · exact .inl ⟨by simpa using none, passed_embeddedChars closed _ _ _ cuts⟩
    · exact .inr ⟨.expression _ :: front, back, rfl, by simpa using none, .expression closed scan, scan',
        passed_embeddedChars closed _ _ _ cuts⟩
  | @plain c rest left tokens alone scan later =>
    subst ended
    by_cases here : c = separator
    · subst here
      have same : rest = tokensChars tokens := by simpa using scan.eq_append
      subst same
      refine .inr ⟨[], tokens, rfl, List.not_mem_nil, .finish, scan, fun turns ample => ?_⟩
      obtain ⟨turns, rfl⟩ := Nat.exists_eq_add_one_of_ne_zero (Nat.ne_of_gt (Nat.lt_of_lt_of_le (Nat.succ_pos _) ample))
      rw [cutAtSeparator_of_isPlainBefore inert alone, if_pos rfl]
      rfl
    · have further {before : List Char} {cut : Option (List Char)} (cuts : CutsTo separator rest before cut) :
          CutsTo separator (c :: rest) (c :: before) cut := by
        intro turns ample
        obtain ⟨turns, rfl⟩ := Nat.exists_eq_add_one_of_ne_zero (Nat.ne_of_gt (Nat.lt_of_lt_of_le (Nat.succ_pos _) ample))
        rw [cutAtSeparator_of_isPlainBefore inert alone, if_neg here, cuts turns (Nat.le_of_succ_le_succ ample)]
      have other {tokens : List Token} (none : .plain separator ∉ tokens) : .plain separator ∉ Token.plain c :: tokens := by
        simp [none, Ne.symm here]
      rcases later rfl with ⟨none, cuts⟩ | ⟨front, back, rfl, none, scan', scan'', cuts⟩
      · exact .inl ⟨other none, further cuts⟩
      · -- In front of the separator the character stands for itself as it does in the whole.
        have whole : rest = tokensChars front ++ separator :: tokensChars back := by
          simpa [tokensChars, Token.chars] using scan.eq_append
        have alone' : IsPlainBefore c (tokensChars front) := by
          refine ⟨fun slash => ?_, fun dollar inner same => ?_⟩
          · simp [alone.1 slash] at whole
          · rw [same] at whole
            exact alone.2 dollar _ whole
        exact .inr ⟨.plain c :: front, back, rfl, other none, .plain alone' scan', scan'', further cuts⟩

/-- Whether a text is split between its tokens, at all those that are the separator. -/
structure SplitsTo (separator : Char) (tokens : List Token) (parts : List (List Token)) : Prop where
  /-- The separators between the parts are all that is left out. -/
  joined : List.intercalate [.plain separator] parts = tokens
  /-- Each part is scanned alone as it is in the whole, and has no separator in it. -/
  each : ∀ part ∈ parts, Scan (tokensChars part) part [] ∧ .plain separator ∉ part

omit inert in
/-- The characters of parts with separators between them are those of the whole. -/
theorem tokensChars_intercalate (separator : Char) (parts : List (List Token)) :
    tokensChars (List.intercalate [.plain separator] parts) = List.intercalate [separator] (parts.map tokensChars) := by
  induction parts with
  | nil => rfl
  | cons part parts later =>
    cases parts with
    | nil => simp [tokensChars]
    | cons next parts =>
      rw [List.intercalate_cons_cons, List.map_cons, List.map_cons, List.intercalate_cons_cons, ← List.map_cons, ← later]
      simp [tokensChars, Token.chars]

/-- The pieces of a text are the characters of the parts that its tokens are split into. -/
theorem splitPieces_of_scan {text : List Char} {tokens : List Token} (scan : Scan text tokens []) {turns : Nat}
    (ample : text.length ≤ turns) :
    ∃ parts, splitPieces separator turns text = parts.map tokensChars ∧ parts ≠ [] ∧ SplitsTo separator tokens parts := by
  have chars {text : List Char} {tokens : List Token} (scan : Scan text tokens []) : tokensChars tokens = text := by
    simpa using scan.eq_append.symm
  have alone {text : List Char} {tokens : List Token} (scan : Scan text tokens []) (none : .plain separator ∉ tokens) :
      SplitsTo separator tokens [tokens] :=
    ⟨List.intercalate_singleton, List.forall_mem_singleton.mpr ⟨(chars scan).symm ▸ scan, none⟩⟩
  induction turns generalizing text tokens with
  | zero =>
    obtain rfl := List.eq_nil_of_length_eq_zero (Nat.le_zero.mp ample)
    obtain ⟨rfl, -⟩ := scan.of_nil
    exact ⟨[[]], rfl, List.cons_ne_nil _ _, alone scan List.not_mem_nil⟩
  | succ turns later =>
    rw [splitPieces]
    rcases scan.cut inert with ⟨none, cuts⟩ | ⟨front, back, rfl, none, scan', scan'', cuts⟩
    · rw [cuts _ (Nat.le_refl _)]
      exact ⟨[tokens], by simp [chars scan], List.cons_ne_nil _ _, alone scan none⟩
    · rw [cuts _ (Nat.le_refl _)]
      have shorter : (tokensChars back).length ≤ turns := by
        rw [← chars scan] at ample
        simp [tokensChars, Token.chars] at ample ⊢
        omega
      obtain ⟨parts, pieces, some, joined, each⟩ := later scan'' shorter
      refine ⟨front :: parts, by simp [pieces], List.cons_ne_nil _ _, ?_, List.forall_mem_cons.mpr ⟨⟨scan', none⟩, each⟩⟩
      obtain ⟨next, parts, rfl⟩ := List.exists_cons_of_ne_nil some
      rw [List.intercalate_cons_cons, joined]
      simp

/-- A text is split once where it is split first, if it is split at all. -/
theorem splitOnce_of_scan {text : List Char} {tokens : List Token} (scan : Scan text tokens []) :
    splitOnce separator text =
      match splitAll separator text with
      | first :: second :: rest => some (first, List.intercalate [separator] (second :: rest))
      | _ => none := by
  rw [splitOnce, splitAll]
  rcases scan.cut inert with ⟨-, cuts⟩ | ⟨front, back, rfl, -, scan', scan'', cuts⟩
  · rw [cuts _ (Nat.le_refl _)]
    cases turns : text.length with
    | zero => rfl
    | succ more => rw [splitPieces, cuts _ (Nat.le_refl _)]
  · have whole : text = tokensChars front ++ separator :: tokensChars back := by
      simpa [tokensChars, Token.chars] using scan.eq_append
    have size : text.length = (tokensChars front).length + (tokensChars back).length + 1 := by
      rw [whole, List.length_append, List.length_cons]
      omega
    obtain ⟨parts, pieces, some, joined, -⟩ := splitPieces_of_scan inert scan''
      (show _ ≤ (tokensChars front).length + (tokensChars back).length by omega)
    obtain ⟨next, parts, rfl⟩ := List.exists_cons_of_ne_nil some
    have behind : tokensChars back = List.intercalate [separator] (tokensChars next :: parts.map tokensChars) := by
      rw [← joined, tokensChars_intercalate, List.map_cons]
    have split : splitPieces separator text.length text = tokensChars front :: tokensChars next :: parts.map tokensChars := by
      rw [size, splitPieces, cuts _ (Nat.le_refl _)]
      exact congrArg (tokensChars front :: ·) pieces
    rw [cuts _ (Nat.le_refl _), split, behind]

end Splits

/-- A text that starts with a joined piece is joined to what follows as if the piece stood alone. -/
theorem Segment.foldr_join (segment : Segment) (text rest : TemplateText) :
    (Segment.join segment text).foldr Segment.join rest = Segment.join segment (text.foldr Segment.join rest) := by
  match segment, text with
  | .literal front, .literal back :: others =>
    rw [List.foldr_cons, Segment.join_join]
    rfl
  | .literal front, [] => rfl
  | .literal front, .expression embedded :: others => rfl
  | .expression embedded, text => rfl

namespace TemplateText

/-- It does not matter whether a text is joined before more is put behind it. -/
theorem merged_append (text rest : TemplateText) : merged (merged text ++ rest) = merged (text ++ rest) := by
  unfold merged
  rw [List.foldr_append, List.foldr_append]
  induction text with
  | nil => rfl
  | cons segment text same => rw [List.foldr_cons, List.foldr_cons, Segment.foldr_join, same]

/-- It does not matter whether texts are joined before they are put in a row. -/
theorem merged_intercalate (separator : Segment) (texts : List TemplateText) :
    merged (List.intercalate [separator] (texts.map merged)) = merged (List.intercalate [separator] texts) := by
  induction texts with
  | nil => rfl
  | cons text texts same =>
    cases texts with
    | nil =>
      have alone := merged_append text []
      simpa using alone
    | cons next texts =>
      rw [List.map_cons, List.map_cons, List.intercalate_cons_cons, List.intercalate_cons_cons, ← List.map_cons,
        List.append_assoc, merged_append, List.append_assoc]
      unfold merged at same ⊢
      rw [List.foldr_append, List.foldr_append, List.foldr_append, List.foldr_append, same]

/-- Parts of a text that is read are read, with the separators between them as characters that stand for themselves. -/
theorem exists_texts (separator : Char) {parts : List (List Token)} {segments : TemplateText}
    (reads : (List.intercalate [.plain separator] parts).mapM Token.read = .ok segments) :
    ∃ texts, List.Forall₂ (fun part text => part.mapM Token.read = .ok text) parts texts ∧
      List.intercalate [.literal (String.singleton separator)] texts = segments := by
  induction parts generalizing segments with
  | nil =>
    cases reads
    exact ⟨[], .nil, rfl⟩
  | cons part parts later =>
    cases parts with
    | nil =>
      rw [List.intercalate_singleton] at reads
      exact ⟨[segments], .cons reads .nil, List.intercalate_singleton⟩
    | cons next parts =>
      rw [List.intercalate_cons_cons, List.append_assoc, List.mapM_append] at reads
      obtain ⟨text, here, reads⟩ := bind_eq_ok.mp reads
      obtain ⟨_, behind, ⟨⟩⟩ := bind_eq_ok.mp reads
      obtain ⟨_, rest, rfl, ⟨⟩, others⟩ := mapM_cons_eq_ok.mp behind
      obtain ⟨texts, each, rfl⟩ := later others
      obtain ⟨second, texts, -, -, rfl⟩ := List.forall₂_cons_left_iff.mp each
      refine ⟨text :: second :: texts, .cons here each, ?_⟩
      rw [List.intercalate_cons_cons, List.append_assoc]
      rfl

/-- Parts that are scanned to their ends are read each on its own. -/
theorem parse_parts {parts : List (List Token)} {texts : List TemplateText}
    (each : ∀ part ∈ parts, Scan (tokensChars part) part [])
    (reads : List.Forall₂ (fun part text => part.mapM Token.read = .ok text) parts texts) :
    parts.map (fun part => TemplateText.parse (String.ofList (tokensChars part))) = texts.map (.ok ∘ merged) := by
  induction reads with
  | nil => rfl
  | @cons part text parts texts here _ later =>
    obtain ⟨alone, others⟩ := List.forall_mem_cons.mp each
    have scan : Scan (String.ofList (tokensChars part)).toList part [] := by
      rw [String.toList_ofList]
      exact alone
    have parses : TemplateText.parse (String.ofList (tokensChars part)) = .ok (merged text) := by
      rw [parse_of_scan scan, if_pos rfl, here]
      rfl
    rw [List.map_cons, List.map_cons, later others, parses]
    rfl

/-- A text that is read is split into parts that are read. They come to the text again with the separators between them, and no
escaped character and no expression is cut. The first of the cuts is the one at which the text is split once. -/
theorem parse_splitAll {separator : Char} (either : separator ∈ ['|', '=']) {text : String} {segments : TemplateText}
    (accepted : TemplateText.parse text = .ok segments) :
    (∃ texts : List TemplateText,
      (splitAll separator text.toList).map (fun part => TemplateText.parse (String.ofList part)) = texts.map .ok ∧
        merged (List.intercalate [.literal (String.singleton separator)] texts) = segments) ∧
      (∃ parts : List (List Token), splitAll separator text.toList = parts.map tokensChars ∧
        Scan text.toList (List.intercalate [.plain separator] parts) [] ∧
          ∀ part ∈ parts, Scan (tokensChars part) part [] ∧ .plain separator ∉ part) ∧
      List.intercalate [separator] (splitAll separator text.toList) = text.toList ∧
      splitOnce separator text.toList =
        match splitAll separator text.toList with
        | first :: second :: rest => some (first, List.intercalate [separator] (second :: rest))
        | _ => none := by
  have inert : separator ≠ '\\' ∧ separator ≠ '$' := by
    simp only [List.mem_cons, List.not_mem_nil, or_false] at either
    rcases either with rfl | rfl <;> decide
  obtain ⟨tokens, left, scan⟩ := exists_scan text.toList
  have reads := parse_of_scan scan
  rw [accepted] at reads
  by_cases done : left = []
  · subst done
    rw [if_pos rfl] at reads
    obtain ⟨parts, pieces, -, joined, each⟩ := splitPieces_of_scan inert scan (Nat.le_refl _)
    cases read : tokens.mapM Token.read with
    | error error =>
      rw [read] at reads
      cases reads
    | ok whole =>
      rw [read] at reads
      cases reads
      obtain ⟨texts, single, rfl⟩ := exists_texts separator (joined ▸ read)
      have split : splitAll separator text.toList = parts.map tokensChars := pieces
      refine ⟨⟨texts.map merged, ?_, merged_intercalate _ texts⟩, ⟨parts, split, joined.symm ▸ scan, each⟩, ?_,
        splitOnce_of_scan inert scan⟩
      · rw [split, List.map_map, List.map_map]
        exact parse_parts (fun part held => (each part held).1) single
      · rw [split, ← tokensChars_intercalate, joined]
        simpa using scan.eq_append.symm
  · rw [if_neg done] at reads
    cases reads

end TemplateText

/-- A choice between two drinks. -/
def tempered : Embedded :=
  -- The bars are an operator.
  ⟨"hot || iced", .binary .or (.variable "hot") (.variable "iced")⟩

/-- The choice is the one that its text spells. -/
theorem isFaithful_tempered : tempered.IsFaithful := by
  have spelled : tempered.expression.Everywhere Expression.IsSpelled := by
    rw [tempered, Expression.everywhere_binary, Expression.everywhere_variable, Expression.everywhere_variable]
    exact ⟨trivial, ⟨by decide, by decide⟩, by decide, by decide⟩
  have none : ∀ c ∈ ([] : List Char), isBlank c = true := nofun
  have text : String.ofList ([] ++ tempered.expression.print spacedStyle ++ []) = tempered.source := by decide
  have read := Expression.parse_of_isSpelled spacedStyle spelled none none
  have tight : trimChars tempered.source.toList = tempered.source.toList := by decide
  rw [text] at read
  exact ⟨tight, read⟩

/-- A drink in front of that choice, with a bar in its name. -/
def drinks : TemplateText :=
  [.literal "tea||", .expression tempered]

/-- The text of the drinks is cut at the bar that is neither escaped nor part of the expression. -/
theorem drinks_split :
    TemplateText.parse "tea\\||$\x7bhot || iced\x7d" = .ok drinks ∧
      (∃ texts : List TemplateText,
        [TemplateText.parse "tea\\|", TemplateText.parse "$\x7bhot || iced\x7d"] = texts.map .ok ∧
          TemplateText.merged (List.intercalate [.literal "|"] texts) = drinks) ∧
      splitOnce '|' "tea\\||$\x7bhot || iced\x7d".toList = some ("tea\\|".toList, "$\x7bhot || iced\x7d".toList) := by
  have inert : AreInert fun c => c ≠ '\\' ∧ c ≠ '$' := fun _ inert => inert
  have some : "tea||" ≠ "" := by decide
  have normal : drinks.IsNormal :=
    ⟨List.forall_mem_cons.mpr ⟨some, List.forall_mem_singleton.mpr isFaithful_tempered⟩,
      List.isChain_cons_cons.mpr ⟨nofun, .singleton _⟩⟩
  have name : Spelled (fun c => c ≠ '\\' ∧ c ≠ '$') "tea\\||".toList "tea||".toList :=
    .plain (by decide) (.plain (by decide) (.plain (by decide) (.escaped '|' (.plain (by decide) .nil))))
  have accepted : TemplateText.parse "tea\\||$\x7bhot || iced\x7d" = .ok drinks :=
    TemplateText.parse_rendered inert (.literal name (.expression tempered .nil)) normal
  have bar : '|' ∈ ['|', '='] := by decide
  obtain ⟨parses, -, -, once⟩ := TemplateText.parse_splitAll bar accepted
  have cut : splitAll '|' "tea\\||$\x7bhot || iced\x7d".toList = ["tea\\|".toList, "$\x7bhot || iced\x7d".toList] := by
    decide
  rw [cut] at parses once
  exact ⟨accepted, parses, once⟩

end Phrasebook
