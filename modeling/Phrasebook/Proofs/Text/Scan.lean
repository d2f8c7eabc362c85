import Phrasebook.Proofs.Text.RoundTrip

/-! A text is scanned from left to right into tokens, and what reading it comes to can be told from these. -/

namespace Phrasebook

/-- A part of a text that a scan passes over as a whole. -/
inductive Token where
  /-- A character that stands for itself. -/
  | plain (c : Char)
  /-- A character behind a backslash. -/
  | escaped (c : Char)
  /-- What stands between the signs of an expression. -/
  | expression (body : List Char)
  deriving DecidableEq

/-- The characters of a token. -/
def Token.chars : Token → List Char
  -- The backslash and the signs of an expression belong to the token.
  | .plain c => [c]
  | .escaped c => ['\\', c]
  | .expression body => embeddedChars body

/-- The characters of several tokens in a row. -/
def tokensChars (tokens : List Token) : List Char :=
  -- Nothing stands between them.
  tokens.flatMap Token.chars

/-- Whether all quotes and braces that are opened in a text are closed in it, and no others. -/
def IsClosed (body : List Char) : Prop :=
  -- A brace behind such a text is the one that closes the expression.
  BraceScan.start.run? body = some .start

/-- Whether a character stands for itself in front of a text. -/
def IsPlainBefore (c : Char) (rest : List Char) : Prop :=
  -- A backslash is one at the very end only, and a dollar sign everywhere but in front of a brace.
  (c = '\\' → rest = []) ∧ (c = '$' → ∀ inner, rest ≠ '\x7b' :: inner)

/-- Whether a scan of a text from left to right passes over tokens and then stops, at the end or at an opening that has no
matching close. -/
inductive Scan : List Char → List Token → List Char → Prop where
  /-- The scan stops at the end. -/
  | finish : Scan [] [] []
  /-- The scan stops at an opening that has no matching close. -/
  | unclosed {inner : List Char} (never : ∀ body after, IsClosed body → inner ≠ body ++ '\x7d' :: after) :
    Scan ('$' :: '\x7b' :: inner) [] ('$' :: '\x7b' :: inner)
  /-- A backslash takes the next character with it. -/
  | escaped (c : Char) {rest left : List Char} {tokens : List Token} (later : Scan rest tokens left) :
    Scan ('\\' :: c :: rest) (.escaped c :: tokens) left
  /-- An expression is passed over up to the brace that closes it. -/
  | expression {body after left : List Char} {tokens : List Token} (closed : IsClosed body) (later : Scan after tokens left) :
    Scan (embeddedChars body ++ after) (.expression body :: tokens) left
  /-- Every other character is passed over alone. -/
  | plain {c : Char} {rest left : List Char} {tokens : List Token} (alone : IsPlainBefore c rest)
    (later : Scan rest tokens left) : Scan (c :: rest) (.plain c :: tokens) left

/-- Outside quotes no character is escaped, and neither is one where a quote has just been closed. -/
def BraceScan.IsCalm (scan : BraceScan) : Prop :=
  -- Only inside quotes does the scan wait for an escaped character.
  scan.quote = none → scan.escaped = false

/-- No character leaves the scan waiting for an escaped one outside quotes. -/
theorem BraceScan.IsCalm.next {scan later : BraceScan} {c : Char} (calm : scan.IsCalm) (step : scan.next? c = some later) :
    later.IsCalm := by
  obtain ⟨depth, quote, escaped⟩ := scan
  unfold next? at step
  cases quote with
  | some quote =>
    cases escaped with
    | true =>
      cases step
      exact nofun
    | false =>
      simp only [Bool.false_eq_true, if_false] at step
      split at step
      · cases step
        exact nofun
      · split at step <;> cases step <;> exact fun _ => rfl
  | none =>
    obtain rfl : escaped = false := calm rfl
    dsimp only at step
    split at step
    · cases step
      exact fun _ => rfl
    · split at step
      · cases step
        exact fun _ => rfl
      · split at step
        · split at step <;> cases step
          exact fun _ => rfl
        · cases step
          exact fun _ => rfl

/-- Only a brace closes an expression, and only where no brace and no quote is open. -/
theorem BraceScan.next?_eq_none_iff {scan : BraceScan} (calm : scan.IsCalm) {c : Char} :
    scan.next? c = none ↔ c = '\x7d' ∧ scan = .start := by
  obtain ⟨depth, quote, escaped⟩ := scan
  unfold next? start
  cases quote with
  | some quote =>
    have going : ∀ scan : BraceScan, ¬ some scan = none := nofun
    dsimp only
    split
    · simp
    · split
      · simp
      · split <;> simp
  | none =>
    obtain rfl : escaped = false := calm rfl
    dsimp only
    split
    · rename_i sign
      simp only [Bool.or_eq_true, beq_iff_eq] at sign
      rcases sign with rfl | rfl <;> simp
    · split
      · rename_i opens
        rw [beq_iff_eq] at opens
        simp [opens]
      · split
        · rename_i closes
          rw [beq_iff_eq] at closes
          cases depth <;> simp [closes]
        · rename_i other
          rw [beq_iff_eq] at other
          simp [other]

/-- The brace that closes an expression is the one behind a text in which all else is closed. -/
theorem closeExpression_eq_some_iff {text body after : List Char} :
    closeExpression .start text = some (body, after) ↔ text = body ++ '\x7d' :: after ∧ IsClosed body := by
  have general (scan : BraceScan) (calm : scan.IsCalm) :
      closeExpression scan text = some (body, after) ↔ text = body ++ '\x7d' :: after ∧ scan.run? body = some .start := by
    induction text generalizing scan body with
    | nil => simp [closeExpression]
    | cons c rest later =>
      rw [closeExpression]
      cases step : scan.next? c with
      | none =>
        obtain ⟨rfl, rfl⟩ := (BraceScan.next?_eq_none_iff calm).mp step
        cases body with
        | nil => simp [BraceScan.run?]
        | cons d body =>
          -- The same brace would have to be passed over.
          have stuck : ¬ ('\x7d' :: rest = d :: body ++ '\x7d' :: after ∧ BraceScan.start.run? (d :: body) = some .start) := by
            rintro ⟨same, passed⟩
            obtain rfl := (List.cons.inj same).1
            rw [BraceScan.run?, step] at passed
            cases passed
          simpa using stuck
      | some next =>
        have further (body : List Char) : closeExpression next rest = some (body, after) ↔
            rest = body ++ '\x7d' :: after ∧ next.run? body = some .start :=
          later next (calm.next step)
        cases body with
        | nil =>
          have other : ¬ (c :: rest = [] ++ '\x7d' :: after ∧ scan.run? [] = some .start) := by
            rintro ⟨same, here⟩
            have ends := (BraceScan.next?_eq_none_iff calm).mpr ⟨(List.cons.inj same).1, Option.some.inj here⟩
            rw [step] at ends
            cases ends
          simp only [other, iff_false]
          simp
        | cons d body =>
          simp only [Option.map_eq_some_iff, Prod.exists, Prod.mk.injEq, List.cons_append, List.cons.injEq, BraceScan.run?]
          constructor
          · rintro ⟨body', after', closed, ⟨rfl, rfl⟩, rfl⟩
            obtain ⟨rfl, passed⟩ := (further _).mp closed
            exact ⟨⟨rfl, rfl⟩, by rw [step]; exact passed⟩
          · rintro ⟨⟨rfl, rfl⟩, passed⟩
            rw [step] at passed
            exact ⟨body, after, (further _).mpr ⟨rfl, passed⟩, ⟨rfl, rfl⟩, rfl⟩
  exact general .start fun _ => rfl

/-- The brace behind a text in which all else is closed is found, whatever follows. -/
theorem IsClosed.closeExpression {body : List Char} (closed : IsClosed body) (after : List Char) :
    closeExpression .start (body ++ '\x7d' :: after) = some (body, after) :=
  closeExpression_eq_some_iff.mpr ⟨rfl, closed⟩

/-- The signs of an expression stand around its text. -/
theorem embeddedChars_append (body after : List Char) :
    embeddedChars body ++ after = '$' :: '\x7b' :: (body ++ '\x7d' :: after) := by
  simp [embeddedChars]

/-- An opening that has no matching close is the start of no expression. -/
theorem closeExpression_of_unclosed {inner : List Char}
    (never : ∀ body after, IsClosed body → inner ≠ body ++ '\x7d' :: after) : closeExpression .start inner = none := by
  cases closes : closeExpression .start inner with
  | none => rfl
  | some found =>
    obtain ⟨same, closed⟩ := closeExpression_eq_some_iff.mp (show _ = some (found.1, found.2) from closes)
    exact absurd same (never found.1 found.2 closed)

/-- A scan stops at an opening behind which no closing brace is found. -/
theorem Scan.unclosed_of_none {inner : List Char} (none : closeExpression .start inner = none) :
    Scan ('$' :: '\x7b' :: inner) [] ('$' :: '\x7b' :: inner) := by
  refine .unclosed fun body after closed same => ?_
  rw [same, closed.closeExpression] at none
  cases none

/-- A character stands for itself unless it starts an escape or an expression. -/
theorem isPlainBefore_or (c : Char) (rest : List Char) :
    IsPlainBefore c rest ∨ (c = '\\' ∧ ∃ d more, rest = d :: more) ∨ (c = '$' ∧ ∃ inner, rest = '\x7b' :: inner) := by
  by_cases slash : c = '\\'
  · subst slash
    cases rest with
    | nil => exact .inl ⟨fun _ => rfl, nofun⟩
    | cons d more => exact .inr (.inl ⟨rfl, d, more, rfl⟩)
  · by_cases embeds : c = '$' ∧ ∃ inner, rest = '\x7b' :: inner
    · exact .inr (.inr embeds)
    · exact .inl ⟨fun same => absurd same slash, fun dollar inner same => embeds ⟨dollar, inner, same⟩⟩

/-- Every text can be scanned. -/
theorem exists_scan (text : List Char) : ∃ tokens left, Scan text tokens left := by
  induction size : text.length using Nat.strong_induction_on generalizing text with
  | _ size shorter =>
    subst size
    have further (rest : List Char) (less : rest.length < text.length) := shorter rest.length less rest rfl
    cases text with
    | nil => exact ⟨[], [], .finish⟩
    | cons c rest =>
      rcases isPlainBefore_or c rest with alone | ⟨rfl, d, more, rfl⟩ | ⟨rfl, inner, rfl⟩
      · obtain ⟨tokens, left, later⟩ := further rest (by simp)
        exact ⟨_, left, .plain alone later⟩
      · have less : more.length < ('\\' :: d :: more).length := by
          rw [List.length_cons, List.length_cons]
          omega
        obtain ⟨tokens, left, later⟩ := further more less
        exact ⟨_, left, .escaped d later⟩
      · cases closes : closeExpression .start inner with
        | none => exact ⟨[], _, .unclosed_of_none closes⟩
        | some found =>
          obtain ⟨rfl, closed⟩ := closeExpression_eq_some_iff.mp (show _ = some (found.1, found.2) from closes)
          obtain ⟨tokens, left, later⟩ := further found.2 (by simp; omega)
          refine ⟨.expression found.1 :: tokens, left, ?_⟩
          rw [← embeddedChars_append]
          exact .expression closed later

namespace Scan

variable {text rest left : List Char} {tokens : List Token}

/-- A scan passes over the characters of its tokens. -/
theorem eq_append (scan : Scan text tokens left) : text = tokensChars tokens ++ left := by
  induction scan with
  | finish => rfl
  | unclosed => rfl
  | escaped c _ same => rw [same]; rfl
  | expression closed _ same => rw [same, tokensChars, ← List.append_assoc]; rfl
  | plain _ _ same => rw [same]; rfl

/-- A scan stops at the end or at an opening. -/
theorem opening (scan : Scan text tokens left) : left = [] ∨ ∃ inner, left = '$' :: '\x7b' :: inner := by
  induction scan with
  | finish => exact .inl rfl
  | @unclosed inner => exact .inr ⟨inner, rfl⟩
  | escaped _ _ stops => exact stops
  | expression _ _ stops => exact stops
  | plain _ _ stops => exact stops

/-- At the end there is nothing to be scanned. -/
theorem of_nil (scan : Scan [] tokens left) : tokens = [] ∧ left = [] := by
  cases scan with
  | finish => exact ⟨rfl, rfl⟩

/-- The character behind a backslash is scanned together with it. -/
theorem of_escaped {c : Char} (scan : Scan ('\\' :: c :: rest) tokens left) :
    ∃ others, tokens = .escaped c :: others ∧ Scan rest others left := by
  cases scan with
  | escaped _ later => exact ⟨_, rfl, later⟩
  | plain alone => cases alone.1 rfl

/-- A character that stands for itself is scanned alone. -/
theorem of_plain {c : Char} (alone : IsPlainBefore c rest) (scan : Scan (c :: rest) tokens left) :
    ∃ others, tokens = .plain c :: others ∧ Scan rest others left := by
  generalize whole : c :: rest = text at scan
  cases scan with
  | finish => cases whole
  | unclosed =>
    cases whole
    exact absurd rfl (alone.2 rfl _)
  | escaped =>
    cases whole
    cases alone.1 rfl
  | expression =>
    rw [embeddedChars_append] at whole
    cases whole
    exact absurd rfl (alone.2 rfl _)
  | plain _ later =>
    cases whole
    exact ⟨_, rfl, later⟩

/-- An expression is scanned up to the brace that closes it, and one that is never closed is not scanned. -/
theorem of_expression {inner : List Char} (scan : Scan ('$' :: '\x7b' :: inner) tokens left) :
    (tokens = [] ∧ left = '$' :: '\x7b' :: inner ∧ closeExpression .start inner = none) ∨
      ∃ body after others, closeExpression .start inner = some (body, after) ∧ tokens = .expression body :: others ∧
        Scan after others left := by
  generalize whole : '$' :: '\x7b' :: inner = text at scan
  cases scan with
  | finish => cases whole
  | unclosed never =>
    cases whole
    exact .inl ⟨rfl, rfl, closeExpression_of_unclosed never⟩
  | escaped => cases whole
  | expression closed later =>
    rw [embeddedChars_append] at whole
    cases whole
    exact .inr ⟨_, _, _, closed.closeExpression _, rfl, later⟩
  | plain alone =>
    cases whole
    exact absurd rfl (alone.2 rfl _)

/-- A text is scanned in one way only. -/
theorem unique (scan : Scan text tokens left) {tokens' : List Token} {left' : List Char} (scan' : Scan text tokens' left') :
    tokens' = tokens ∧ left' = left := by
  induction scan generalizing tokens' with
  | finish => exact scan'.of_nil
  | unclosed never =>
    have none := closeExpression_of_unclosed never
    rcases scan'.of_expression with ⟨rfl, rfl, _⟩ | ⟨_, _, _, closes, _⟩
    · exact ⟨rfl, rfl⟩
    · rw [none] at closes
      cases closes
  | escaped c _ same =>
    obtain ⟨others, rfl, later⟩ := scan'.of_escaped
    obtain ⟨rfl, rfl⟩ := same later
    exact ⟨rfl, rfl⟩
  | expression closed _ same =>
    rw [embeddedChars_append] at scan'
    have some := closed.closeExpression
    rcases scan'.of_expression with ⟨_, _, closes⟩ | ⟨_, _, _, closes, rfl, later⟩
    · rw [some] at closes
      cases closes
    · rw [some] at closes
      cases closes
      obtain ⟨rfl, rfl⟩ := same later
      exact ⟨rfl, rfl⟩
  | plain alone _ same =>
    obtain ⟨others, rfl, later⟩ := scan'.of_plain alone
    obtain ⟨rfl, rfl⟩ := same later
    exact ⟨rfl, rfl⟩

end Scan

/-- Put what a token stands for in front of pieces. -/
def Token.put : Token → List RawSegment → List RawSegment
  -- A character goes to the literal there, if there is one.
  | .plain c => consLiteral c
  | .escaped c => consLiteral (unescapeChar c)
  | .expression body => (.expression body :: ·)

/-- Read a token as a piece of its own. -/
def Token.read : Token → Except TextError Segment
  -- Only expressions can be wrong.
  | .plain c => .ok (.literal (String.singleton c))
  | .escaped c => .ok (.literal (String.singleton (unescapeChar c)))
  | .expression body => (embed body).map .expression

/-- Put a piece in front of a text; two literals that meet become one. -/
def Segment.join : Segment → TemplateText → TemplateText
  -- All other pieces stay apart.
  | .literal front, .literal back :: rest => .literal (front ++ back) :: rest
  | segment, rest => segment :: rest

/-- Two literals in front of a text are joined with it as if they were one. -/
theorem Segment.join_join (front back : String) (text : TemplateText) :
    Segment.join (.literal front) (Segment.join (.literal back) text) = Segment.join (.literal (front ++ back)) text := by
  match text with
  | [] => rfl
  | .literal other :: rest => simp only [join, String.append_assoc]
  | .expression embedded :: rest => rfl

/-- Join all literals that are neighbours. -/
def TemplateText.merged (text : TemplateText) : TemplateText :=
  -- The joining starts at the end.
  text.foldr Segment.join []

/-- A character that stands for itself goes to the literal in front of what follows. -/
theorem rawSegments_of_isPlainBefore {c : Char} {rest : List Char} (alone : IsPlainBefore c rest) (turns : Nat) :
    rawSegments (turns + 1) (c :: rest) = (rawSegments turns rest).map (consLiteral c) := by
  obtain ⟨slash, dollar⟩ := alone
  cases rest with
  | nil =>
    rw [rawSegments]
    all_goals simp_all
  | cons d rest =>
    rw [rawSegments]
    all_goals simp_all

/-- The pieces of a text are what its tokens stand for, unless the scan stops at an opening. -/
theorem Scan.rawSegments {text left : List Char} {tokens : List Token} (scan : Scan text tokens left) {turns : Nat}
    (ample : text.length ≤ turns) :
    rawSegments turns text = if left = [] then .ok (tokens.foldr Token.put []) else .error left := by
  induction scan generalizing turns with
  | finish => cases turns <;> rfl
  | unclosed never =>
    obtain ⟨turns, rfl⟩ := Nat.exists_eq_add_one_of_ne_zero (Nat.ne_of_gt (Nat.lt_of_lt_of_le (Nat.succ_pos _) ample))
    simp only [Phrasebook.rawSegments, closeExpression_of_unclosed never]
    rfl
  | escaped c _ later =>
    obtain ⟨turns, rfl⟩ := Nat.exists_eq_add_one_of_ne_zero (Nat.ne_of_gt (Nat.lt_of_lt_of_le (Nat.succ_pos _) ample))
    rw [Phrasebook.rawSegments, later (by simp at ample; omega)]
    split <;> rfl
  | expression closed _ later =>
    rw [embeddedChars_append] at ample ⊢
    obtain ⟨turns, rfl⟩ := Nat.exists_eq_add_one_of_ne_zero (Nat.ne_of_gt (Nat.lt_of_lt_of_le (Nat.succ_pos _) ample))
    rw [rawSegments_expression (closed.closeExpression _), later (by simp at ample; omega)]
    split <;> rfl
  | plain alone _ later =>
    obtain ⟨turns, rfl⟩ := Nat.exists_eq_add_one_of_ne_zero (Nat.ne_of_gt (Nat.lt_of_lt_of_le (Nat.succ_pos _) ample))
    rw [rawSegments_of_isPlainBefore alone, later (by simp at ample; omega)]
    split <;> rfl

/-- A character in front of pieces is read into the literal in front of what these are read into. -/
theorem mapM_consLiteral (c : Char) (pieces : List RawSegment) :
    (consLiteral c pieces).mapM RawSegment.read =
      (pieces.mapM RawSegment.read).map (Segment.join (.literal (String.singleton c))) := by
  have alone : RawSegment.read (.literal [c]) = .ok (.literal (String.singleton c)) := by
    rw [RawSegment.read, String.singleton_eq_ofList]
  cases pieces with
  | nil =>
    have single : consLiteral c [] = [.literal [c]] := rfl
    rw [single, List.mapM_cons, alone]
    rfl
  | cons piece rest =>
    cases piece with
    | literal text =>
      have front : String.ofList (c :: text) = String.singleton c ++ String.ofList text := by
        rw [String.singleton_eq_ofList, ← String.ofList_append, List.singleton_append]
      simp only [consLiteral, List.mapM_cons, RawSegment.read, front]
      cases rest.mapM RawSegment.read <;> rfl
    | expression source =>
      have apart : consLiteral c (.expression source :: rest) = .literal [c] :: .expression source :: rest := rfl
      rw [apart, List.mapM_cons, List.mapM_cons, alone]
      simp only [RawSegment.read]
      cases embed source with
      | error error => rfl
      | ok embedded => cases rest.mapM RawSegment.read <;> rfl

/-- What tokens stand for is read into what they are read into, literals that are neighbours joined. -/
theorem mapM_put (tokens : List Token) :
    (tokens.foldr Token.put []).mapM RawSegment.read = (tokens.mapM Token.read).map TemplateText.merged := by
  induction tokens with
  | nil => rfl
  | cons token tokens later =>
    rw [List.foldr_cons, List.mapM_cons]
    generalize tokens.foldr Token.put [] = pieces at later
    -- A character is joined to what follows, and an expression is read before it.
    cases token with
    | plain c =>
      rw [Token.put, mapM_consLiteral, later]
      cases tokens.mapM Token.read <;> rfl
    | escaped c =>
      rw [Token.put, mapM_consLiteral, later]
      cases tokens.mapM Token.read <;> rfl
    | expression body =>
      simp only [Token.put, List.mapM_cons, RawSegment.read, Token.read, later]
      cases embed body with
      | error error => rfl
      | ok embedded => cases tokens.mapM Token.read <;> rfl

/-- A text is read token by token, unless the scan stops at an opening: then the column of that is told. -/
theorem TemplateText.parse_of_scan {text : String} {tokens : List Token} {left : List Char}
    (scan : Scan text.toList tokens left) :
    TemplateText.parse text =
      if left = [] then (tokens.mapM Token.read).map TemplateText.merged
      else .error (.unterminated ((tokensChars tokens).length + 1)) := by
  simp only [TemplateText.parse, scan.rawSegments (Nat.le_refl _)]
  by_cases done : left = []
  · rw [if_pos done, if_pos done]
    exact mapM_put tokens
  · have column : columnOf text.toList left = (tokensChars tokens).length + 1 := by
      rw [columnOf, scan.eq_append, List.length_append, Nat.add_sub_cancel]
    rw [if_neg done, if_neg done, ← column]

end Phrasebook
