import Phrasebook.Proofs.Reading.Spelling
import Phrasebook.Proofs.Text.Scan

/-! Pieces are read off a text up to its end, or up to an opening without a matching close; what is wrong with a text can be
told from a scan of it. -/

namespace Phrasebook

/-- Read a backslash and the character that it escapes. -/
def escapedPiece : Rule RawSegment := fun text =>
  -- A backslash at the end escapes nothing.
  match text with
  | '\\' :: c :: rest => .done (.literal [unescapeChar c]) rest
  | _ => .refused text

/-- Read an expression between its signs. -/
def expressionPiece : Rule RawSegment := fun text =>
  -- No other reading is tried where the expression is not closed.
  match text with
  | '$' :: '\x7b' :: inner =>
    match closeExpression .start inner with
    | some (body, after) => .done (.expression body) after
    | none => .failed text
  | _ => .refused text

/-- Whether a character is neither a backslash nor a dollar sign. -/
def isOrdinary (c : Char) : Bool :=
  -- The other two may start something.
  c != '\\' && c != '$'

/-- Read ordinary characters, as many as there are. -/
def runPiece : Rule RawSegment := fun text =>
  -- There must be one at least.
  if (text.takeWhile isOrdinary).isEmpty then .refused text
  else .done (.literal (text.takeWhile isOrdinary)) (text.dropWhile isOrdinary)

/-- Read any one character. -/
def characterPiece : Rule RawSegment := fun text =>
  -- Only the end of the text is refused.
  match text with
  | c :: rest => .done (.literal [c]) rest
  | [] => .refused text

/-- Read a piece of a text. -/
def pieceRule : Rule RawSegment :=
  -- A dollar sign or a backslash that starts nothing is left to the last alternative.
  Rule.orElse escapedPiece <| Rule.orElse expressionPiece <| Rule.orElse runPiece characterPiece

/-- Read pieces one after the other until none fits. -/
def piecesRule : Nat → Rule (List RawSegment)
  -- Each turn reads a character, so the length of the text bounds the turns.
  | 0 => Rule.succeed []
  | turns + 1 => do
    match ← Rule.optional pieceRule with
    | some piece => do
      let pieces ← piecesRule turns
      return piece :: pieces
    | none => return []

/-- Why a text cannot be read piece by piece. -/
inductive PieceFault where
  /-- No piece fits in front of this character, which stands at this column. -/
  | leftOver (column : Nat) (c : Char)
  /-- What is wrong is told by an error of the text. -/
  | text (error : TextError)

/-- Read a text piece by piece; the pieces must use it up. -/
def readPieces (text : String) : Except PieceFault TemplateText :=
  -- An expression that is not closed is told by the place where reading has stopped.
  let chars := text.toList
  match piecesRule chars.length chars with
  | .done pieces [] => ((pieces.mapM RawSegment.read).map TemplateText.merged).mapError .text
  | .done _ (c :: rest) => .error (.leftOver (columnOf chars (c :: rest)) c)
  | .refused rest => .error (.text (.unterminated (columnOf chars rest)))
  | .failed rest => .error (.text (.unterminated (columnOf chars rest)))

/-- No escape starts with a dollar sign. -/
theorem escapedPiece_dollar (rest : List Char) : escapedPiece ('$' :: rest) = .refused ('$' :: rest) :=
  rfl

/-- An expression is a piece up to the brace that closes it. -/
theorem pieceRule_expression {inner body after : List Char} (closes : closeExpression .start inner = some (body, after)) :
    pieceRule ('$' :: '\x7b' :: inner) = .done (.expression body) after := by
  have here : expressionPiece ('$' :: '\x7b' :: inner) = .done (.expression body) after := by
    simp only [expressionPiece, closes]
  rw [pieceRule, Rule.orElse_of_refused (escapedPiece_dollar _), Rule.orElse_of_done here]

/-- An expression that is not closed ends all reading where it starts. -/
theorem pieceRule_unclosed {inner : List Char} (never : closeExpression .start inner = none) :
    pieceRule ('$' :: '\x7b' :: inner) = .failed ('$' :: '\x7b' :: inner) := by
  have here : expressionPiece ('$' :: '\x7b' :: inner) = .failed ('$' :: '\x7b' :: inner) := by
    simp only [expressionPiece, never]
  rw [pieceRule, Rule.orElse_of_refused (escapedPiece_dollar _), Rule.orElse, here]

/-- A character that stands for itself starts neither an escape nor an expression. -/
theorem pieceRule_of_isPlainBefore {c : Char} {rest : List Char} (alone : IsPlainBefore c rest) :
    pieceRule (c :: rest) = Rule.orElse runPiece characterPiece (c :: rest) := by
  have noEscape : escapedPiece (c :: rest) = .refused (c :: rest) := by
    unfold escapedPiece
    split
    · rename_i same
      cases same
      cases alone.1 rfl
    · rfl
  have noExpression : expressionPiece (c :: rest) = .refused (c :: rest) := by
    unfold expressionPiece
    split
    · rename_i same
      cases same
      exact absurd rfl (alone.2 rfl _)
    · rfl
  rw [pieceRule, Rule.orElse_of_refused noEscape, Rule.orElse_of_refused noExpression]

/-- An ordinary character stands for itself everywhere. -/
theorem isPlainBefore_of_ordinary {c : Char} (ordinary : isOrdinary c = true) (rest : List Char) : IsPlainBefore c rest := by
  constructor <;> rintro rfl <;> cases ordinary

/-- Ordinary characters are read together. -/
theorem pieceRule_ordinary {c : Char} (ordinary : isOrdinary c = true) (rest : List Char) :
    pieceRule (c :: rest) = .done (.literal (c :: rest.takeWhile isOrdinary)) (rest.dropWhile isOrdinary) := by
  have run : runPiece (c :: rest) = .done (.literal (c :: rest.takeWhile isOrdinary)) (rest.dropWhile isOrdinary) := by
    simp [runPiece, ordinary]
  rw [pieceRule_of_isPlainBefore (isPlainBefore_of_ordinary ordinary rest), Rule.orElse_of_done run]

/-- A backslash or a dollar sign that starts nothing is read alone. -/
theorem pieceRule_single {c : Char} {rest : List Char} (alone : IsPlainBefore c rest) (special : ¬ isOrdinary c = true) :
    pieceRule (c :: rest) = .done (.literal [c]) rest := by
  have none : runPiece (c :: rest) = .refused (c :: rest) := by
    simp [runPiece, special]
  rw [pieceRule_of_isPlainBefore alone, Rule.orElse_of_refused none, characterPiece]

/-- Behind a piece the others are read. -/
theorem piecesRule_of_done {turns : Nat} {text rest : List Char} {piece : RawSegment}
    (done : pieceRule text = .done piece rest) :
    piecesRule (turns + 1) text =
      match piecesRule turns rest with
      | .done pieces rest => .done (piece :: pieces) rest
      | .refused rest => .refused rest
      | .failed rest => .failed rest := by
  have present : Rule.optional pieceRule text = .done (some piece) rest := by
    rw [Rule.optional, done]
  rw [piecesRule, Rule.bind_of_done present]
  change Rule.andThen (piecesRule turns) _ rest = _
  rw [Rule.andThen]
  cases piecesRule turns rest <;> rfl

/-- Whether pieces are read into the same text as tokens, once literals that are neighbours are joined. -/
def ReadsAlike (pieces : List RawSegment) (tokens : List Token) : Prop :=
  -- An expression that cannot be read is the same error on both sides.
  (pieces.mapM RawSegment.read).map TemplateText.merged = (tokens.mapM Token.read).map TemplateText.merged

namespace ReadsAlike

variable {pieces : List RawSegment} {tokens : List Token}

/-- A piece and a token that are read alike may stand in front. -/
theorem cons {piece : RawSegment} {token : Token} (same : piece.read = token.read) (alike : ReadsAlike pieces tokens) :
    ReadsAlike (piece :: pieces) (token :: tokens) := by
  unfold ReadsAlike at alike ⊢
  rw [List.mapM_cons, List.mapM_cons, same]
  cases token.read with
  | error error => rfl
  | ok segment =>
    generalize pieces.mapM RawSegment.read = first, tokens.mapM Token.read = second at alike
    cases first with
    | error error =>
      cases second with
      | error error' => exact alike
      | ok text' => cases alike
    | ok text =>
      cases second with
      | error error' => cases alike
      | ok text' => exact congrArg (fun text => Except.ok (Segment.join segment text)) (Except.ok.inj alike)

/-- A literal is read like the two parts that it is cut into. -/
theorem literal_append {front back : List Char} (alike : ReadsAlike (.literal front :: .literal back :: pieces) tokens) :
    ReadsAlike (.literal (front ++ back) :: pieces) tokens := by
  refine Eq.trans ?_ alike
  simp only [List.mapM_cons, RawSegment.read]
  cases pieces.mapM RawSegment.read with
  | error error => rfl
  | ok text =>
    refine congrArg Except.ok ?_
    change Segment.join _ (TemplateText.merged text) = Segment.join _ (Segment.join _ (TemplateText.merged text))
    rw [Segment.join_join, String.ofList_append]

/-- A run of characters is read like its characters one by one. -/
theorem run (c : Char) (run : List Char) (alike : ReadsAlike pieces tokens) :
    ReadsAlike (.literal (c :: run) :: pieces) (.plain c :: (run.map .plain ++ tokens)) := by
  have alone (c : Char) : RawSegment.read (.literal [c]) = Token.read (.plain c) := by
    rw [RawSegment.read, Token.read, String.singleton_eq_ofList]
  induction run generalizing c with
  | nil => exact alike.cons (alone c)
  | cons d run later =>
    have joined : ReadsAlike (.literal ([c] ++ d :: run) :: pieces) _ := literal_append ((later d).cons (alone c))
    exact joined

end ReadsAlike

/-- A scan passes over ordinary characters one by one. -/
theorem Scan.of_run {run rest left : List Char} {tokens : List Token} (ordinary : ∀ c ∈ run, isOrdinary c = true)
    (scan : Scan (run ++ rest) tokens left) : ∃ others, tokens = run.map .plain ++ others ∧ Scan rest others left := by
  induction run generalizing tokens with
  | nil => exact ⟨tokens, rfl, scan⟩
  | cons c run later =>
    obtain ⟨here, further⟩ := List.forall_mem_cons.mp ordinary
    obtain ⟨_, rfl, behind⟩ := scan.of_plain (isPlainBefore_of_ordinary here _)
    obtain ⟨others, rfl, behind'⟩ := later further behind
    exact ⟨others, rfl, behind'⟩

/-- Pieces are read up to where the scan stops, and there they end or all reading ends. -/
theorem piecesRule_of_scan {text left : List Char} {tokens : List Token} (scan : Scan text tokens left) {turns : Nat}
    (ample : text.length ≤ turns) :
    ∃ pieces, piecesRule turns text = (if left = [] then .done pieces [] else .failed left) ∧ ReadsAlike pieces tokens := by
  -- Whatever piece is read, the tokens behind it are those of the rest.
  have further {turns : Nat} {text rest : List Char} {piece : RawSegment} {others : List Token}
      (rejoin : List Token → List Token) (here : pieceRule text = .done piece rest)
      (alike : ∀ {pieces}, ReadsAlike pieces others → ReadsAlike (piece :: pieces) (rejoin others))
      (later : ∃ pieces, piecesRule turns rest = (if left = [] then .done pieces [] else .failed left) ∧
        ReadsAlike pieces others) :
      ∃ pieces, piecesRule (turns + 1) text = (if left = [] then .done pieces [] else .failed left) ∧
        ReadsAlike pieces (rejoin others) := by
    obtain ⟨pieces, read, same⟩ := later
    refine ⟨piece :: pieces, ?_, alike same⟩
    rw [piecesRule_of_done here, read]
    by_cases done : left = []
    · rw [if_pos done, if_pos done]
    · rw [if_neg done, if_neg done]
  induction turns generalizing text tokens with
  | zero =>
    obtain rfl := List.eq_nil_of_length_eq_zero (Nat.le_zero.mp ample)
    obtain ⟨rfl, rfl⟩ := scan.of_nil
    exact ⟨[], rfl, rfl⟩
  | succ turns later =>
    cases text with
    | nil =>
      obtain ⟨rfl, rfl⟩ := scan.of_nil
      exact ⟨[], rfl, rfl⟩
    | cons c rest =>
      simp only [List.length_cons, Nat.add_le_add_iff_right] at ample
      have single (d : Char) : RawSegment.read (.literal [d]) = Token.read (.plain d) := by
        rw [RawSegment.read, Token.read, String.singleton_eq_ofList]
      rcases isPlainBefore_or c rest with alone | ⟨rfl, d, more, rfl⟩ | ⟨rfl, inner, rfl⟩
      · obtain ⟨others, rfl, behind⟩ := scan.of_plain alone
        by_cases ordinary : isOrdinary c = true
        · -- The whole run of ordinary characters is one piece.
          rw [← List.takeWhile_append_dropWhile (p := isOrdinary) (l := rest)] at behind
          obtain ⟨others, rfl, behind'⟩ := behind.of_run fun d inside => List.mem_takeWhile_imp inside
          have less := (List.dropWhile_sublist isOrdinary (l := rest)).length_le
          exact further (fun others => .plain c :: ((rest.takeWhile isOrdinary).map .plain ++ others))
            (pieceRule_ordinary ordinary rest) (ReadsAlike.run c _) (later behind' (less.trans ample))
        · exact further _ (pieceRule_single alone ordinary) (ReadsAlike.cons (single c)) (later behind ample)
      · obtain ⟨others, rfl, behind⟩ := scan.of_escaped
        exact further _ (show pieceRule ('\\' :: d :: more) = .done (.literal [unescapeChar d]) more from rfl)
          (ReadsAlike.cons (single _)) (later behind (by simp at ample; omega))
      · rcases scan.of_expression with ⟨rfl, rfl, never⟩ | ⟨body, after, others, closes, rfl, behind⟩
        · refine ⟨[], ?_, rfl⟩
          rw [piecesRule, if_neg (List.cons_ne_nil _ _)]
          change Rule.andThen (Rule.optional pieceRule) _ _ = _
          rw [Rule.andThen, Rule.optional, pieceRule_unclosed never]
        · have shorter := (closeExpression_eq_some_iff.mp closes).1
          exact further _ (pieceRule_expression closes) (ReadsAlike.cons rfl)
            (later behind (by rw [shorter] at ample; simp at ample; omega))

/-- Reading piece by piece never leaves anything over, and comes to what reading the text comes to. -/
theorem readPieces_eq (text : String) : readPieces text = (TemplateText.parse text).mapError .text := by
  obtain ⟨tokens, left, scan⟩ := exists_scan text.toList
  obtain ⟨pieces, read, alike⟩ := piecesRule_of_scan scan (Nat.le_refl _)
  rw [TemplateText.parse_of_scan scan]
  simp only [readPieces, read]
  by_cases done : left = []
  · rw [if_pos done, if_pos done]
    exact congrArg (Except.mapError PieceFault.text) alike
  · have column : columnOf text.toList left = (tokensChars tokens).length + 1 := by
      rw [columnOf, scan.eq_append, List.length_append, Nat.add_sub_cancel]
    rw [if_neg done, if_neg done, ← column]
    rfl

/-- Whether characters spell an expression. -/
def IsAccepted (body : List Char) : Prop :=
  -- White space around them does not matter.
  ∃ expression, Expression.parse (String.ofList body) = .ok expression

/-- Characters that spell an expression are read as one. -/
theorem IsAccepted.embed {body : List Char} (accepted : IsAccepted body) : ∃ embedded, embed body = .ok embedded := by
  obtain ⟨expression, parses⟩ := accepted
  have read := Expression.embed_of_parse parses
  rw [String.toList_ofList] at read
  exact ⟨_, read⟩

/-- What is wrong with characters that spell no expression is told with them, white space around them left out. -/
theorem embed_of_not_isAccepted {body : List Char} (rejected : ¬ IsAccepted body) :
    ∃ error, Expression.parse (String.ofList (trimChars body)) = .error error ∧
      embed body = .error (.expression (String.ofList (trimChars body)) error) := by
  cases parses : Expression.parse (String.ofList (trimChars body)) with
  | ok expression =>
    obtain ⟨lead, trail, whole, blank, blank'⟩ := exists_margins body
    refine absurd ⟨expression, ?_⟩ rejected
    rw [whole]
    exact (Expression.parse_margins blank blank' _ expression).mpr parses
  | error error =>
    refine ⟨error, rfl, ?_⟩
    simp only [embed, parses]

/-- Tokens whose expressions are all spelled right are read. -/
theorem mapM_of_isAccepted {tokens : List Token} (accepted : ∀ body, .expression body ∈ tokens → IsAccepted body) :
    ∃ segments, tokens.mapM Token.read = .ok segments := by
  induction tokens with
  | nil => exact ⟨[], rfl⟩
  | cons token tokens later =>
    obtain ⟨segments, others⟩ := later fun body inside => accepted body (List.mem_cons_of_mem _ inside)
    have here : ∃ segment, token.read = .ok segment := by
      cases token with
      | plain c => exact ⟨_, rfl⟩
      | escaped c => exact ⟨_, rfl⟩
      | expression body =>
        obtain ⟨embedded, read⟩ := (accepted body List.mem_cons_self).embed
        exact ⟨.expression embedded, by rw [Token.read, read]; rfl⟩
    obtain ⟨segment, here⟩ := here
    refine ⟨segment :: segments, ?_⟩
    rw [List.mapM_cons, here, others]
    rfl

/-- The first expression among tokens that is not spelled right is what is wrong with them. -/
theorem mapM_of_rejected {front back : List Token} {body : List Char} {error : TextError}
    (accepted : ∀ body, .expression body ∈ front → IsAccepted body) (rejected : embed body = .error error) :
    (front ++ .expression body :: back).mapM Token.read = .error error := by
  obtain ⟨segments, before⟩ := mapM_of_isAccepted accepted
  rw [List.mapM_append, before, List.mapM_cons, Token.read, rejected]
  rfl

/-- Reading a text never leaves a character over. A scan tells what it comes to: where it stops at an opening without a matching
close, the column of that; else what is wrong with the first expression that is not spelled right; else a text. -/
theorem TemplateText.parse_outcome (text : String) :
    (∀ column c, readPieces text ≠ .error (.leftOver column c)) ∧
      readPieces text = (TemplateText.parse text).mapError .text ∧
      ∃ tokens left, Scan text.toList tokens left ∧ text.toList = tokensChars tokens ++ left ∧
        (∀ tokens' left', Scan text.toList tokens' left' → tokens' = tokens ∧ left' = left) ∧
        (left ≠ [] → TemplateText.parse text = .error (.unterminated ((tokensChars tokens).length + 1)) ∧
          ∃ inner, left = '$' :: '\x7b' :: inner) ∧
        (left = [] →
          (∀ front body back, tokens = front ++ .expression body :: back →
            (∀ earlier, .expression earlier ∈ front → IsAccepted earlier) → ¬ IsAccepted body →
              ∃ error, Expression.parse (String.ofList (trimChars body)) = .error error ∧
                TemplateText.parse text = .error (.expression (String.ofList (trimChars body)) error)) ∧
          ((∀ body, .expression body ∈ tokens → IsAccepted body) → ∃ segments, TemplateText.parse text = .ok segments)) := by
  have same := readPieces_eq text
  obtain ⟨tokens, left, scan⟩ := exists_scan text.toList
  have parse := TemplateText.parse_of_scan scan
  refine ⟨?_, same, tokens, left, scan, scan.eq_append, fun _ _ => scan.unique, ?_, ?_⟩
  · rintro column c ended
    rw [same] at ended
    cases read : TemplateText.parse text <;> rw [read] at ended <;> cases ended
  · intro stopped
    rw [if_neg stopped] at parse
    exact ⟨parse, scan.opening.resolve_left stopped⟩
  · intro done
    rw [if_pos done] at parse
    constructor
    · rintro front body back rfl accepted rejected
      obtain ⟨error, parses, embeds⟩ := embed_of_not_isAccepted rejected
      refine ⟨error, parses, ?_⟩
      rw [parse, mapM_of_rejected accepted embeds]
      rfl
    · intro accepted
      obtain ⟨segments, read⟩ := mapM_of_isAccepted accepted
      exact ⟨TemplateText.merged segments, by rw [parse, read]; rfl⟩

/-- A text with an expression that breaks off and another one that is never closed: the opening of the latter is told, and not
that the former cannot be read. -/
theorem torn_outcome : TemplateText.parse "é$\x7b1 +\x7d$\x7bx" = .error (.unterminated 8) := by
  obtain ⟨-, -, tokens, left, -, -, unique, stops, -⟩ := TemplateText.parse_outcome "é$\x7b1 +\x7d$\x7bx"
  have stop : Scan "$\x7bx".toList [] "$\x7bx".toList := .unclosed_of_none rfl
  have closed : IsClosed "1 +".toList := rfl
  have scan : Scan "é$\x7b1 +\x7d$\x7bx".toList [.plain 'é', .expression "1 +".toList] "$\x7bx".toList :=
    .plain ⟨nofun, nofun⟩ (.expression closed stop)
  obtain ⟨rfl, rfl⟩ := unique _ _ scan
  exact (stops (by decide)).1

end Phrasebook
