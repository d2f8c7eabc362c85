import Phrasebook.Proofs.Expression.RoundTrip
import Phrasebook.Proofs.Reading.Curtailed

/-! Expressions are read again where the text behind them is cut off. -/

namespace Phrasebook

open Rule Expression

/-- The literal that digits spell does not depend on what stands behind them. -/
theorem numberLiteral_done {whole fraction left rest : List Char} {value : Expression}
    (done : numberLiteral whole fraction left = .done value rest) :
    rest = left ∧ ∀ left', numberLiteral whole fraction left' = .done value left' := by
  simp only [numberLiteral] at done ⊢
  split at done
  · rename_i small
    cases done
    exact ⟨rfl, fun _ => if_pos small⟩
  · rename_i large
    split at done
    · rename_i finite
      cases done
      exact ⟨rfl, fun _ => by rw [if_neg large, if_pos finite]⟩
    · cases done

/-- Read what stands behind the first digits of a number. -/
def fractionRule (whole : List Char) : Rule Expression := fun text =>
  -- A point without digits is left alone.
  match text with
  | '.' :: after =>
    if (after.takeWhile isDigit).isEmpty then numberLiteral whole [] text
    else numberLiteral whole (after.takeWhile isDigit) (after.dropWhile isDigit)
  | _ => numberLiteral whole [] text

/-- A number is read digits first. -/
theorem numberRule_eq (text : List Char) :
    numberRule text =
      if (text.takeWhile isDigit).isEmpty then .refused text
      else fractionRule (text.takeWhile isDigit) (text.dropWhile isDigit) :=
  rfl

/-- Neither a comma nor a closing sign is a digit. -/
theorem isDigit_closing : ∀ c ∈ [',', ')', ']', '\x7d'], isDigit c = false := by
  decide

/-- A fraction is read again, or is missed again. -/
theorem fractionRule_rereads (whole : List Char) : (fractionRule whole).Rereads fun _ _ => True := by
  intro text value rest done
  by_cases fraction : ∃ after, text = '.' :: after ∧ ¬ (after.takeWhile isDigit).isEmpty = true
  · obtain ⟨after, rfl, some⟩ := fraction
    simp only [fractionRule, if_neg some] at done
    obtain ⟨rfl, again⟩ := numberLiteral_done done
    refine ⟨'.' :: after.takeWhile isDigit, by simp, fun rest' cut _ => ?_⟩
    have all : ∀ c ∈ after.takeWhile isDigit, isDigit c = true := fun c inside => List.mem_takeWhile_imp inside
    have spans := span_append all (cut.ends isDigit_closing not_of_dropWhile)
    simp only [fractionRule, List.cons_append, spans.1, spans.2, if_neg some]
    exact again rest'
  · have bare {text : List Char} (none : ∀ after, text = '.' :: after → (after.takeWhile isDigit).isEmpty = true) :
        fractionRule whole text = numberLiteral whole [] text := by
      unfold fractionRule
      split
      · rw [if_pos (none _ rfl)]
      · rfl
    have none : ∀ after, text = '.' :: after → (after.takeWhile isDigit).isEmpty = true := by simpa using fraction
    rw [bare none] at done
    obtain ⟨rfl, again⟩ := numberLiteral_done done
    refine ⟨[], rfl, fun rest' cut _ => ?_⟩
    rw [List.nil_append, bare, again]
    -- Where a point is left, it is the one that was there.
    rintro after rfl
    cases cut with
    | closed closes => exact absurd closes (by decide)
    | cons _ cut => exact isEmpty_takeWhile.mpr (cut.ends isDigit_closing (isEmpty_takeWhile.mp (none _ rfl)))

/-- A number is read again. -/
theorem numberRule_rereads : numberRule.Rereads fun _ _ => True := by
  intro text value rest done
  rw [numberRule_eq] at done
  split at done
  · cases done
  · rename_i some
    obtain ⟨read, same, again⟩ := fractionRule_rereads _ _ _ _ done
    refine ⟨text.takeWhile isDigit ++ read, ?_, fun rest' cut _ => ?_⟩
    · rw [List.append_assoc, ← same, List.takeWhile_append_dropWhile]
    · have all : ∀ c ∈ text.takeWhile isDigit, isDigit c = true := fun c inside => List.mem_takeWhile_imp inside
      have cut' : Curtailed (text.dropWhile isDigit) (read ++ rest') := same ▸ cut.append read
      have spans := span_append all (cut'.ends isDigit_closing not_of_dropWhile)
      rw [List.append_assoc, numberRule_eq, spans.1, spans.2, if_neg some]
      exact again rest' cut trivial

/-- What a quoted text stands for does not depend on what stands behind its quote. -/
theorem quotedRest_rereads {quote : Char} {text read rest : List Char} (apart : quote ≠ '\\')
    (found : quotedRest quote text = some (read, rest)) :
    ∃ raw, text = raw ++ rest ∧ ∀ rest', quotedRest quote (raw ++ rest') = some (read, rest') := by
  induction text using quotedRest.induct quote generalizing read with
  | case1 => cases found
  | case2 c after same =>
    obtain rfl : c = quote := eq_of_beq same
    rw [quotedRest_quote] at found
    cases found
    exact ⟨[c], rfl, quotedRest_quote c⟩
  | case3 c other same =>
    obtain rfl : c = '\\' := eq_of_beq same
    simp [quotedRest, other] at found
  | case4 c other same escaped after later =>
    obtain rfl : c = '\\' := eq_of_beq same
    rw [quotedRest_escaped apart, Option.map_eq_some_iff] at found
    obtain ⟨⟨read, rest⟩, found, same⟩ := found
    cases same
    obtain ⟨raw, rfl, again⟩ := later found
    refine ⟨'\\' :: escaped :: raw, rfl, fun rest' => ?_⟩
    rw [List.cons_append, List.cons_append, quotedRest_escaped apart, again]
    rfl
  | case5 c after other plain later =>
    have other : c ≠ quote := by simpa using other
    have plain : c ≠ '\\' := by simpa using plain
    rw [quotedRest_plain other plain, Option.map_eq_some_iff] at found
    obtain ⟨⟨read, rest⟩, found, same⟩ := found
    cases same
    obtain ⟨raw, rfl, again⟩ := later found
    refine ⟨c :: raw, rfl, fun rest' => ?_⟩
    rw [List.cons_append, quotedRest_plain other plain, again]
    rfl

/-- A quoted text is read again. -/
theorem quotedText_rereads : quotedText.Rereads fun _ _ => True := by
  intro text value rest done
  obtain ⟨quote, behind, read, rfl, sign, found, rfl⟩ := exists_of_quotedText done
  have apart : quote ≠ '\\' := by rcases sign with rfl | rfl <;> decide
  have starts : (quote == '\x27' || quote == '\x22') = true := by rcases sign with rfl | rfl <;> rfl
  obtain ⟨raw, rfl, again⟩ := quotedRest_rereads apart found
  refine ⟨quote :: raw, rfl, fun rest' _ _ => ?_⟩
  simp only [quotedText, List.cons_append, if_pos starts, again]

/-- A quoted text starts with its quote. -/
theorem starts_quotedText : quotedText.Starts fun c => c = '\x27' ∨ c = '\x22' := by
  intro text value rest done
  obtain ⟨quote, behind, _, rfl, sign, -, -⟩ := exists_of_quotedText done
  exact ⟨quote, behind, rfl, sign⟩

/-- An identifier is read again. -/
theorem identifier_rereads : identifier.Rereads fun _ _ => True := by
  have apart : ∀ c ∈ [',', ')', ']', '\x7d'], continuesIdentifier c = false := by decide
  intro text name rest done
  have named := identifier_gives text name rest done
  obtain ⟨first, more, rfl, -, rfl, rfl⟩ := exists_of_identifier done
  refine ⟨first :: more.takeWhile continuesIdentifier, by simp, fun rest' cut _ => ?_⟩
  have again := identifier_done named (cut.ends apart not_of_dropWhile)
  rwa [String.toList_ofList] at again

/-- An identifier starts with a character that can start one. -/
theorem starts_identifier : identifier.Starts fun c => startsIdentifier c = true := by
  intro text name rest done
  obtain ⟨first, more, rfl, starts, -, -⟩ := exists_of_identifier done
  exact ⟨first, more, rfl, starts⟩

/-- What starts with a name is read as an identifier. -/
theorem identifier_of_starts {c : Char} (starts : startsIdentifier c = true) (more : List Char) :
    ∃ name rest, identifier (c :: more) = .done name rest :=
  ⟨_, _, by rw [identifier, if_pos starts]⟩

/-- What starts with no name is refused as an identifier. -/
theorem identifier_refused {text : List Char} (other : ∀ c more, text = c :: more → startsIdentifier c = false) :
    identifier text = .refused text := by
  cases text with
  | nil => rfl
  | cons c more => exact identifier_of_ne (other c more rfl) more

/-- Whether a text starts with a dot and a name. -/
def StartsMember (text : List Char) : Prop :=
  -- The first character of the name tells.
  ∃ c more, text = '.' :: c :: more ∧ startsIdentifier c = true

/-- Without a dot and a name in front no member is read. -/
theorem member_refused {α : Type} {next : Rule α} {text : List Char} (missed : ¬ StartsMember text)
    (named : ∀ text, identifier text = .refused text → next text = .refused text) :
    ∃ left, (do exactly ['.']; next : Rule α) text = .refused left := by
  cases text with
  | nil => exact ⟨[], rfl⟩
  | cons c more =>
    by_cases dot : '.' = c
    · subst dot
      refine ⟨more, ?_⟩
      rw [bind_of_done (exactly_cons '.' more)]
      refine named more (identifier_refused ?_)
      rintro c behind rfl
      rw [← Bool.not_eq_true]
      exact fun starts => missed ⟨c, behind, rfl, starts⟩
    · exact ⟨c :: more, bind_of_refused (exactly_of_ne dot more)⟩

/-- A dot and a name in front are there if they are where the text is cut off. -/
theorem StartsMember.of_curtailed {longer shorter : List Char} (cut : Curtailed longer shorter) (starts : StartsMember shorter) :
    StartsMember longer := by
  obtain ⟨c, more, rfl, starts⟩ := starts
  cases cut with
  | closed closes => exact absurd closes (by decide)
  | cons _ cut =>
    cases cut with
    | closed closes =>
      have apart : ∀ c ∈ [',', ')', ']', '\x7d'], startsIdentifier c = false := by decide
      rw [apart c closes] at starts
      cases starts
    | cons _ cut => exact ⟨c, _, rfl, starts⟩

/-- More text behind a dot and a name does not matter. -/
theorem StartsMember.append {text : List Char} (starts : StartsMember text) (more : List Char) : StartsMember (text ++ more) := by
  obtain ⟨c, rest, rfl, starts⟩ := starts
  exact ⟨c, rest ++ more, rfl, starts⟩

/-- Further segments of a dotted name are read again, and no more of them than before. -/
theorem segmentsRule_rereads : segmentsRule.Rereads fun _ _ => True := by
  have again : (do exactly ['.']; identifier : Rule String).Rereads fun _ _ => True :=
    rereads_bind (rereads_exactly ['.']) (fun _ => identifier_rereads) fun _ _ _ _ _ _ => trivial
  refine rereads_moreElements again (fun text left rest missed cut _ => ?_) (fun _ _ _ _ => trivial) (fun _ _ => trivial)
    length_lt_of_segment ⟨[], rfl⟩
  have none : ¬ StartsMember rest := by
    intro starts
    obtain ⟨c, more, rfl, starts⟩ := starts.of_curtailed cut
    obtain ⟨name, behind, read⟩ := identifier_of_starts starts more
    rw [bind_of_done (exactly_cons '.' _), read] at missed
    cases missed
  exact member_refused none fun _ refused => refused

/-- If arguments follow parts after dashes where a text is cut off, they do in the whole text. -/
theorem startsArguments_of_curtailed {turns turns' : Nat} {longer shorter : List Char} (cut : Curtailed longer shorter)
    (ample : longer.length ≤ turns) (called : startsArguments (dashedParts turns' shorter).2 = true) :
    startsArguments (dashedParts turns longer).2 = true := by
  have signs {longer shorter : List Char} (cut : Curtailed longer shorter) (called : startsArguments shorter = true) :
      startsArguments longer = true := by
    rw [startsArguments_eq, Bool.or_eq_true] at called ⊢
    exact called.imp (cut.starts (by decide)) (cut.starts (by decide))
  induction turns' generalizing turns longer shorter with
  | zero =>
    -- There were no turns for the parts, so the arguments stand right in front.
    have here : (dashedParts 0 shorter).2 = shorter := by unfold dashedParts; rfl
    rw [here] at called
    have other : ∀ rest, longer ≠ '-' :: rest := by
      rintro rest rfl
      exact absurd (signs cut called) (by simp [startsArguments])
    rw [dashedParts_of_ne turns other]
    exact signs cut called
  | succ turns' later =>
    by_cases dash : ∃ rest, shorter = '-' :: rest
    · obtain ⟨shorter, rfl⟩ := dash
      cases cut with
      | closed closes => exact absurd closes (by decide)
      | @cons _ longer _ cut =>
        obtain ⟨turns, rfl⟩ := Nat.exists_eq_add_one_of_ne_zero (Nat.ne_of_gt (Nat.lt_of_lt_of_le (Nat.succ_pos _) ample))
        have apart : ∀ c ∈ [',', ')', ']', '\x7d'], continuesDashed c = false := by decide
        have less := (List.dropWhile_sublist continuesDashed (l := longer)).length_le
        simp only [List.length_cons] at ample
        rw [dashedParts_dash] at called
        rw [dashedParts_dash]
        split at called
        · exact absurd called (by simp [startsArguments])
        · rename_i some
          have some' : ¬ (longer.takeWhile continuesDashed).isEmpty = true := fun none =>
            some (isEmpty_takeWhile.mpr (cut.ends apart (isEmpty_takeWhile.mp none)))
          rw [if_neg some']
          exact later (cut.dropWhile apart) (by omega) called
    · have other : ∀ rest, shorter ≠ '-' :: rest := fun rest same => dash ⟨rest, same⟩
      rw [dashedParts_of_ne _ other] at called
      have other' : ∀ rest, longer ≠ '-' :: rest := by
        rintro rest rfl
        exact absurd (signs cut called) (by simp [startsArguments])
      rw [dashedParts_of_ne turns other']
      exact signs cut called

/-- The dashed end of a call name is read again if arguments still follow, and without it the dash is again a subtraction. -/
theorem dashedRule_rereads : dashedRule.Rereads fun dashed rest => dashed ≠ [] → startsArguments rest = true := by
  intro text dashed rest done
  obtain ⟨parts, chars, each, whole⟩ := dashedParts_reads text.length text
  simp only [dashedRule, dashedTail] at done
  by_cases called : startsArguments (dashedParts text.length text).2 = true
  · rw [if_pos called] at done
    cases done
    refine ⟨_, whole, fun rest' cut guarded => ?_⟩
    rw [chars] at guarded ⊢
    by_cases none : dashedChars parts = []
    · -- Arguments without a dash in front of them are none of its business.
      have other : ∀ rest, rest' ≠ '-' :: rest := by
        rintro rest rfl
        generalize (dashedParts text.length text).2 = after at cut called
        cases cut with
        | closed closes => exact absurd closes (by decide)
        | cons _ cut => simp [startsArguments] at called
      simp [none, dashedRule, dashedTail, dashedParts_of_ne _ other]
    · exact dashedRule_done each (guarded none)
  · rw [if_neg called] at done
    cases done
    refine ⟨[], rfl, fun rest' cut _ => ?_⟩
    have notCalled : ¬ startsArguments (dashedParts rest'.length rest').2 = true := fun called' =>
      called (startsArguments_of_curtailed cut (Nat.le_refl _) called')
    simp only [List.nil_append, dashedRule, dashedTail, if_neg notCalled]

/-- Whether a text does not start with a bracket, which would open an index. -/
def StopsChain (text : List Char) : Prop :=
  -- White space in front of a bracket is enough.
  ∀ more, text ≠ '[' :: more

/-- Where nothing stands there is no bracket. -/
theorem stopsChain_nil : StopsChain [] := by
  rintro more ⟨⟩

/-- White space may be skipped to see that no bracket is in front. -/
theorem stopsChain_of_trimFront {text more : List Char} {c : Char} (start : trimFront text = c :: more) (other : c ≠ '[') :
    StopsChain text := by
  rintro more rfl
  exact other (List.cons.inj start).1.symm

/-- A bracket that is in front of a text that is cut off is in front of the whole text. -/
theorem StopsChain.of_curtailed {longer shorter : List Char} (stops : StopsChain longer) (cut : Curtailed longer shorter) :
    StopsChain shorter := by
  rintro more rfl
  cases cut with
  | closed closes => exact absurd closes (by decide)
  | cons => exact stops _ rfl

/-- Whether behind white space a text starts with a sign that closes brackets. -/
def ReachesClosing (text : List Char) : Prop :=
  -- A comma does not close any.
  ∃ c more, trimFront text = c :: more ∧ c ∈ [')', ']', '\x7d']

/-- Where brackets are closed no index is opened. -/
theorem ReachesClosing.stopsChain {text : List Char} (reaches : ReachesClosing text) : StopsChain text := by
  obtain ⟨c, more, start, closes⟩ := reaches
  refine stopsChain_of_trimFront start ?_
  rintro rfl
  exact absurd closes (by decide)

/-- A text starts with white space or with what is in front behind it. -/
theorem start_of_trimFront {text more : List Char} {c : Char} (start : trimFront text = c :: more) :
    ∃ d rest, text = d :: rest ∧ (isBlank d = true ∨ d = c) := by
  cases text with
  | nil => cases start
  | cons d rest =>
    refine ⟨d, rest, rfl, ?_⟩
    by_cases blank : isBlank d = true
    · exact .inl blank
    · rw [trimFront, List.dropWhile_cons_of_neg blank] at start
      exact .inr (List.cons.inj start).1

/-- A separator that is read stands behind white space. -/
theorem trimFront_of_between {sign : Char} {text rest : List Char} (done : between [sign] text = .done () rest) :
    ∃ more, trimFront text = sign :: more := by
  obtain ⟨_, middle, skipped, done⟩ := done_of_bind done
  obtain ⟨_, behind, here, -⟩ := done_of_bind done
  cases skipped
  obtain ⟨_, more, same, rfl⟩ := starts_exactly _ _ _ _ here
  exact ⟨more, same⟩

/-- Elements between brackets are read again. -/
theorem elements_rereads {α : Type} {element : Rule α} (again : element.Rereads fun _ => StopsChain)
    (refuses : ∀ c rest, startsExpression c = false → ∃ left, element (c :: rest) = .refused left) {opening closing : Char}
    (closes : closing ∈ [')', ']', '\x7d']) :
    (enclosed opening closing (elements (between [',']) element)).Rereads fun _ _ => True := by
  -- Where brackets are closed there is neither an element nor a comma.
  have none {rest : List Char} (ended : ReachesClosing rest) : ∃ left, element rest = .refused left := by
    obtain ⟨c, more, start, closes⟩ := ended
    obtain ⟨d, rest, rfl, blank | rfl⟩ := start_of_trimFront start
    · exact refuses d rest (not_of_isBlank startsExpression (by decide +kernel) d blank)
    · exact refuses d rest (startsExpression_closing d closes)
  have noComma {rest : List Char} (ended : ReachesClosing rest) :
      ∃ left, (do between [',']; element : Rule α) rest = .refused left := by
    obtain ⟨c, more, start, closes⟩ := ended
    have skipped : blanks rest = .done () (c :: more) := by rw [blanks, start]
    have other : ',' ≠ c := by
      rintro rfl
      exact absurd closes (by decide)
    exact ⟨c :: more, bind_of_refused (by rw [between, bind_of_done skipped, bind_of_refused (exactly_of_ne other more)])⟩
  have both : (do between [',']; element : Rule α).Rereads fun _ => StopsChain :=
    rereads_bind (rereads_between [',']) (fun _ => again) fun _ _ _ _ _ _ => trivial
  have leads (text : List Char) (value : α) (rest : List Char)
      (done : (do between [',']; element : Rule α) text = .done value rest) : StopsChain text := by
    obtain ⟨_, behind, comma, -⟩ := done_of_bind done
    obtain ⟨more, start⟩ := trimFront_of_between comma
    exact stopsChain_of_trimFront start (by decide)
  have shrinks (text : List Char) (value : α) (rest : List Char)
      (done : (do between [',']; element : Rule α) text = .done value rest) : rest.length < text.length := by
    obtain ⟨_, behind, comma, done⟩ := done_of_bind done
    exact (again.length_le done).trans_lt (length_lt_of_between (by simp) comma)
  have elements := rereads_elements both (fun _ _ _ _ _ ended => noComma ended) leads (fun _ => ReachesClosing.stopsChain) shrinks
    ⟨[], rfl⟩ again fun _ _ _ _ _ ended => none ended
  exact rereads_enclosed (List.mem_cons_of_mem _ closes) elements fun rest more start => ⟨closing, more, start, closes⟩

/-- The exclamation mark of a call is read again if the parenthesis behind it is still there. -/
theorem rerunRule_rereads : rerunRule.Rereads fun rerun rest => rerun = true → ∃ more, rest = '(' :: more := by
  intro text rerun rest done
  rw [rerunRule_eq] at done
  split at done
  · rename_i marked
    obtain ⟨after, rfl⟩ := List.isPrefixOf_iff_prefix.mp marked
    cases done
    refine ⟨['!'], rfl, fun rest' _ guarded => ?_⟩
    obtain ⟨more, rfl⟩ := guarded rfl
    rfl
  · rename_i unmarked
    cases done
    refine ⟨[], rfl, fun rest' cut _ => ?_⟩
    rw [List.nil_append, rerunRule_eq, if_neg]
    exact fun marked => unmarked (cut.starts (by decide) marked)

/-- A dashed end is read in front of arguments only. -/
theorem dashedRule_called {text dashed rest : List Char} (done : dashedRule text = .done dashed rest) (some : dashed ≠ []) :
    startsArguments rest = true := by
  simp only [dashedRule, dashedTail] at done
  split at done
  · cases done
    assumption
  · cases done
    exact absurd rfl some

/-- Arguments follow exactly if behind the exclamation mark a parenthesis is in front, and behind a mark there always is. -/
theorem startsArguments_iff_of_rerunRule {text rest : List Char} {rerun : Bool} (done : rerunRule text = .done rerun rest) :
    (startsArguments text = true ↔ ∃ more, rest = '(' :: more) ∧ (rerun = true → ∃ more, rest = '(' :: more) := by
  unfold rerunRule at done
  split at done
  · cases done
    exact ⟨⟨fun _ => ⟨_, rfl⟩, fun _ => rfl⟩, fun _ => ⟨_, rfl⟩⟩
  · rename_i unmarked
    cases done
    refine ⟨⟨fun called => ?_, ?_⟩, nofun⟩
    · unfold startsArguments at called
      split at called
      · exact ⟨_, rfl⟩
      · exact absurd rfl (unmarked _)
      · cases called
    · rintro ⟨more, rfl⟩
      rfl

/-- Arguments follow where a parenthesis is in front. -/
theorem head_eq_parenthesis {text : List Char} : (text.head? == some '(') = true ↔ ∃ more, text = '(' :: more := by
  cases text with
  | nil => simp
  | cons c more => simp

section Nested

variable {depth : Nat} (inner : (expressionRule depth).Rereads fun _ => StopsChain)

/-- What starts no expression is refused as one. -/
theorem expressionRule_refused (depth : Nat) {c : Char} (rest : List Char) (other : startsExpression c = false) :
    ∃ left, expressionRule depth (c :: rest) = .refused left := by
  cases depth with
  | zero => exact ⟨_, rfl⟩
  | succ depth => exact ⟨_, looseRule_other other depth 7 rest⟩

include inner

/-- A constant, a chain of members or a call is read again. -/
theorem referenceRule_rereads : (referenceRule (expressionRule depth)).Rereads fun _ _ => True := by
  have args : (argumentsRule (expressionRule depth)).Rereads fun _ _ => True :=
    elements_rereads inner (fun _ rest other => expressionRule_refused depth rest other) (by decide)
  have opens {text rest : List Char} {values : List Expression}
      (done : argumentsRule (expressionRule depth) text = .done values rest) : ∃ more, text = '(' :: more := by
    obtain ⟨_, more, rfl, rfl⟩ := starts_enclosed _ _ _ _ _ _ done
    exact ⟨more, rfl⟩
  rw [referenceRule_eq]
  intro text value rest done
  obtain ⟨first, text₁, name, later⟩ := done_of_bind done
  obtain ⟨segments, text₂, members, later⟩ := done_of_bind later
  obtain ⟨dashed, text₃, tail, later⟩ := done_of_bind later
  obtain ⟨rerun, text₄, mark, later⟩ := done_of_bind later
  obtain ⟨called, text₅, look, ending⟩ := done_of_bind later
  cases look
  obtain ⟨follow, marked⟩ := startsArguments_iff_of_rerunRule mark
  have dashes := dashedRule_called tail
  obtain ⟨read₁, rfl, name'⟩ := identifier_rereads _ _ _ name
  obtain ⟨read₂, rfl, members'⟩ := segmentsRule_rereads _ _ _ members
  obtain ⟨read₃, rfl, tail'⟩ := dashedRule_rereads _ _ _ tail
  obtain ⟨read₄, rfl, mark'⟩ := rerunRule_rereads _ _ _ mark
  by_cases called : (text₄.head? == some '(') = true
  · -- The arguments are read again, so everything in front of them still sees the parenthesis.
    rw [if_pos called] at ending
    obtain ⟨values, text₅, parsed, same⟩ := done_of_bind ending
    cases same
    obtain ⟨read₅, rfl, arguments⟩ := args _ _ _ parsed
    refine ⟨read₁ ++ (read₂ ++ (read₃ ++ (read₄ ++ read₅))), by simp, fun rest' cut _ => ?_⟩
    have fifth := arguments rest' cut trivial
    have fourth := mark' _ (cut.append read₅) fun _ => opens fifth
    have third := tail' _ ((cut.append read₅).append read₄) fun _ => (startsArguments_iff_of_rerunRule fourth).1.mpr (opens fifth)
    have second := members' _ (((cut.append read₅).append read₄).append read₃) trivial
    have first := name' _ ((((cut.append read₅).append read₄).append read₃).append read₂) trivial
    have look : calledRule (read₅ ++ rest') = .done true (read₅ ++ rest') := by
      rw [calledRule, head_eq_parenthesis.mpr (opens fifth)]
    simp only [List.append_assoc]
    rw [bind_of_done first, bind_of_done second, bind_of_done third, bind_of_done fourth, bind_of_done look, if_pos rfl,
      bind_of_done fifth]
    rfl
  · -- Without arguments there was neither a dashed end nor an exclamation mark, and there still is none.
    rw [if_neg called] at ending
    cases ending
    rw [head_eq_parenthesis] at called
    refine ⟨read₁ ++ (read₂ ++ (read₃ ++ read₄)), by simp, fun rest' cut _ => ?_⟩
    have plain : dashed = [] := by
      by_contra some
      exact called (follow.mp (dashes some))
    have fourth := mark' rest' cut fun marks => absurd (marked marks) called
    have third := tail' _ (cut.append read₄) fun some => absurd plain some
    have second := members' _ ((cut.append read₄).append read₃) trivial
    have first := name' _ (((cut.append read₄).append read₃).append read₂) trivial
    have look : calledRule rest' = .done false rest' := by
      have none : (rest'.head? == some '(') = false := by
        rw [← Bool.not_eq_true, head_eq_parenthesis]
        rintro ⟨more, rfl⟩
        cases cut with
        | closed closes => exact absurd closes (by decide)
        | cons _ cut => exact called ⟨_, rfl⟩
      rw [calledRule, none]
    simp only [List.append_assoc]
    rw [bind_of_done first, bind_of_done second, bind_of_done third, bind_of_done fourth, bind_of_done look]
    rfl

/-- An entry of an object is read again. -/
theorem entryRule_rereads : (entryRule (expressionRule depth)).Rereads fun _ => StopsChain := by
  have name : (Rule.orElse quotedText identifier).Rereads fun _ _ => True := by
    refine rereads_orElse quotedText_rereads identifier_rereads fun text value rest done => ?_
    obtain ⟨c, more, rfl, starts⟩ := starts_identifier _ _ _ done
    have kinds : ∀ c ∈ ['\x27', '\x22'], startsIdentifier c = false := by decide
    refine ⟨_, quotedText_of_ne ?_ ?_ more⟩ <;> rintro rfl <;> simp [kinds] at starts
  refine rereads_bind name (fun _ => ?_) fun _ _ _ _ _ _ => trivial
  refine rereads_bind (rereads_between [':']) (fun _ => ?_) fun _ _ _ _ _ _ => trivial
  exact rereads_bind inner (fun _ => rereads_pure _) fun _ _ _ _ done ended => by
    cases done
    exact ended

omit inner in
/-- What starts no expression is refused as an entry. -/
theorem entryRule_refused (depth : Nat) {c : Char} (rest : List Char) (other : startsExpression c = false) :
    ∃ left, entryRule (expressionRule depth) (c :: rest) = .refused left := by
  simp only [startsExpression, Bool.or_eq_false_iff, List.contains_eq_mem, decide_eq_false_iff_not] at other
  obtain ⟨⟨-, noStart⟩, noSign⟩ := other
  have single : c ≠ '\x27' := by
    rintro rfl
    simp at noSign
  have double : c ≠ '\x22' := by
    rintro rfl
    simp at noSign
  refine ⟨c :: rest, bind_of_refused ?_⟩
  rw [orElse_of_refused (quotedText_of_ne single double rest), identifier_of_ne noStart]

/-- An expression without operators is read again. -/
theorem primaryRule_rereads : (primaryRule (expressionRule depth)).Rereads fun _ _ => True := by
  have items : (enclosed '[' ']' (elements (between [',']) (expressionRule depth))).Rereads fun _ _ => True :=
    elements_rereads inner (fun _ rest other => expressionRule_refused depth rest other) (by decide)
  have entries : (enclosed '\x7b' '\x7d' (elements (between [',']) (entryRule (expressionRule depth)))).Rereads fun _ _ => True :=
    elements_rereads (entryRule_rereads inner) (fun _ rest other => entryRule_refused depth rest other) (by decide)
  have brackets : (enclosed '(' ')' (expressionRule depth)).Rereads fun _ _ => True :=
    rereads_enclosed (by decide) inner fun _ _ start => stopsChain_of_trimFront start (by decide)
  have literal {α : Type} {rule : Rule α} (again : rule.Rereads fun _ _ => True) (make : α → Expression) :
      (do let value ← rule; return make value : Rule Expression).Rereads fun _ _ => True :=
    rereads_bind again (fun _ => rereads_pure _) fun _ _ _ _ _ _ => trivial
  -- Each alternative is told by the character that it starts with.
  have names : (referenceRule (expressionRule depth)).Starts fun c => startsIdentifier c = true := by
    rw [referenceRule_eq]
    exact starts_bind starts_identifier _
  have round := starts_orElse (starts_enclosed '(' ')' (expressionRule depth)) names
  have curly := starts_orElse (starts_bind (starts_enclosed '\x7b' '\x7d' (elements (between [',']) (entryRule (expressionRule depth))))
    fun entries => (return .object entries : Rule Expression)) round
  have square := starts_orElse (starts_bind (starts_enclosed '[' ']' (elements (between [',']) (expressionRule depth)))
    fun items => (return .array items : Rule Expression)) curly
  have quotes := starts_orElse (starts_bind starts_quotedText fun text => (return .literal (.str text) : Rule Expression)) square
  have kinds : ∀ c ∈ ['\x27', '\x22', '[', '\x7b', '('], startsIdentifier c = false := by decide
  unfold primaryRule
  refine rereads_orElse numberRule_rereads (rereads_orElse (literal quotedText_rereads _) (rereads_orElse (literal items _)
    (rereads_orElse (literal entries _) (rereads_orElse brackets (referenceRule_rereads inner) ?_) ?_) ?_) ?_) ?_
  · intro text value rest done
    obtain ⟨c, more, rfl, starts⟩ := names _ _ _ done
    refine ⟨c :: more, enclosed_of_ne ?_ _ _ more⟩
    rintro rfl
    simp [kinds] at starts
  · intro text value rest done
    obtain ⟨c, more, rfl, starts⟩ := round _ _ _ done
    refine ⟨c :: more, bind_of_refused (enclosed_of_ne ?_ _ _ more)⟩
    rintro rfl
    simp [kinds] at starts
  · intro text value rest done
    obtain ⟨c, more, rfl, starts⟩ := curly _ _ _ done
    refine ⟨c :: more, bind_of_refused (enclosed_of_ne ?_ _ _ more)⟩
    rintro rfl
    simp [kinds] at starts
  · intro text value rest done
    obtain ⟨c, more, rfl, starts⟩ := square _ _ _ done
    refine ⟨c :: more, bind_of_refused (quotedText_of_ne ?_ ?_ more)⟩ <;> rintro rfl <;> simp [kinds] at starts
  · intro text value rest done
    obtain ⟨c, more, rfl, starts⟩ := quotes _ _ _ done
    refine ⟨c :: more, numberRule_of_ne ?_ more⟩
    rcases starts with (rfl | rfl) | rfl | rfl | rfl | starts
    · decide
    · decide
    · decide
    · decide
    · decide
    · exact (dark_of_startsIdentifier starts).2

/-- An index is read again whatever stands behind its bracket. -/
theorem index_again {text rest : List Char} {key : Expression}
    (done : enclosed '[' ']' (expressionRule depth) text = .done key rest) :
    ∃ read, text = read ++ rest ∧ ∀ rest', enclosed '[' ']' (expressionRule depth) (read ++ rest') = .done key rest' :=
  enclosed_again (by decide) inner (fun _ _ start => stopsChain_of_trimFront start (by decide)) done

/-- A member or an index is read again. -/
theorem accessRule_rereads (target : Expression) : (accessRule (expressionRule depth) target).Rereads fun _ _ => True := by
  have key : (enclosed '[' ']' (expressionRule depth)).Rereads fun _ _ => True :=
    rereads_enclosed (by decide) inner fun _ _ start => stopsChain_of_trimFront start (by decide)
  unfold accessRule
  refine rereads_orElse ?_ ?_ fun text value rest done => ?_
  · refine rereads_bind (rereads_exactly ['.']) (fun _ => ?_) fun _ _ _ _ _ _ => trivial
    exact rereads_bind identifier_rereads (fun _ => rereads_pure _) fun _ _ _ _ _ _ => trivial
  · exact rereads_bind key (fun _ => rereads_pure _) fun _ _ _ _ _ _ => trivial
  · obtain ⟨_, more, rfl, rfl⟩ := starts_bind (starts_enclosed '[' ']' (expressionRule depth)) _ _ _ _ done
    exact ⟨_, bind_of_refused (exactly_of_ne (by decide) more)⟩

omit inner in
/-- Where neither a member nor an index follows, there are no dot and name in front. -/
theorem not_startsMember_of_refused {nested : Rule Expression} {target : Expression} {text left : List Char}
    (missed : accessRule nested target text = .refused left) : ¬ StartsMember text := by
  rintro ⟨c, more, rfl, starts⟩
  obtain ⟨property, behind, read⟩ := identifier_of_starts starts more
  have done : (do exactly ['.']; let property ← identifier; return .member target property : Rule Expression) ('.' :: c :: more) =
      .done (.member target property) behind := by
    rw [bind_of_done (exactly_cons '.' _)]
    exact bind_of_done read
  rw [accessRule, orElse_of_done done] at missed
  cases missed

omit inner in
/-- Without a dot and a name in front the reader looks for an index only. -/
theorem accessRule_of_not_startsMember (nested : Rule Expression) (target : Expression) {text : List Char}
    (none : ¬ StartsMember text) :
    accessRule nested target text = (do let key ← enclosed '[' ']' nested; return .index target key : Rule Expression) text := by
  let named : Rule Expression := do
    let property ← identifier
    return .member target property
  obtain ⟨left, noMember⟩ := member_refused none fun text refused => (bind_of_refused refused : named text = .refused text)
  exact orElse_of_refused noMember

omit inner in
/-- Where neither a member nor an index follows, none does if the text is cut off and no bracket is left in front. -/
theorem accessRule_refused_again {target : Expression} {text rest left : List Char} (cut : Curtailed text rest)
    (stops : StopsChain rest) (missed : accessRule (expressionRule depth) target text = .refused left) :
    ∃ left, accessRule (expressionRule depth) target rest = .refused left := by
  have none : ¬ StartsMember rest := fun starts => not_startsMember_of_refused missed (starts.of_curtailed cut)
  rw [accessRule_of_not_startsMember _ _ none]
  cases rest with
  | nil => exact ⟨[], rfl⟩
  | cons c more =>
    have other : '[' ≠ c := by
      rintro rfl
      exact stops more rfl
    exact ⟨_, bind_of_refused (enclosed_of_ne other _ _ more)⟩

/-- A member or an index that follows follows as well if there is more text behind it. -/
theorem accessRule_not_refused {target longer : Expression} {text rest : List Char}
    (done : accessRule (expressionRule depth) target text = .done longer rest) (more left : List Char) :
    accessRule (expressionRule depth) target (text ++ more) ≠ .refused left := by
  intro missed
  have none := not_startsMember_of_refused missed
  rw [accessRule_of_not_startsMember _ _ fun starts => none (starts.append more)] at done
  obtain ⟨key, behind, here, -⟩ := done_of_bind done
  obtain ⟨read, rfl, again⟩ := index_again inner here
  rw [accessRule_of_not_startsMember _ _ none, List.append_assoc, bind_of_done (again _)] at missed
  cases missed

/-- Members and indexes are read as long as there are any, and where the text is cut off they are read again and more may follow. -/
theorem chainRule_again {text rest : List Char} {value : Expression}
    (done : chainRule (expressionRule depth) text = .done value rest) :
    (∃ left, accessRule (expressionRule depth) value rest = .refused left) ∧
      ∃ read, text = read ++ rest ∧ ∀ rest', Curtailed rest rest' →
        chainRule (expressionRule depth) (read ++ rest') = moreAccesses (expressionRule depth) rest'.length value rest' := by
  obtain ⟨target, middle, here, accesses⟩ := done_of_bind done
  simp only [moreAccesses_eq] at accesses
  obtain ⟨front, rfl, again⟩ := primaryRule_rereads inner _ _ _ here
  obtain ⟨ended, read, rfl, again'⟩ := steps_again (accessRule_rereads inner)
    (fun _ _ _ _ found => length_lt_of_accessRule depth found) (fun _ => ⟨[], rfl⟩) accesses
  refine ⟨ended, front ++ read, (List.append_assoc _ _ _).symm, fun rest' cut => ?_⟩
  rw [List.append_assoc]
  calc chainRule (expressionRule depth) (front ++ (read ++ rest'))
      = moreAccesses (expressionRule depth) (read ++ rest').length target (read ++ rest') :=
        bind_of_done (again _ (cut.append read) trivial)
    _ = moreAccesses (expressionRule depth) rest'.length value rest' := by
        rw [moreAccesses_eq, moreAccesses_eq]
        exact again' rest' cut

/-- An expression with its members and indexes is read again if no bracket is left in front. -/
theorem chainRule_rereads : (chainRule (expressionRule depth)).Rereads fun _ => StopsChain := by
  intro text value rest done
  obtain ⟨⟨left, missed⟩, read, rfl, again⟩ := chainRule_again inner done
  refine ⟨read, rfl, fun rest' cut stops => ?_⟩
  obtain ⟨left, missed⟩ := accessRule_refused_again cut stops missed
  rw [again rest' cut, moreAccesses_of_refused missed]

end Nested

/-- How many unary operators are looked for does not matter if there are turns for every character. -/
theorem unaryRule_congr (nested : Rule Expression) {turns turns' : Nat} {text : List Char} (ample : text.length ≤ turns)
    (ample' : text.length ≤ turns') : unaryRule nested turns text = unaryRule nested turns' text := by
  induction turns generalizing turns' text with
  | zero =>
    obtain rfl := List.eq_nil_of_length_eq_zero (Nat.le_zero.mp ample)
    rw [unaryRule_of_ne _ (by simp) (by simp), unaryRule_of_ne _ (by simp) (by simp)]
  | succ turns same =>
    cases turns' with
    | zero =>
      obtain rfl := List.eq_nil_of_length_eq_zero (Nat.le_zero.mp ample')
      rw [unaryRule_of_ne _ (by simp) (by simp), unaryRule_of_ne _ (by simp) (by simp)]
    | succ turns' =>
      have operand (op : UnaryOp) {more : List Char} (ample : more.length ≤ turns) (ample' : more.length ≤ turns') :
          signedRule nested turns op more = signedRule nested turns' op more := by
        have less := (List.dropWhile_sublist isBlank (l := more)).length_le
        rw [signedRule_apply, signedRule_apply, trimFront, same (less.trans ample) (less.trans ample')]
      rw [unaryRule_succ, unaryRule_succ]
      split
      · exact operand .not (Nat.le_of_succ_le_succ ample) (Nat.le_of_succ_le_succ ample')
      · exact operand .negate (Nat.le_of_succ_le_succ ample) (Nat.le_of_succ_le_succ ample')
      · rfl

/-- A unary operator is read with its sign, and behind white space its operand is. -/
theorem unaryRule_sign (nested : Rule Expression) {sign : Char} {op : UnaryOp}
    (reads : ∀ turns text, unaryRule nested (turns + 1) (sign :: text) = signedRule nested turns op text) (text : List Char) :
    unaryRule nested (sign :: text).length (sign :: text) = (do
      blanks
      let operand ← fun text => unaryRule nested text.length text
      return .unary op operand : Rule Expression) text := by
  have less := (List.dropWhile_sublist isBlank (l := text)).length_le
  rw [List.length_cons, reads, signedRule, bind_of_done (rfl : blanks text = .done () (trimFront text)),
    bind_of_done (rfl : blanks text = .done () (trimFront text))]
  exact bind_congr_at (unaryRule_congr nested less (Nat.le_refl _)) _

/-- Behind its unary operators an expression ends in one without them. -/
theorem unaryRule_endsIn (nested : Rule Expression) : EndsIn (fun text => unaryRule nested text.length text) (chainRule nested) := by
  intro text
  induction short : text.length using Nat.strong_induction_on generalizing text with
  | _ size later =>
  subst short
  have signed {sign : Char} {op : UnaryOp} {more : List Char} (same : text = sign :: more)
      (reads : ∀ turns text, unaryRule nested (turns + 1) (sign :: text) = signedRule nested turns op text) :
      EndsAt (fun text => unaryRule nested text.length text) (chainRule nested) text := by
    subst same
    have operand : (do
        blanks
        let operand ← fun text => unaryRule nested text.length text
        return .unary op operand : Rule Expression).EndsAt (chainRule nested) more := by
      refine .behind rereads_blanks (fun _ _ _ _ _ => trivial) fun _ middle skipped => .map ?_ _
      exact later _ (Nat.lt_succ_of_le (length_le_of_blanks skipped)) middle rfl
    intro value rest done
    obtain ⟨front, part, last, next, rfl, ends, stops, cut⟩ := operand _ _ ((unaryRule_sign nested reads more).symm.trans done)
    exact ⟨sign :: front, part, last, next, rfl, ends, stops,
      fun part' short => (unaryRule_sign nested reads _).trans (cut part' short)⟩
  by_cases negated : ∃ more, text = '!' :: more
  · obtain ⟨more, same⟩ := negated
    exact signed same fun _ _ => rfl
  by_cases minus : ∃ more, text = '-' :: more
  · obtain ⟨more, same⟩ := minus
    exact signed same fun _ _ => rfl
  -- Without a sign in front there is none either if the text is cut off.
  have chain {shorter : List Char} (cut : Curtailed text shorter) :
      unaryRule nested shorter.length shorter = chainRule nested shorter := by
    refine unaryRule_of_ne _ ?_ ?_
    · rintro more rfl
      cases cut with
      | closed closes => exact absurd closes (by decide)
      | cons => exact negated ⟨_, rfl⟩
    · rintro more rfl
      cases cut with
      | closed closes => exact absurd closes (by decide)
      | cons => exact minus ⟨_, rfl⟩
  intro value rest done
  have whole := (chain (.refl text)).symm.trans done
  obtain ⟨front, part, last, next, rfl, ends, stops, cut⟩ := EndsIn.refl (chainRule nested) text value rest whole
  exact ⟨front, part, last, next, rfl, ends, stops, fun part' short => (chain (short.append front)).trans (cut part' short)⟩

/-- Whether no sign of an operator holds a bracket or a comma. -/
def AreOpen (signs : OperatorSigns) : Prop :=
  -- Parentheses cannot be part of one, either.
  ∀ sign ∈ signs, ∀ c ∈ [',', ')', ']', '\x7d', '['], c ∉ sign.1

section Levels

variable {signs : OperatorSigns} (apart : AreOpen signs)

include apart

omit signs apart in
/-- A sign without brackets and commas that is in front of a text that is cut off is in front of the whole text. -/
theorem AreOpen.starts {signs : OperatorSigns} (apart : AreOpen signs) {sign : List Char × BinaryOp} (listed : sign ∈ signs)
    {longer shorter : List Char} (cut : Curtailed longer shorter) (there : sign.1.isPrefixOf shorter = true) :
    sign.1.isPrefixOf longer = true := by
  have inert : ∀ c ∈ [',', ')', ']', '\x7d'], c ∉ sign.1 := fun c closes => apart sign listed c (List.mem_append_left ['['] closes)
  exact cut.starts inert there

/-- Where no operator is found, none is if the text is cut off. -/
theorem operatorAt?_curtailed {longer shorter : List Char} (cut : Curtailed longer shorter)
    (missing : operatorAt? signs longer = none) : operatorAt? signs shorter = none := by
  simp only [operatorAt?, Option.map_eq_none_iff, List.find?_eq_none] at missing ⊢
  exact fun sign listed there => missing sign listed (apart.starts listed cut there)

/-- An operator that is found is found again if the text is cut off behind its sign. -/
theorem operatorAt?_again {text behind : List Char} {op : BinaryOp} (found : operatorAt? signs text = some (op, behind)) :
    ∃ sign, (sign, op) ∈ signs ∧ text = sign ++ behind ∧
      ∀ rest, Curtailed behind rest → operatorAt? signs (sign ++ rest) = some (op, rest) := by
  obtain ⟨⟨sign, op'⟩, first, same⟩ := Option.map_eq_some_iff.mp found
  cases same
  have listed := List.mem_of_find?_eq_some first
  obtain ⟨there, before, after, split, missed⟩ := List.find?_eq_some_iff_append.mp first
  have whole : text = sign ++ text.drop sign.length := (List.prefix_iff_eq_append.mp (List.isPrefixOf_iff_prefix.mp there)).symm
  refine ⟨sign, listed, whole, fun rest cut => ?_⟩
  have cut' : Curtailed text (sign ++ rest) := by
    rw [whole]
    exact cut.append sign
  have here : sign.isPrefixOf (sign ++ rest) = true := List.isPrefixOf_iff_prefix.mpr (List.prefix_append sign rest)
  -- The signs in front of it in the list are still missing.
  have again : signs.find? (fun sign' => sign'.1.isPrefixOf (sign ++ rest)) = some (sign, op') := by
    refine List.find?_eq_some_iff_append.mpr ⟨here, before, after, split, fun other inside => ?_⟩
    have none := missed other inside
    rw [Bool.not_eq_true', ← Bool.not_eq_true] at none ⊢
    have listed' : other ∈ signs := by
      rw [split]
      exact List.mem_append_left _ inside
    exact fun there => none (apart.starts listed' cut' there)
  rw [operatorAt?, again]
  simp

/-- Where an operator follows no bracket is in front. -/
theorem stopsChain_of_operator (plain : ArePlain signs) {text behind : List Char} {op : BinaryOp}
    (found : operatorAt? signs (trimFront text) = some (op, behind)) : StopsChain text := by
  obtain ⟨sign, listed, front⟩ := eq_append_of_operatorAt? found
  obtain ⟨c, more, start⟩ := List.exists_cons_of_ne_nil (plain _ listed).1
  simp only at start
  have first : trimFront text = c :: (more ++ behind) := by rw [front, start, List.cons_append]
  refine stopsChain_of_trimFront first ?_
  rintro rfl
  refine apart _ listed '[' (by decide) ?_
  simp [start]

variable {operand : Rule Expression} (again : operand.Rereads fun _ => StopsChain)

include again

variable (plain : ArePlain signs) (reads : operand.Reads Balanced (Everywhere IsReadable))

include plain reads

omit apart again in
/-- Behind an operator its right operand is read, and then more of them. -/
theorem moreOperands_of_some {text behind : List Char} {op : BinaryOp}
    (found : operatorAt? signs (trimFront text) = some (op, behind)) (left : Expression) :
    moreOperands operand signs text.length left text = (do
      blanks
      let right ← operand
      fun text => moreOperands operand signs text.length (.binary op left right) text : Rule Expression) behind := by
  have less := length_lt_of_operatorAt? plain found
  have front := length_le_of_blanks (rfl : blanks text = .done () (trimFront text))
  have gap := length_le_of_blanks (rfl : blanks behind = .done () (trimFront behind))
  obtain ⟨turns, some⟩ := Nat.exists_eq_add_one_of_ne_zero (n := text.length) (by omega)
  rw [some, moreOperands, bind_of_done (rfl : blanks behind = .done () (trimFront behind))]
  simp only [found]
  change _ = andThen operand _ (trimFront behind)
  unfold andThen
  cases outcome : operand (trimFront behind) with
  | done right rest =>
    have least := reads.length_le outcome
    exact moreOperands_congr plain reads _ (by omega) (Nat.le_refl _)
  | refused rest => rfl
  | failed rest => rfl

omit again in
/-- More operands end in the last of them if an operator follows. -/
theorem moreOperands_endsAt {text behind : List Char} {op : BinaryOp} {left : Expression}
    (found : operatorAt? signs (trimFront text) = some (op, behind))
    (later : (do
      let right ← operand
      fun text => moreOperands operand signs text.length (.binary op left right) text : Rule Expression).EndsAt operand
        (trimFront behind)) :
    EndsAt (fun text => moreOperands operand signs text.length left text) operand text := by
  intro value rest done
  obtain ⟨gap, same, skipped⟩ := rereads_blanks text () (trimFront text) rfl
  obtain ⟨sign, listed, start, found'⟩ := operatorAt?_again apart found
  have right : (do
      blanks
      let right ← operand
      fun text => moreOperands operand signs text.length (.binary op left right) text : Rule Expression).EndsAt operand behind := by
    refine .behind rereads_blanks (fun _ _ _ _ _ => trivial) fun _ middle skipped => ?_
    cases skipped
    exact later
  have operands := (moreOperands_of_some plain reads found left).symm.trans done
  obtain ⟨front, part, last, next, rfl, ends, stops, cut⟩ := right _ _ operands
  refine ⟨gap ++ (sign ++ front), part, last, next, ?_, ends, stops, fun part' short => ?_⟩
  · rw [same, start]
    simp
  · have short' := short.append front
    have cut' : Curtailed (trimFront text) (sign ++ (front ++ part')) := by
      rw [start]
      exact short'.append sign
    have blank : trimFront (gap ++ (sign ++ (front ++ part'))) = sign ++ (front ++ part') :=
      (Outcome.done.inj (skipped _ cut' trivial)).2
    have there : operatorAt? signs (trimFront (gap ++ (sign ++ (front ++ part')))) = some (op, front ++ part') := by
      rw [blank, found' _ short']
    simp only [List.append_assoc]
    exact (moreOperands_of_some plain reads there left).trans (cut part' short)

/-- Operands of one level end in the last of them, whatever is made of the first one. -/
theorem operands_endIn (build : Expression → Expression) : EndsIn (do
    let left ← operand
    fun text => moreOperands operand signs text.length (build left) text : Rule Expression) operand := by
  intro text
  induction short : text.length using Nat.strong_induction_on generalizing text build with
  | _ size later =>
  subst short
  intro value rest done
  obtain ⟨left, middle, here, more⟩ := done_of_bind done
  cases found : operatorAt? signs (trimFront middle) with
  | none =>
    obtain ⟨rfl, rfl⟩ := Outcome.done.inj ((moreOperands_of_none found _ _).symm.trans more)
    refine ⟨[], text, left, _, rfl, here, fun rest' cut => ?_, fun _ _ => rfl⟩
    exact moreOperands_of_none (operatorAt?_curtailed apart (cut.dropWhile (by decide)) found) _ _
  | some found' =>
    obtain ⟨op, behind⟩ := found'
    have less : (trimFront behind).length < text.length := by
      have sign := length_lt_of_operatorAt? plain found
      have front := length_le_of_blanks (rfl : blanks middle = .done () (trimFront middle))
      have gap := length_le_of_blanks (rfl : blanks behind = .done () (trimFront behind))
      have first := reads.length_le here
      omega
    have stops : StopsChain middle := stopsChain_of_operator apart plain found
    refine EndsAt.behind again (fun _ _ here' shorter cut => ?_) (fun _ _ here' => ?_) _ _ done
    · rw [here] at here'
      cases here'
      exact stops.of_curtailed cut
    · rw [here] at here'
      cases here'
      exact moreOperands_endsAt apart plain reads found (later _ less _ _ rfl)

/-- Operands of one level end in the last of them. -/
theorem levelRule_endsIn : (levelRule signs operand).EndsIn operand :=
  operands_endIn apart again plain reads id

end Levels

/-- No sign of any level holds a bracket or a comma. -/
theorem areOpen_levelSigns (level : Nat) : AreOpen (levelSigns level) := by
  have all : ∀ signs ∈ operatorLevels, AreOpen signs := by
    unfold AreOpen
    decide
  unfold levelSigns
  by_cases within : level < operatorLevels.length
  · rw [List.getD_eq_getElem _ _ within]
    exact all _ (List.getElem_mem within)
  · rw [List.getD_eq_default _ _ (Nat.le_of_not_lt within)]
    exact nofun

/-- On every level an expression ends in one without operators. -/
theorem looseRule_endsIn {depth : Nat} (inner : (expressionRule depth).Rereads fun _ => StopsChain) (level : Nat) :
    (looseRule depth level).EndsIn (chainRule (expressionRule depth)) := by
  induction level using looseRule.induct with
  | case1 => exact .refl _
  | case2 => exact unaryRule_endsIn (expressionRule depth)
  | case3 level tighter =>
    have again := tighter.rereads (chainRule_rereads inner)
    have reads := looseRule_reads depth (level + 1)
    exact (levelRule_endsIn (areOpen_levelSigns level) again (arePlain_levelSigns level) reads).trans tighter

/-- Whatever is read as an expression is read again if no bracket is left in front of what follows. -/
theorem expressionRule_rereads (depth : Nat) : (expressionRule depth).Rereads fun _ => StopsChain := by
  induction depth with
  | zero => exact fun text value rest done => by cases done
  | succ depth inner => exact (looseRule_endsIn inner 7).rereads (chainRule_rereads inner)

/-- Where nothing stands no expression is read. -/
theorem expressionRule_nil (depth : Nat) : ∃ left, expressionRule depth [] = .refused left := by
  cases depth with
  | zero => exact ⟨[], rfl⟩
  | succ depth =>
    have levels (level : Nat) : looseRule depth level [] = .refused [] := by
      induction level using looseRule.induct with
      | case1 => rfl
      | case2 => rfl
      | case3 level tighter => exact bind_of_refused tighter
    exact ⟨[], levels 7⟩

end Phrasebook
