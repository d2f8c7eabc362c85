import Mathlib.Data.List.Find
import Phrasebook.Proofs.Expression.Shape
import Phrasebook.Proofs.Reading.Margins

/-! White space around an expression does not change what is read, and neither does the bound on its depth. -/

namespace Phrasebook

open Rule

/-- Reading some characters takes them off the text. -/
theorem length_lt_of_exactly {expected text rest : List Char} (some : expected ≠ [])
    (done : exactly expected text = .done () rest) : rest.length < text.length := by
  have reads : (exactly expected).Reads (· = expected) fun _ => True := reads_exactly rfl
  obtain ⟨read, rfl, rfl, _⟩ := reads _ _ _ done
  simpa using List.length_pos_iff.mpr some

/-- Skipping white space does not make a text longer. -/
theorem length_le_of_blanks {text rest : List Char} (done : blanks text = .done () rest) : rest.length ≤ text.length := by
  cases done
  exact (List.dropWhile_sublist _).length_le

/-- Reading a separator takes it off the text. -/
theorem length_lt_of_between {separator text rest : List Char} (some : separator ≠ [])
    (done : between separator text = .done () rest) : rest.length < text.length := by
  obtain ⟨_, front, skipped, done⟩ := done_of_bind done
  obtain ⟨_, behind, here, skipped'⟩ := done_of_bind done
  have less := length_lt_of_exactly some here
  have before := length_le_of_blanks skipped
  have after := length_le_of_blanks skipped'
  omega

/-- Reading a part between signs takes it off the text. -/
theorem length_lt_of_enclosed {α : Type} {Part : List Char → Prop} {Good : α → Prop} {opening closing : Char}
    {content : Rule α} (reads : content.Reads Part Good) {text rest : List Char} {value : α}
    (done : enclosed opening closing content text = .done value rest) : rest.length < text.length := by
  obtain ⟨_, inside, opens, done⟩ := done_of_bind done
  obtain ⟨_, start, skipped, done⟩ := done_of_bind done
  obtain ⟨_, behind, here, done⟩ := done_of_bind done
  obtain ⟨_, stop, skipped', done⟩ := done_of_bind done
  obtain ⟨_, left, closes, done⟩ := done_of_bind done
  cases done
  have first := length_lt_of_exactly (by simp) opens
  have second := length_le_of_blanks skipped
  have third := reads.length_le here
  have fourth := length_le_of_blanks skipped'
  have last := length_lt_of_exactly (by simp) closes
  omega

/-- White space is no digit. -/
theorem isDigit_of_isBlank : ∀ c, isBlank c = true → isDigit c = false :=
  not_of_isBlank isDigit (by decide)

/-- White space is neither a letter nor a numeral. -/
theorem isAlphanumeric_of_isBlank : ∀ c, isBlank c = true → isAlphanumeric c = false :=
  not_of_isBlank isAlphanumeric (by decide +kernel)

/-- White space does not continue an identifier. -/
theorem continuesIdentifier_of_isBlank (c : Char) (blank : isBlank c = true) : continuesIdentifier c = false := by
  have line : c ≠ '_' := by rintro rfl; exact absurd blank (by decide)
  simp [continuesIdentifier, isAlphanumeric_of_isBlank c blank, line]

/-- White space does not start an identifier. -/
theorem startsIdentifier_of_isBlank (c : Char) (blank : isBlank c = true) : startsIdentifier c = false := by
  -- Whatever starts an identifier can stand inside one.
  have other := continuesIdentifier_of_isBlank c blank
  simp only [continuesIdentifier, isAlphanumeric, Bool.or_eq_false_iff] at other
  simp only [startsIdentifier, other.1.1, other.2, Bool.or_false]

/-- White space does not continue a part after a dash. -/
theorem continuesDashed_of_isBlank (c : Char) (blank : isBlank c = true) : continuesDashed c = false := by
  have dot : c ≠ '.' := by rintro rfl; exact absurd blank (by decide)
  have here := continuesIdentifier_of_isBlank c blank
  simp only [continuesIdentifier] at here
  simp [continuesDashed, here, dot]

section Primitives

variable {bound : Nat}

/-- A number ends before the white space. -/
theorem numberRule_mirrors : numberRule.Mirrors bound numberRule := by
  -- The digits are the same, and no white space is a point.
  have literals (whole fraction : List Char) {rest₁ rest₂ : List Char} {limit : Nat} (trail : Trailing rest₁ rest₂)
      (short : rest₁.length ≤ limit) :
      (numberLiteral whole fraction rest₁).Mirrors limit (numberLiteral whole fraction rest₂) := by
    unfold numberLiteral
    split
    · exact .done trail short
    · dsimp only
      split
      · exact .done trail short
      · exact .failed
  intro text₁ text₂ trail _
  obtain ⟨whole, behind⟩ := trail.span isDigit_of_isBlank
  have shorter := (List.dropWhile_sublist (l := text₁) isDigit).length_le
  unfold numberRule
  rw [whole]
  dsimp only
  by_cases none : (text₂.takeWhile isDigit).isEmpty = true
  · rw [if_pos none, if_pos none]
    exact .refused
  · rw [if_neg none, if_neg none]
    generalize text₁.dropWhile isDigit = rest₁, text₂.dropWhile isDigit = rest₂ at behind shorter
    cases behind with
    | @gap _ blank =>
      -- White space is no point.
      have none : ∀ after, rest₁ ≠ '.' :: after := by
        rintro after rfl
        exact absurd (blank '.' List.mem_cons_self) (by decide)
      split
      · exact absurd rfl (none _)
      · exact literals _ _ (.gap blank) shorter
    | @cons c longer shorter' trail =>
      by_cases point : c = '.'
      · subst point
        obtain ⟨fraction, behind⟩ := trail.span isDigit_of_isBlank
        have less := (List.dropWhile_sublist isDigit (l := longer)).length_le
        simp only [fraction]
        split
        · exact literals _ _ (.cons '.' trail) shorter
        · refine literals _ _ behind ?_
          simp only [List.length_cons] at shorter
          omega
      · split
        · simp_all
        · split
          · simp_all
          · exact literals _ _ (.cons c trail) shorter

/-- White space alone does not close a quoted text. -/
theorem quotedRest_of_blank {quote : Char} (dark : isBlank quote = false) {gap : List Char}
    (blank : ∀ c ∈ gap, isBlank c = true) : quotedRest quote gap = none := by
  induction gap with
  | nil => rfl
  | cons c gap later =>
    obtain ⟨here, others⟩ := List.forall_mem_cons.mp blank
    have apart : c ≠ quote := by
      rintro rfl
      rw [dark] at here
      cases here
    have plain : c ≠ '\\' := by
      rintro rfl
      exact absurd here (by decide)
    rw [quotedRest_plain apart plain, later others]
    rfl

/-- Whether the same is read of two texts, and white space follows what is left of the first one. -/
def QuotedAlike (found₁ found₂ : List Char × List Char) : Prop :=
  -- What is read stands in front of what is left.
  found₁.1 = found₂.1 ∧ Trailing found₁.2 found₂.2

/-- A quoted text ends at its quote, before the white space. -/
theorem quotedRest_trailing {quote : Char} (sign : quote = '\x27' ∨ quote = '\x22') {text₁ text₂ : List Char}
    (trail : Trailing text₁ text₂) : Option.Rel QuotedAlike (quotedRest quote text₁) (quotedRest quote text₂) := by
  have dark : isBlank quote = false := by rcases sign with rfl | rfl <;> decide
  have apart : quote ≠ '\\' := by rcases sign with rfl | rfl <;> decide
  -- What is found behind some characters is found behind one more as well.
  have further {front₁ front₂ rest₁ rest₂ : List Char} {c : Char}
      (first : quotedRest quote front₁ = (quotedRest quote rest₁).map fun found => (c :: found.1, found.2))
      (second : quotedRest quote front₂ = (quotedRest quote rest₂).map fun found => (c :: found.1, found.2))
      (later : Option.Rel QuotedAlike (quotedRest quote rest₁) (quotedRest quote rest₂)) :
      Option.Rel QuotedAlike (quotedRest quote front₁) (quotedRest quote front₂) := by
    rw [first, second]
    generalize quotedRest quote rest₁ = found₁, quotedRest quote rest₂ = found₂ at later ⊢
    cases later with
    | none => exact .none
    | some alike => exact .some ⟨congrArg (c :: ·) alike.1, alike.2⟩
  have alone : quotedRest quote ['\\'] = none := by
    unfold quotedRest
    simp [apart.symm]
  induction text₂ using quotedRest.induct quote generalizing text₁ with
  | case1 =>
    cases trail with
    | gap blank =>
      rw [quotedRest_of_blank dark blank]
      exact .none
  | case2 c rest same =>
    obtain rfl : c = quote := eq_of_beq same
    cases trail with
    | @cons _ longer _ trail =>
      rw [quotedRest_quote c longer, quotedRest_quote c rest]
      exact .some ⟨rfl, trail⟩
  | case3 c other same =>
    obtain rfl : c = '\\' := eq_of_beq same
    cases trail with
    | @cons _ longer _ trail =>
      cases trail with
      | gap blank =>
        rw [alone]
        cases longer with
        | nil =>
          rw [alone]
          exact .none
        | cons escaped gap =>
          rw [quotedRest_escaped apart, quotedRest_of_blank dark (List.forall_mem_cons.mp blank).2]
          exact .none
  | case4 c other same escaped rest later =>
    obtain rfl : c = '\\' := eq_of_beq same
    cases trail with
    | @cons _ _ _ trail =>
      cases trail with
      | @cons _ longer _ trail =>
        exact further (quotedRest_escaped apart escaped longer) (quotedRest_escaped apart escaped rest) (later trail)
  | case5 c rest other plain later =>
    have other : c ≠ quote := by simpa using other
    have plain : c ≠ '\\' := by simpa using plain
    cases trail with
    | @cons _ longer _ trail =>
      exact further (quotedRest_plain other plain longer) (quotedRest_plain other plain rest) (later trail)

/-- A quoted text ends before the white space. -/
theorem quotedText_mirrors : quotedText.Mirrors bound quotedText := by
  intro text₁ text₂ trail _
  cases trail with
  | @gap _ blank =>
    cases text₁ with
    | nil => exact .refused
    | cons c rest =>
      -- White space is no quote.
      have here := blank c List.mem_cons_self
      have noQuote : ¬ (c == '\x27' || c == '\x22') = true := by
        rw [Bool.or_eq_true, beq_iff_eq, beq_iff_eq]
        rintro (rfl | rfl) <;> exact absurd here (by decide)
      unfold quotedText
      dsimp only
      rw [if_neg noQuote]
      exact .refused
  | @cons c longer shorter trail =>
    unfold quotedText
    dsimp only
    by_cases sign : (c == '\x27' || c == '\x22') = true
    · rw [if_pos sign, if_pos sign]
      rw [Bool.or_eq_true, beq_iff_eq, beq_iff_eq] at sign
      have alike := quotedRest_trailing sign trail
      generalize quoted : quotedRest c longer = found₁, quotedRest c shorter = found₂ at alike
      cases alike with
      | none => exact .refused
      | @some found₁ found₂ alike =>
        obtain ⟨same, behind⟩ := alike
        obtain ⟨raw, rfl, _⟩ := run?_of_quotedRest sign quoted
        dsimp only
        rw [same]
        refine .done behind ?_
        simp only [List.length_cons, List.length_append]
        omega
    · rw [if_neg sign, if_neg sign]
      exact .refused

/-- An identifier ends before the white space. -/
theorem identifier_mirrors : identifier.Mirrors bound identifier := by
  intro text₁ text₂ trail _
  cases trail with
  | @gap _ blank =>
    cases text₁ with
    | nil => exact .refused
    | cons c rest =>
      have noStart : ¬ startsIdentifier c = true := by
        simp [startsIdentifier_of_isBlank c (blank c List.mem_cons_self)]
      unfold identifier
      dsimp only
      rw [if_neg noStart]
      exact .refused
  | @cons c longer shorter trail =>
    obtain ⟨same, behind⟩ := trail.span continuesIdentifier_of_isBlank
    have less := (List.dropWhile_sublist continuesIdentifier (l := longer)).length_le
    unfold identifier
    dsimp only
    rw [same]
    by_cases starts : startsIdentifier c = true
    · rw [if_pos starts, if_pos starts]
      exact .done behind (less.trans (Nat.le_succ _))
    · rw [if_neg starts, if_neg starts]
      exact .refused

/-- Each segment takes its dot off the text. -/
theorem length_lt_of_segment (text : List Char) (value : String) (rest : List Char)
    (done : (do exactly ['.']; identifier : Rule String) text = .done value rest) : rest.length < text.length := by
  obtain ⟨_, behind, dot, name⟩ := done_of_bind done
  exact (identifier_reads.length_le name).trans_lt (length_lt_of_exactly (by simp) dot)

/-- As many further segments are read before the white space. -/
theorem segmentsRule_mirrors : segmentsRule.Mirrors bound segmentsRule := by
  intro text₁ text₂ trail within
  unfold segmentsRule
  rw [moreElements_eq length_lt_of_segment ⟨[], rfl⟩ (Nat.le_refl _) trail.length_le]
  exact mirrors_moreElements (mirrors_exactly (by decide)) identifier_mirrors text₁.length text₁ text₂ trail within

/-- Without a dash in front there are no parts after dashes. -/
theorem dashedParts_of_ne (turns : Nat) {text : List Char} (other : ∀ rest, text ≠ '-' :: rest) :
    dashedParts turns text = ([], text) := by
  unfold dashedParts
  split
  · exact absurd rfl (other _)
  · rfl

/-- A dash starts a part unless nothing follows that can stand in one. -/
theorem dashedParts_dash (turns : Nat) (rest : List Char) :
    dashedParts (turns + 1) ('-' :: rest) =
      if (rest.takeWhile continuesDashed).isEmpty = true then ([], '-' :: rest)
      else ('-' :: rest.takeWhile continuesDashed ++ (dashedParts turns (rest.dropWhile continuesDashed)).1,
        (dashedParts turns (rest.dropWhile continuesDashed)).2) :=
  -- Nothing is left to be computed.
  rfl

/-- The parts after dashes end before the white space. -/
theorem dashedParts_trailing {turns₁ turns₂ : Nat} {text₁ text₂ : List Char} (trail : Trailing text₁ text₂)
    (ample₁ : text₁.length ≤ turns₁) (ample₂ : text₂.length ≤ turns₂) :
    (dashedParts turns₁ text₁).1 = (dashedParts turns₂ text₂).1 ∧
      Trailing (dashedParts turns₁ text₁).2 (dashedParts turns₂ text₂).2 := by
  induction turns₁ generalizing turns₂ text₁ text₂ with
  | zero =>
    obtain rfl := List.eq_nil_of_length_eq_zero (Nat.le_zero.mp ample₁)
    cases trail with
    | gap blank =>
      rw [dashedParts_of_ne _ (by simp), dashedParts_of_ne _ (by simp)]
      exact ⟨rfl, .refl []⟩
  | succ turns₁ later =>
    cases trail with
    | @gap _ blank =>
      -- White space is no dash.
      have other : ∀ rest, text₁ ≠ '-' :: rest := by
        rintro rest rfl
        exact absurd (blank '-' List.mem_cons_self) (by decide)
      rw [dashedParts_of_ne _ other, dashedParts_of_ne _ (by simp)]
      exact ⟨rfl, .gap blank⟩
    | @cons c longer shorter trail =>
      by_cases dash : c = '-'
      · subst dash
        obtain ⟨turns₂, rfl⟩ := Nat.exists_eq_add_one_of_ne_zero (Nat.ne_of_gt (Nat.lt_of_lt_of_le (Nat.succ_pos _) ample₂))
        obtain ⟨same, behind⟩ := trail.span continuesDashed_of_isBlank
        have less₁ := (List.dropWhile_sublist continuesDashed (l := longer)).length_le
        have less₂ := (List.dropWhile_sublist continuesDashed (l := shorter)).length_le
        simp only [List.length_cons] at ample₁ ample₂
        obtain ⟨parts, behind⟩ := later behind (show _ ≤ turns₁ by omega) (show _ ≤ turns₂ by omega)
        rw [dashedParts_dash, dashedParts_dash, same]
        split
        · exact ⟨rfl, .cons '-' trail⟩
        · exact ⟨by rw [parts], behind⟩
      · rw [dashedParts_of_ne _ fun rest same => dash (List.cons.inj same).1,
          dashedParts_of_ne _ fun rest same => dash (List.cons.inj same).1]
        exact ⟨rfl, .cons c trail⟩

/-- Arguments start with a parenthesis, perhaps after an exclamation mark. -/
theorem startsArguments_eq (text : List Char) :
    startsArguments text = (['('].isPrefixOf text || ['!', '('].isPrefixOf text) := by
  rcases text with _ | ⟨c, _ | ⟨d, rest⟩⟩ <;> simp [startsArguments, List.isPrefixOf] <;> grind [startsArguments]

/-- The exclamation mark of a call is told by the parenthesis behind it. -/
theorem rerunRule_eq (text : List Char) :
    rerunRule text = if ['!', '('].isPrefixOf text = true then .done true (text.drop 1) else .done false text := by
  unfold rerunRule
  split
  · simp
  · rename_i other
    rw [if_neg]
    intro starts
    obtain ⟨rest, rfl⟩ := List.isPrefixOf_iff_prefix.mp starts
    exact other rest rfl

/-- The dashed end of a call name is there in both texts or in neither. -/
theorem dashedRule_mirrors : dashedRule.Mirrors bound dashedRule := by
  intro text₁ text₂ trail _
  obtain ⟨parts, behind⟩ := dashedParts_trailing trail (Nat.le_refl _) (Nat.le_refl _)
  have arguments : startsArguments (dashedParts text₁.length text₁).2 = startsArguments (dashedParts text₂.length text₂).2 := by
    rw [startsArguments_eq, startsArguments_eq, (behind.starts (by decide)).1, (behind.starts (by decide)).1]
  have short := dashedRule_reads.length_le (rfl : dashedRule text₁ = .done _ _)
  unfold dashedRule at short ⊢
  unfold dashedTail at short ⊢
  dsimp only at short ⊢
  rw [arguments] at short ⊢
  by_cases called : startsArguments (dashedParts text₂.length text₂).2 = true
  · simp only [if_pos called] at short ⊢
    rw [parts]
    exact .done behind short
  · simp only [if_neg called] at short ⊢
    exact .done trail short

/-- The exclamation mark of a call is there in both texts or in neither. -/
theorem rerunRule_mirrors : rerunRule.Mirrors bound rerunRule := by
  intro text₁ text₂ trail _
  have same := (trail.starts (by decide : ∀ c ∈ ['!', '('], isBlank c = false)).1
  have behind := (trail.starts (by decide : ∀ c ∈ ['!'], isBlank c = false)).2
  rw [rerunRule_eq, rerunRule_eq, same]
  split
  · rename_i starts
    obtain ⟨rest, rfl⟩ := List.isPrefixOf_iff_prefix.mp starts
    exact .done (behind (by simp)) (by simp)
  · exact .done trail (Nat.le_refl _)

/-- Arguments follow in both texts or in neither. -/
theorem calledRule_mirrors : calledRule.Mirrors bound calledRule := by
  intro text₁ text₂ trail _
  have looks (text : List Char) : calledRule text = .done (['('].isPrefixOf text) text := by
    cases text with
    | nil => rfl
    | cons c rest => simp [calledRule, List.isPrefixOf, BEq.comm]
  rw [looks, looks, (trail.starts (by decide : ∀ c ∈ ['('], isBlank c = false)).1]
  exact .done trail (Nat.le_refl _)

end Primitives

section Walk

variable {bound depth₁ depth₂ : Nat} (inner : (expressionRule depth₁).Mirrors bound (expressionRule depth₂))

/-- As many elements stand between commas. -/
theorem elements_mirrors {α : Type} {Good : α → Prop} {element₁ element₂ : Rule α} (element : element₁.Mirrors bound element₂)
    (reads : element₂.Reads Balanced Good) :
    (Rule.elements (Rule.between [',']) element₁).Mirrors bound (Rule.elements (Rule.between [',']) element₂) := by
  refine mirrors_elements (mirrors_between (by decide)) element (fun text value rest done => ?_) ⟨[], rfl⟩
  obtain ⟨_, behind, comma, done⟩ := done_of_bind done
  exact (reads.length_le done).trans_lt (length_lt_of_between (by simp) comma)

/-- Each member or index takes characters off the text. -/
theorem length_lt_of_accessRule (depth : Nat) {target value : Expression} {text rest : List Char}
    (done : accessRule (expressionRule depth) target text = .done value rest) : rest.length < text.length := by
  unfold accessRule orElse at done
  split at done
  · -- The dot is not there, so it is an index.
    obtain ⟨key, left, bracket, same⟩ := done_of_bind done
    cases same
    exact length_lt_of_enclosed (expressionRule_reads depth) bracket
  · obtain ⟨_, behind, dot, done⟩ := done_of_bind done
    obtain ⟨property, left, name, same⟩ := done_of_bind done
    cases same
    exact (identifier_reads.length_le name).trans_lt (length_lt_of_exactly (by simp) dot)

/-- A member or an index that is there takes characters off the text. -/
theorem length_lt_of_accessStep (depth : Nat) (target : Expression) (text : List Char) (next : Expression) (rest : List Char)
    (done : accessStep (expressionRule depth) target text = .done (some next) rest) : rest.length < text.length := by
  unfold accessStep Rule.optional at done
  split at done
  · rename_i here
    cases done
    exact length_lt_of_accessRule depth here
  · cases done
  · cases done

/-- How often members and indexes are looked for does not matter if there are turns for every character. -/
theorem moreAccesses_congr (depth : Nat) (target : Expression) {turns turns' : Nat} {text : List Char}
    (ample : text.length ≤ turns) (ample' : text.length ≤ turns') :
    moreAccesses (expressionRule depth) turns target text = moreAccesses (expressionRule depth) turns' target text := by
  rw [moreAccesses_eq, moreAccesses_eq]
  exact steps_eq (length_lt_of_accessStep depth) (fun _ => rfl) ample ample'

include inner

/-- References are the same in both texts. -/
theorem referenceRule_mirrors :
    (referenceRule (expressionRule depth₁)).Mirrors (bound + 1) (referenceRule (expressionRule depth₂)) := by
  rw [referenceRule_eq, referenceRule_eq]
  refine mirrors_bind identifier_mirrors fun first => mirrors_bind segmentsRule_mirrors fun segments => ?_
  refine mirrors_bind dashedRule_mirrors fun dashed => mirrors_bind rerunRule_mirrors fun rerun => ?_
  refine mirrors_bind calledRule_mirrors fun called => ?_
  split
  · have args := elements_mirrors inner (expressionRule_reads depth₂)
    exact mirrors_bind (mirrors_enclosed (by decide) args) fun args => mirrors_pure _
  · exact mirrors_pure _

/-- Entries of objects are the same in both texts. -/
theorem entryRule_mirrors : (entryRule (expressionRule depth₁)).Mirrors bound (entryRule (expressionRule depth₂)) := by
  refine mirrors_bind (mirrors_orElse quotedText_mirrors identifier_mirrors) fun name => ?_
  refine mirrors_bind (mirrors_between (by decide)) fun _ => mirrors_bind inner fun value => mirrors_pure _

/-- Expressions without operators are the same in both texts. -/
theorem primaryRule_mirrors :
    (primaryRule (expressionRule depth₁)).Mirrors (bound + 1) (primaryRule (expressionRule depth₂)) := by
  unfold primaryRule
  -- The alternatives are numbers, texts, lists, objects, brackets and references.
  refine mirrors_orElse numberRule_mirrors (mirrors_orElse ?_ (mirrors_orElse ?_ (mirrors_orElse ?_ (mirrors_orElse ?_ ?_))))
  · exact mirrors_bind quotedText_mirrors fun text => mirrors_pure _
  · have items := elements_mirrors inner (expressionRule_reads depth₂)
    exact mirrors_bind (mirrors_enclosed (by decide) items) fun items => mirrors_pure _
  · have entries := elements_mirrors (entryRule_mirrors inner) (entryRule_reads (expressionRule_reads depth₂))
    exact mirrors_bind (mirrors_enclosed (by decide) entries) fun entries => mirrors_pure _
  · exact mirrors_enclosed (by decide) inner
  · exact referenceRule_mirrors inner

/-- A member or an index is the same in both texts. -/
theorem accessRule_mirrors (target : Expression) :
    (accessRule (expressionRule depth₁) target).Mirrors (bound + 1) (accessRule (expressionRule depth₂) target) := by
  refine mirrors_orElse ?_ ?_
  · exact mirrors_bind (mirrors_exactly (by decide)) fun _ => mirrors_bind identifier_mirrors fun property => mirrors_pure _
  · exact mirrors_bind (mirrors_enclosed (by decide) inner) fun key => mirrors_pure _

/-- Members and indexes are the same in both texts, whatever bounds their number. -/
theorem moreAccesses_mirrors (target : Expression) :
    Rule.Mirrors (bound + 1) (fun text => moreAccesses (expressionRule depth₁) text.length target text)
      (fun text => moreAccesses (expressionRule depth₂) text.length target text) := by
  intro text₁ text₂ trail within
  dsimp only
  rw [moreAccesses_congr depth₂ target (Nat.le_refl _) trail.length_le, moreAccesses_eq, moreAccesses_eq]
  exact mirrors_steps (fun target => mirrors_optional (accessRule_mirrors inner target)) text₁.length target text₁ text₂
    trail within

/-- Expressions with their members and indexes are the same in both texts. -/
theorem chainRule_mirrors :
    (chainRule (expressionRule depth₁)).Mirrors (bound + 1) (chainRule (expressionRule depth₂)) :=
  mirrors_bind (primaryRule_mirrors inner) fun target => moreAccesses_mirrors inner target

/-- Expressions with the unary operators in front of them are the same in both texts, whatever bounds their number. -/
theorem unaryRule_mirrors {turns₁ turns₂ : Nat} {text₁ text₂ : List Char} (trail : Trailing text₁ text₂)
    (within : text₁.length < bound + 1) (ample₁ : text₁.length ≤ turns₁) (ample₂ : text₂.length ≤ turns₂) :
    (unaryRule (expressionRule depth₁) turns₁ text₁).Mirrors text₁.length
      (unaryRule (expressionRule depth₂) turns₂ text₂) := by
  have chain := chainRule_mirrors inner
  induction turns₁ generalizing turns₂ text₁ text₂ with
  | zero =>
    obtain rfl := List.eq_nil_of_length_eq_zero (Nat.le_zero.mp ample₁)
    cases trail with
    | gap =>
      rw [unaryRule_of_ne turns₂ (by simp) (by simp)]
      exact chain [] [] (.refl []) within
  | succ turns₁ later =>
    cases trail with
    | @gap _ blank =>
      -- White space is no sign.
      have other (sign : Char) (dark : isBlank sign = false) : ∀ rest, text₁ ≠ sign :: rest := by
        rintro rest rfl
        rw [blank sign List.mem_cons_self] at dark
        cases dark
      rw [unaryRule_of_ne _ (other '!' (by decide)) (other '-' (by decide)), unaryRule_of_ne turns₂ (by simp) (by simp)]
      exact chain _ [] (.gap blank) within
    | @cons c longer shorter trail =>
      obtain ⟨turns₂, rfl⟩ := Nat.exists_eq_add_one_of_ne_zero (Nat.ne_of_gt (Nat.lt_of_lt_of_le (Nat.succ_pos _) ample₂))
      have less₁ := (List.dropWhile_sublist isBlank (l := longer)).length_le
      have less₂ := (List.dropWhile_sublist isBlank (l := shorter)).length_le
      simp only [List.length_cons] at within ample₁ ample₂
      have signed (op : UnaryOp) : (signedRule (expressionRule depth₁) turns₁ op longer).Mirrors (longer.length + 1)
          (signedRule (expressionRule depth₂) turns₂ op shorter) := by
        have operand := later trail.trimFront (by unfold trimFront; omega) (show _ ≤ turns₁ by unfold trimFront; omega)
          (show _ ≤ turns₂ by unfold trimFront; omega)
        rw [signedRule_apply, signedRule_apply]
        unfold trimFront at operand ⊢
        generalize unaryRule (expressionRule depth₁) turns₁ _ = outcome₁, unaryRule (expressionRule depth₂) turns₂ _ = outcome₂
          at operand ⊢
        cases operand with
        | done behind short => exact .done behind (by omega)
        | refused => exact .refused
        | failed => exact .failed
      by_cases bang : c = '!'
      · subst bang
        exact signed .not
      · by_cases minus : c = '-'
        · subst minus
          exact signed .negate
        · rw [unaryRule_of_ne _ (fun rest same => bang (List.cons.inj same).1) fun rest same => minus (List.cons.inj same).1,
            unaryRule_of_ne _ (fun rest same => bang (List.cons.inj same).1) fun rest same => minus (List.cons.inj same).1]
          exact chain _ _ (.cons c trail) within

end Walk

section Levels

variable {signs : OperatorSigns} (plain : ArePlain signs)

include plain

/-- The same operator stands in front of both texts, or none does. -/
theorem operatorAt?_trailing {text₁ text₂ : List Char} (trail : Trailing text₁ text₂) :
    (operatorAt? signs text₁ = none ∧ operatorAt? signs text₂ = none) ∨
      ∃ op rest₁ rest₂, operatorAt? signs text₁ = some (op, rest₁) ∧ operatorAt? signs text₂ = some (op, rest₂) ∧
        Trailing rest₁ rest₂ := by
  have same : signs.find? (fun sign => sign.1.isPrefixOf text₁) = signs.find? (fun sign => sign.1.isPrefixOf text₂) := by
    refine List.find?_congr fun sign listed => ?_
    exact (trail.starts fun c inside => ((plain sign listed).2 c inside).2).1
  unfold operatorAt?
  rw [same]
  cases found : signs.find? (fun sign => sign.1.isPrefixOf text₂) with
  | none => exact .inl ⟨rfl, rfl⟩
  | some sign =>
    have starts : sign.1.isPrefixOf text₂ = true := by simpa using List.find?_some found
    have listed := List.mem_of_find?_eq_some found
    have behind := (trail.starts fun c inside => ((plain sign listed).2 c inside).2).2 starts
    exact .inr ⟨sign.2, _, _, rfl, rfl, behind⟩

/-- An operator takes its sign off the text. -/
theorem length_lt_of_operatorAt? {text rest : List Char} {op : BinaryOp} (found : operatorAt? signs text = some (op, rest)) :
    rest.length < text.length := by
  obtain ⟨sign, listed, rfl⟩ := eq_append_of_operatorAt? found
  have some := List.length_pos_iff.mpr (plain _ listed).1
  simpa using some

variable {bound : Nat} {operand₁ operand₂ : Rule Expression} (mirrors : operand₁.Mirrors bound operand₂)
    (reads : operand₂.Reads Balanced (Expression.Everywhere Expression.IsReadable))

include mirrors in
/-- The same operator and operand follow in both texts. -/
theorem operandRule_mirrors (left : Expression) :
    (operandRule operand₁ signs left).Mirrors bound (operandRule operand₂ signs left) := by
  intro text₁ text₂ trail within
  unfold operandRule
  have front := (List.dropWhile_sublist isBlank (l := text₁)).length_le
  rcases operatorAt?_trailing plain trail.trimFront with ⟨none₁, none₂⟩ | ⟨op, rest₁, rest₂, some₁, some₂, behind⟩
  · rw [none₁, none₂]
    exact .done trail (Nat.le_refl _)
  · rw [some₁, some₂]
    have less := length_lt_of_operatorAt? plain some₁
    unfold trimFront at less
    have right : (rightRule operand₁ op left).Mirrors bound (rightRule operand₂ op left) :=
      mirrors_bind mirrors_blanks fun _ => mirrors_bind mirrors fun right => mirrors_pure _
    exact (right rest₁ rest₂ behind (by omega)).of_le (by omega)

/-- Nothing follows where the text is over. -/
theorem operandRule_nil (operand : Rule Expression) (left : Expression) : operandRule operand signs left [] = .done none [] := by
  unfold operandRule
  cases found : operatorAt? signs (trimFront []) with
  | none => rfl
  | some found => exact absurd (length_lt_of_operatorAt? plain found) (Nat.not_lt_zero _)

include reads in
/-- An operator that is there takes its sign off the text. -/
theorem length_lt_of_operandRule (left : Expression) (text : List Char) (next : Expression) (rest : List Char)
    (done : operandRule operand₂ signs left text = .done (some next) rest) : rest.length < text.length := by
  unfold operandRule at done
  split at done
  · cases done
  · rename_i op behind found
    have less := length_lt_of_operatorAt? plain found
    have front := (List.dropWhile_sublist isBlank (l := text)).length_le
    have gap := (List.dropWhile_sublist isBlank (l := behind)).length_le
    rw [rightRule_apply] at done
    unfold trimFront at less done
    split at done
    · rename_i here
      cases done
      have least := reads.length_le here
      omega
    · cases done
    · cases done

include reads in
/-- How often operators are looked for does not matter if there are turns for every character. -/
theorem moreOperands_congr (left : Expression) {turns turns' : Nat} {text : List Char} (ample : text.length ≤ turns)
    (ample' : text.length ≤ turns') : moreOperands operand₂ signs turns left text = moreOperands operand₂ signs turns' left text := by
  rw [moreOperands_eq, moreOperands_eq]
  exact steps_eq (length_lt_of_operandRule plain reads) (operandRule_nil plain operand₂) ample ample'

include mirrors reads in
/-- Operands of one level are the same in both texts. -/
theorem levelRule_mirrors : (levelRule signs operand₁).Mirrors bound (levelRule signs operand₂) := by
  refine mirrors_bind mirrors fun left text₁ text₂ trail within => ?_
  rw [moreOperands_congr plain reads left (Nat.le_refl _) trail.length_le, moreOperands_eq, moreOperands_eq]
  exact mirrors_steps (operandRule_mirrors plain mirrors) text₁.length left text₁ text₂ trail within

end Levels

/-- Within two bounds on the depth, the same is read from texts that are shorter and differ in white space at the end. -/
theorem expressionRule_mirrors {bound depth₁ depth₂ : Nat} (deep₁ : bound ≤ depth₁) (deep₂ : bound ≤ depth₂) :
    (expressionRule depth₁).Mirrors bound (expressionRule depth₂) := by
  induction bound generalizing depth₁ depth₂ with
  | zero => exact fun text₁ text₂ trail within => absurd within (Nat.not_lt_zero _)
  | succ bound inner =>
    obtain ⟨depth₁, rfl⟩ := Nat.exists_eq_add_one_of_ne_zero (Nat.ne_of_gt (Nat.lt_of_lt_of_le (Nat.succ_pos _) deep₁))
    obtain ⟨depth₂, rfl⟩ := Nat.exists_eq_add_one_of_ne_zero (Nat.ne_of_gt (Nat.lt_of_lt_of_le (Nat.succ_pos _) deep₂))
    have nested := inner (Nat.le_of_succ_le_succ deep₁) (Nat.le_of_succ_le_succ deep₂)
    rw [expressionRule, expressionRule]
    -- Each operator level keeps what holds of the level below.
    have levels : ∀ (levels : List OperatorSigns) (operand₁ operand₂ : Rule Expression), (∀ signs ∈ levels, ArePlain signs) →
        operand₁.Mirrors (bound + 1) operand₂ → operand₂.Reads Balanced (Expression.Everywhere Expression.IsReadable) →
          (levels.foldl (fun operand signs => levelRule signs operand) operand₁).Mirrors (bound + 1)
            (levels.foldl (fun operand signs => levelRule signs operand) operand₂) := by
      intro levels
      induction levels with
      | nil => exact fun _ _ _ mirrors _ => mirrors
      | cons signs rest later =>
        intro operand₁ operand₂ plain mirrors reads
        obtain ⟨here, others⟩ := List.forall_mem_cons.mp plain
        exact later _ _ others (levelRule_mirrors here mirrors reads) (levelRule_reads here reads)
    refine levels _ _ _ arePlain_operatorLevels (fun text₁ text₂ trail within => ?_)
      fun text => unaryRule_reads (expressionRule_reads depth₂) text.length text
    exact unaryRule_mirrors nested trail within (Nat.le_refl _) (Nat.le_refl _)

namespace Expression

/-- A text spells an expression if it is read behind the white space in front, and white space is all that is left over. -/
theorem parse_eq_ok_iff {source : String} {expression : Expression} :
    Expression.parse source = .ok expression ↔
      ∃ rest, expressionRule (source.toList.length + 1) (trimFront source.toList) = .done expression rest ∧
        ∀ c ∈ rest, isBlank c = true := by
  unfold Expression.parse
  dsimp only
  cases expressionRule (source.toList.length + 1) (trimFront source.toList) with
  | done value rest =>
    dsimp only
    have blank : trimFront rest = [] ↔ ∀ c ∈ rest, isBlank c = true := List.dropWhile_eq_nil_iff
    cases left : trimFront rest with
    | nil =>
      have all := blank.mp left
      constructor
      · rintro ⟨rfl⟩
        exact ⟨rest, rfl, all⟩
      · rintro ⟨_, ⟨rfl, rfl⟩, _⟩
        rfl
    | cons c after =>
      constructor
      · rintro ⟨⟩
      · rintro ⟨_, ⟨rfl, rfl⟩, all⟩
        rw [blank.mpr all] at left
        cases left
  | refused rest => simp
  | failed rest => simp

/-- White space around a text does not change the expression that it spells. -/
theorem parse_margins {lead trail : List Char} (blank : ∀ c ∈ lead, isBlank c = true)
    (blank' : ∀ c ∈ trail, isBlank c = true) (source : List Char) (expression : Expression) :
    Expression.parse (String.ofList (lead ++ source ++ trail)) = .ok expression ↔
      Expression.parse (String.ofList source) = .ok expression := by
  rw [parse_eq_ok_iff, parse_eq_ok_iff, String.toList_ofList, String.toList_ofList]
  have skipped : trimFront (lead ++ source ++ trail) = trimFront (source ++ trail) := by
    rw [List.append_assoc]
    exact List.dropWhile_append_of_pos blank
  rw [skipped]
  -- First the white space behind is left out, and then the bound on the depth is lowered.
  let depth := (lead ++ source ++ trail).length + 1
  have less := (List.dropWhile_sublist isBlank (l := source ++ trail)).length_le
  have less' := (List.dropWhile_sublist isBlank (l := source)).length_le
  have longer : (source ++ trail).length < depth := by simp only [depth, List.length_append]; omega
  have deeper : source.length + 1 ≤ depth := by simp only [depth, List.length_append]; omega
  have behind := expressionRule_mirrors (Nat.le_refl depth) (Nat.le_refl depth) _ _ (Trailing.append source blank').trimFront
    (by unfold trimFront; omega)
  have bounds := expressionRule_mirrors deeper (Nat.le_refl _) _ _ (Trailing.refl (trimFront source))
    (by unfold trimFront; omega)
  exact (behind.done_iff expression).trans (bounds.done_iff expression)

end Expression

end Phrasebook
