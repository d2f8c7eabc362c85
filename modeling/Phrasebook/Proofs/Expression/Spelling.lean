import Phrasebook.Proofs.Decimal.FloatText
import Phrasebook.Proofs.Expression.Margins
import Phrasebook.Proofs.Expression.Printer
import Phrasebook.Proofs.Reading.Spelling

/-! The expressions without operators are read as they are written. -/

namespace Phrasebook

open Rule

/-- Whether what stands behind a name can neither belong to it nor make it the name of a call. -/
def StopsName (rest : List Char) : Prop :=
  -- A bracket opens an index, and operators have white space in front.
  ∀ c more, rest = c :: more → c ∈ [')', ']', '\x7d', ',', ' ', '[']

/-- Whether a text may follow an expression to which members and indexes can be added. -/
def Follows (more : List Char) : Prop :=
  -- Members directly behind a name are read together with it.
  ∃ segments rest, (∀ segment ∈ segments, IsIdentifier segment) ∧ StopsName rest ∧ more = dottedChars segments ++ rest

/-- What can stand behind a name may follow an expression. -/
theorem StopsName.follows {rest : List Char} (stops : StopsName rest) : Follows rest :=
  ⟨[], rest, nofun, stops, rfl⟩

/-- A further member may stand in front of what follows. -/
theorem Follows.member {property : String} (named : IsIdentifier property) {more : List Char} (follows : Follows more) :
    Follows ('.' :: (property.toList ++ more)) := by
  obtain ⟨segments, rest, identifiers, stops, rfl⟩ := follows
  exact ⟨property :: segments, rest, List.forall_mem_cons.mpr ⟨named, identifiers⟩, stops, by simp [dottedChars]⟩

/-- What follows starts with a dot or one of the characters that stop a name. -/
theorem Follows.starts {more : List Char} (follows : Follows more) {c : Char} {rest : List Char} (start : more = c :: rest) :
    c ∈ ['.', ')', ']', '\x7d', ',', ' ', '['] := by
  obtain ⟨segments, behind, _, stops, rfl⟩ := follows
  cases segments with
  | nil => exact List.mem_cons_of_mem _ (stops c rest start)
  | cons segment segments =>
    obtain rfl : '.' = c := (List.cons.inj start).1
    exact List.mem_cons_self

/-- What follows does not continue a name. -/
theorem Follows.ends {more : List Char} (follows : Follows more) :
    ∀ c rest, more = c :: rest → continuesIdentifier c = false := by
  intro c rest start
  have kinds : ∀ c ∈ ['.', ')', ']', '\x7d', ',', ' ', '['], continuesIdentifier c = false := by decide
  exact kinds c (follows.starts start)

/-- What starts an identifier is neither white space nor a digit. -/
theorem dark_of_startsIdentifier {c : Char} (starts : startsIdentifier c = true) : isBlank c = false ∧ isDigit c = false := by
  constructor
  · cases blank : isBlank c with
    | false => rfl
    | true => simp [startsIdentifier_of_isBlank c blank] at starts
  · cases digit : isDigit c with
    | false => rfl
    | true => simp [startsIdentifier_of_isDigit digit] at starts

/-- An identifier starts with a character that can start one. -/
theorem IsIdentifier.start {name : String} (named : IsIdentifier name) :
    ∃ c rest, name.toList = c :: rest ∧ startsIdentifier c = true := by
  obtain ⟨c, rest, chars, starts, _⟩ := named
  exact ⟨c, rest, chars, starts⟩

/-- The name of a call starts like an identifier. -/
theorem IsCallName.start {name : String} (named : IsCallName name) :
    ∃ c rest, name.toList = c :: rest ∧ startsIdentifier c = true := by
  obtain ⟨first, segments, parts, rerun, ⟨c, rest, start, starts, _⟩, _, _, chars⟩ := named
  refine ⟨c, rest ++ dottedChars segments ++ dashedChars parts ++ if rerun then ['!'] else [], ?_, starts⟩
  rw [chars, start]
  simp

/-- What is no digit is refused as a number. -/
theorem numberRule_of_ne {c : Char} (other : isDigit c = false) (rest : List Char) :
    numberRule (c :: rest) = .refused (c :: rest) := by
  simp [numberRule, other]

/-- What is no quote is refused as a quoted text. -/
theorem quotedText_of_ne {c : Char} (single : c ≠ '\x27') (double : c ≠ '\x22') (rest : List Char) :
    quotedText (c :: rest) = .refused (c :: rest) := by
  simp [quotedText, single, double]

/-- The digits of a number spell it. -/
theorem natOfDigits_decimalDigits (n : Nat) : natOfDigits (decimalDigits n) = n :=
  ofDigitChars_decimalDigits n

/-- The digits of a number are digits of literals. -/
theorem isDigit_of_mem_decimalDigits {n : Nat} : ∀ c ∈ decimalDigits n, isDigit c = true := by
  intro c inside
  exact isDigit_decimalDigits c inside

/-- A number has a digit. -/
theorem decimalDigits_ne_nil (n : Nat) : decimalDigits n ≠ [] := by
  intro none
  have spelled := natOfDigits_decimalDigits n
  rw [none] at spelled
  obtain rfl : 0 = n := spelled
  exact absurd none (by decide)

/-- The digits of an integer are read up to what follows, even if that is a member. -/
theorem numberRule_done {n : Nat} (small : (n : Int) ≤ Value.maxSigned) {more : List Char} (follows : Follows more) :
    numberRule (decimalDigits n ++ more) = .done (.literal (.int n)) more := by
  have kinds : ∀ c ∈ ['.', ')', ']', '\x7d', ',', ' ', '['], isDigit c = false := by decide
  have taken := span_append (isDigit_of_mem_decimalDigits (n := n)) fun c rest start => kinds c (follows.starts start)
  have literal : numberLiteral (decimalDigits n) [] more = .done (.literal (.int n)) more := by
    simp [numberLiteral, natOfDigits_decimalDigits, small]
  unfold numberRule
  simp only [taken, List.isEmpty_iff, decimalDigits_ne_nil, if_false]
  split
  · -- Behind the dot an identifier starts, so there is no fraction.
    rename_i after
    obtain ⟨segments, rest, identifiers, stops, same⟩ := follows
    cases segments with
    | nil => exact absurd (stops '.' after same.symm) (by decide)
    | cons segment segments =>
      obtain ⟨first, others, chars, starts, _⟩ := identifiers segment List.mem_cons_self
      have noDigit := (dark_of_startsIdentifier starts).2
      obtain rfl : after = first :: (others ++ (dottedChars segments ++ rest)) := by
        simpa [dottedChars, chars] using same
      rw [List.takeWhile_cons_of_neg (by simp [noDigit])]
      simpa using literal
  · exact literal

/-- An escaped text is read up to its quote. -/
theorem quotedRest_escapedText {quote : Char} (sign : quote = '\x27' ∨ quote = '\x22') (text after : List Char) :
    quotedRest quote (escaped quote text ++ quote :: after) = some (text, after) := by
  have apart : quote ≠ '\\' := by rcases sign with rfl | rfl <;> decide
  have itself : unescapeChar quote = quote := by rcases sign with rfl | rfl <;> rfl
  induction text with
  | nil => exact quotedRest_quote quote after
  | cons c text later =>
    rw [escaped, List.flatMap_cons]
    by_cases special : c = quote ∨ c = '\\'
    · have same : unescapeChar c = c := by
        rcases special with rfl | rfl
        · exact itself
        · rfl
      rw [if_pos special, List.append_assoc, List.cons_append, List.singleton_append, quotedRest_escaped apart, same]
      change (quotedRest quote (escaped quote text ++ quote :: after)).map _ = _
      rw [later]
      rfl
    · obtain ⟨other, plain⟩ := not_or.mp special
      rw [if_neg special, List.append_assoc, List.singleton_append, quotedRest_plain other plain]
      change (quotedRest quote (escaped quote text ++ quote :: after)).map _ = _
      rw [later]
      rfl

/-- A quoted text is read as it was written. -/
theorem quotedText_done (style : PrintStyle) (text : String) (more : List Char) :
    quotedText (style.quoted text ++ more) = .done text more := by
  have sign := style.isQuote text
  have quote : (style.quote text == '\x27' || style.quote text == '\x22') = true := by
    rcases sign with same | same <;> simp [same]
  rw [PrintStyle.quoted, List.cons_append, List.append_assoc, List.singleton_append, quotedText, if_pos quote,
    quotedRest_escapedText sign]
  simp

/-- A quoted text opens with its quote. -/
theorem PrintStyle.opens_quoted (style : PrintStyle) (text : String) : Opens (style.quoted text) := by
  have dark : isBlank (style.quote text) = false := by rcases style.isQuote text with same | same <;> rw [same] <;> decide
  exact Opens.cons dark _

section Names

variable {segments parts : List String} {more : List Char}

/-- Further segments are read up to what can neither continue them nor is a dot. -/
theorem segmentsRule_done (identifiers : ∀ segment ∈ segments, IsIdentifier segment)
    (ends : ∀ c rest, more = c :: rest → c ≠ '.' ∧ continuesIdentifier c = false) :
    segmentsRule (dottedChars segments ++ more) = .done segments more := by
  have ample : segments.length ≤ (dottedChars segments ++ more).length := by
    rw [List.length_append]
    exact (length_le_flatMap_cons '.' String.toList segments).trans (Nat.le_add_right _ _)
  unfold segmentsRule
  generalize (dottedChars segments ++ more).length = turns at ample
  induction segments generalizing turns with
  | nil =>
    cases turns with
    | zero => rfl
    | succ turns =>
      have missed : ∃ rest, exactly ['.'] more = .refused rest := by
        cases more with
        | nil => exact ⟨[], rfl⟩
        | cons c rest => exact ⟨_, exactly_of_ne (ends c rest rfl).1.symm rest⟩
      obtain ⟨rest, missed⟩ := missed
      simp [dottedChars, moreElements, missed]
  | cons segment segments later =>
    obtain ⟨here, others⟩ := List.forall_mem_cons.mp identifiers
    obtain ⟨turns, rfl⟩ := Nat.exists_eq_add_one_of_ne_zero (Nat.ne_of_gt (Nat.lt_of_lt_of_le (Nat.succ_pos _) ample))
    -- The next segment starts with a dot.
    have behind : ∀ c rest, dottedChars segments ++ more = c :: rest → continuesIdentifier c = false := by
      intro c rest start
      cases segments with
      | nil => exact (ends c rest start).2
      | cons next segments =>
        obtain rfl : '.' = c := (List.cons.inj start).1
        decide
    have split : dottedChars (segment :: segments) ++ more = '.' :: (segment.toList ++ (dottedChars segments ++ more)) := by
      simp [dottedChars]
    have later := later others turns (Nat.le_of_succ_le_succ ample)
    rw [split, moreElements]
    simp only [exactly_cons, identifier_done here behind, later]

/-- Parts after dashes are read up to the arguments of the call. -/
theorem dashedRule_done (dashed : ∀ part ∈ parts, IsDashedPart part) (called : startsArguments more = true) :
    dashedRule (dashedChars parts ++ more) = .done (dashedChars parts) more := by
  -- Arguments start with a parenthesis or an exclamation mark.
  have stops : ∀ c rest, more = c :: rest → c ≠ '-' ∧ continuesDashed c = false := by
    rintro c rest rfl
    unfold startsArguments at called
    split at called
    · rename_i same
      cases same
      decide
    · rename_i same
      cases same
      decide
    · cases called
  have read (parts : List String) (dashed : ∀ part ∈ parts, IsDashedPart part) (turns : Nat) (ample : parts.length ≤ turns) :
      dashedParts turns (dashedChars parts ++ more) = (dashedChars parts, more) := by
    induction parts generalizing turns with
    | nil => exact dashedParts_of_ne turns fun rest start => (stops '-' rest start).1 rfl
    | cons part parts later =>
      obtain ⟨⟨some, all⟩, others⟩ := List.forall_mem_cons.mp dashed
      obtain ⟨turns, rfl⟩ := Nat.exists_eq_add_one_of_ne_zero (Nat.ne_of_gt (Nat.lt_of_lt_of_le (Nat.succ_pos _) ample))
      have behind : ∀ c rest, dashedChars parts ++ more = c :: rest → continuesDashed c = false := by
        intro c rest start
        cases parts with
        | nil => exact (stops c rest start).2
        | cons next parts =>
          obtain rfl : '-' = c := (List.cons.inj start).1
          decide
      have taken := span_append all behind
      have split : dashedChars (part :: parts) ++ more = '-' :: (part.toList ++ (dashedChars parts ++ more)) := by
        simp [dashedChars]
      rw [split, dashedParts_dash, taken.1, taken.2, if_neg (by simpa using some),
        later others _ (Nat.le_of_succ_le_succ ample)]
      simp [dashedChars]
  have ample : parts.length ≤ (dashedChars parts ++ more).length := by
    rw [List.length_append]
    exact (length_le_flatMap_cons '-' String.toList parts).trans (Nat.le_add_right _ _)
  simp only [dashedRule, dashedTail, read parts dashed _ ample, called, if_true]

end Names

/-- Whether a character can start an expression. -/
def startsExpression (c : Char) : Bool :=
  -- Numbers and names start with many characters, all others with one of a few signs.
  isDigit c || startsIdentifier c || ['\x27', '\x22', '[', '\x7b', '(', '!', '-'].contains c

section Nested

variable {nested : Rule Expression}

/-- A name that no arguments follow is read together with the members directly behind it. -/
theorem referenceRule_chain {name : String} (named : IsIdentifier name) {segments : List String}
    (identifiers : ∀ segment ∈ segments, IsIdentifier segment) {rest : List Char} (stops : StopsName rest) :
    referenceRule nested (name.toList ++ (dottedChars segments ++ rest)) =
      .done (segments.foldl Expression.member (rootExpression name)) rest := by
  have first := identifier_done named (Follows.ends ⟨segments, rest, identifiers, stops, rfl⟩)
  have kinds : ∀ c ∈ [')', ']', '\x7d', ',', ' ', '['], c ≠ '.' ∧ continuesIdentifier c = false := by decide
  have members := segmentsRule_done identifiers fun c more start => kinds c (stops c more start)
  -- None of the characters that stop a name starts a dashed part or arguments.
  have noCall : dashedRule rest = .done [] rest ∧ rerunRule rest = .done false rest ∧ calledRule rest = .done false rest := by
    cases rest with
    | nil => exact ⟨rfl, rfl, rfl⟩
    | cons c more =>
      have here := stops c more rfl
      have plain : ∀ after, c :: more ≠ '-' :: after := by rintro after ⟨rfl, rfl⟩; simp at here
      refine ⟨?_, ?_, ?_⟩
      · simp [dashedRule, dashedTail, dashedParts_of_ne _ plain]
      · rw [rerunRule_eq, if_neg]
        rintro same
        obtain ⟨after, same⟩ := List.isPrefixOf_iff_prefix.mp same
        cases same
        simp at here
      · simp only [List.mem_cons, List.not_mem_nil, or_false] at here
        rcases here with rfl | rfl | rfl | rfl | rfl | rfl <;> rfl
  rw [referenceRule_eq, bind_of_done first, bind_of_done members, bind_of_done noCall.1, bind_of_done noCall.2.1,
    bind_of_done noCall.2.2]
  rfl

/-- The name of a call is read with the arguments directly behind it. -/
theorem referenceRule_call {name : String} (named : IsCallName name) {args : List Expression} {text more : List Char}
    (read : argumentsRule nested ('(' :: text) = .done args more) :
    referenceRule nested (name.toList ++ '(' :: text) = .done (.call name args) more := by
  obtain ⟨first, segments, parts, rerun, starts, continues, dashed, chars⟩ := named
  have same : callName first segments (dashedChars parts) rerun = name :=
    String.toList_injective ((toList_callName _ _ _ _).trans chars.symm)
  -- The exclamation mark and the parenthesis stop the name, whichever comes first.
  have called : startsArguments ((if rerun then ['!'] else []) ++ '(' :: text) = true := by cases rerun <;> rfl
  have repeated : rerunRule ((if rerun then ['!'] else []) ++ '(' :: text) = .done rerun ('(' :: text) := by
    cases rerun <;> rfl
  have arguments : calledRule ('(' :: text) = .done true ('(' :: text) := rfl
  have tail : ∀ c rest, dashedChars parts ++ ((if rerun then ['!'] else []) ++ '(' :: text) = c :: rest →
      c ∈ ['-', '!', '('] := by
    intro c rest start
    cases parts with
    | nil =>
      cases rerun with
      | false => simp [(List.cons.inj start).1.symm]
      | true => simp [(List.cons.inj start).1.symm]
    | cons part parts => simp [(List.cons.inj start).1.symm]
  have kinds : ∀ c ∈ ['-', '!', '('], c ≠ '.' ∧ continuesIdentifier c = false := by decide
  have ends : ∀ c rest, dottedChars segments ++ (dashedChars parts ++ ((if rerun then ['!'] else []) ++ '(' :: text)) =
      c :: rest → continuesIdentifier c = false := by
    intro c rest start
    cases segments with
    | nil => exact (kinds c (tail c rest start)).2
    | cons segment segments =>
      obtain rfl : '.' = c := (List.cons.inj start).1
      decide
  have members := segmentsRule_done continues fun c rest start => kinds c (tail c rest start)
  rw [referenceRule_eq, chars]
  simp only [List.append_assoc]
  rw [bind_of_done (identifier_done starts ends), bind_of_done members, bind_of_done (dashedRule_done dashed called),
    bind_of_done repeated, bind_of_done arguments, if_pos rfl, bind_of_done read, same]
  rfl

/-- Without a digit, a quote or a bracket in front an expression starts with a name. -/
theorem primaryRule_reference {c : Char} (noDigit : isDigit c = false)
    (apart : c ∉ ['\x27', '\x22', '[', '\x7b', '(']) (rest : List Char) :
    primaryRule nested (c :: rest) = referenceRule nested (c :: rest) := by
  simp only [List.mem_cons, List.not_mem_nil, or_false, not_or] at apart
  obtain ⟨single, double, square, curly, round⟩ := apart
  rw [primaryRule, orElse_of_refused (numberRule_of_ne noDigit rest),
    orElse_of_refused (bind_of_refused (quotedText_of_ne single double rest)),
    orElse_of_refused (bind_of_refused (enclosed_of_ne (Ne.symm square) _ _ rest)),
    orElse_of_refused (bind_of_refused (enclosed_of_ne (Ne.symm curly) _ _ rest)),
    orElse_of_refused (enclosed_of_ne (Ne.symm round) _ _ rest)]

/-- What starts an identifier starts no other expression. -/
theorem primaryRule_name {c : Char} (starts : startsIdentifier c = true) (rest : List Char) :
    primaryRule nested (c :: rest) = referenceRule nested (c :: rest) := by
  have kinds : ∀ c ∈ ['\x27', '\x22', '[', '\x7b', '('], startsIdentifier c = false := by decide
  refine primaryRule_reference (dark_of_startsIdentifier starts).2 (fun inside => ?_) rest
  simp [kinds c inside] at starts

/-- What starts no expression is refused as an expression without operators. -/
theorem primaryRule_other {c : Char} (other : startsExpression c = false) (rest : List Char) :
    primaryRule nested (c :: rest) = .refused (c :: rest) := by
  simp only [startsExpression, Bool.or_eq_false_iff, List.contains_eq_mem, decide_eq_false_iff_not] at other
  obtain ⟨⟨noDigit, noStart⟩, noSign⟩ := other
  have apart : c ∉ ['\x27', '\x22', '[', '\x7b', '('] := fun inside => noSign (List.mem_append_left ['!', '-'] inside)
  rw [primaryRule_reference noDigit apart, referenceRule_eq, bind_of_refused (identifier_of_ne noStart rest)]

/-- A number is an expression. -/
theorem primaryRule_number {n : Nat} (small : (n : Int) ≤ Value.maxSigned) {more : List Char} (follows : Follows more) :
    primaryRule nested (decimalDigits n ++ more) = .done (.literal (.int n)) more :=
  orElse_of_done (numberRule_done small follows)

/-- A quoted text is an expression. -/
theorem primaryRule_quoted (style : PrintStyle) (text : String) (more : List Char) :
    primaryRule nested (style.quoted text ++ more) = .done (.literal (.str text)) more := by
  have number : numberRule (style.quoted text ++ more) = .refused (style.quoted text ++ more) := by
    refine numberRule_of_ne ?_ _
    rcases style.isQuote text with same | same <;> rw [same] <;> decide
  rw [primaryRule, orElse_of_refused number]
  refine orElse_of_done ?_
  rw [bind_of_done (quotedText_done style text more)]
  rfl

/-- Items between square brackets are an expression. -/
theorem primaryRule_array {text more : List Char} {items : List Expression} (opens : Opens text)
    (read : Rule.elements (Rule.between [',']) nested text = .done items (']' :: more)) :
    primaryRule nested ('[' :: text) = .done (.array items) more := by
  rw [primaryRule, orElse_of_refused (numberRule_of_ne (by decide) text),
    orElse_of_refused (bind_of_refused (quotedText_of_ne (by decide) (by decide) text))]
  refine orElse_of_done ?_
  rw [bind_of_done (enclosed_done (by decide) opens read)]
  rfl

/-- Entries between braces are an expression. -/
theorem primaryRule_object {text more : List Char} {entries : List (String × Expression)} (opens : Opens text)
    (read : Rule.elements (Rule.between [',']) (entryRule nested) text = .done entries ('\x7d' :: more)) :
    primaryRule nested ('\x7b' :: text) = .done (.object entries) more := by
  rw [primaryRule, orElse_of_refused (numberRule_of_ne (by decide) text),
    orElse_of_refused (bind_of_refused (quotedText_of_ne (by decide) (by decide) text)),
    orElse_of_refused (bind_of_refused (enclosed_of_ne (by decide) _ _ text))]
  refine orElse_of_done ?_
  rw [bind_of_done (enclosed_done (by decide) opens read)]
  rfl

/-- An expression between parentheses is an expression. -/
theorem primaryRule_parenthesized {text more : List Char} {expression : Expression} (opens : Opens text)
    (read : nested text = .done expression (')' :: more)) :
    primaryRule nested ('(' :: text) = .done expression more := by
  rw [primaryRule, orElse_of_refused (numberRule_of_ne (by decide) text),
    orElse_of_refused (bind_of_refused (quotedText_of_ne (by decide) (by decide) text)),
    orElse_of_refused (bind_of_refused (enclosed_of_ne (by decide) _ _ text)),
    orElse_of_refused (bind_of_refused (enclosed_of_ne (by decide) _ _ text))]
  exact orElse_of_done (enclosed_done (by decide) opens read)

end Nested

end Phrasebook
