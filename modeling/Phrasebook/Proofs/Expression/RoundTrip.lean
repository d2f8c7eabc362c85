import Mathlib.Data.List.GetD
import Phrasebook.Proofs.Expression.Spelling

/-! Every expression that has a spelling is read back from it. -/

namespace Phrasebook

open Rule Expression

/-- The signs of the operators of a level. -/
def levelSigns (level : Nat) : OperatorSigns :=
  -- The levels start behind the unary operators.
  operatorLevels.getD level []

/-- Read an expression with operators that bind at most as loosely as a level says. -/
def looseRule (depth : Nat) : Nat → Rule Expression
  -- Below all binary operators are the unary ones, and below these the accesses.
  | 0 => chainRule (expressionRule depth)
  | 1 => fun text => unaryRule (expressionRule depth) text.length text
  | level + 2 => levelRule (levelSigns level) (looseRule depth (level + 1))

/-- Go on reading behind an expression that binds as loosely as a level says. -/
def furtherRule (depth : Nat) : Nat → Expression → Rule Expression
  -- Behind a unary operator nothing of its own level can follow.
  | 0, expression => fun text => moreAccesses (expressionRule depth) text.length expression text
  | 1, expression => Rule.succeed expression
  | level + 2, expression => fun text => moreOperands (looseRule depth (level + 1)) (levelSigns level) text.length expression text

/-- An expression is read with the operators of the loosest level. -/
theorem expressionRule_succ (depth : Nat) : expressionRule (depth + 1) = looseRule depth 7 :=
  rfl

/-- Behind an expression without operators its members and indexes are read. -/
theorem chainRule_of_done {depth : Nat} {text rest : List Char} {target : Expression}
    (done : primaryRule (expressionRule depth) text = .done target rest) :
    looseRule depth 0 text = furtherRule depth 0 target rest :=
  bind_of_done done

/-- Behind a tighter expression the operators and operands of a level are read. -/
theorem looseRule_of_done {depth level : Nat} {text rest : List Char} {left : Expression}
    (done : looseRule depth (level + 1) text = .done left rest) :
    looseRule depth (level + 2) text = furtherRule depth (level + 2) left rest :=
  bind_of_done done

/-- The signs of every level are plain. -/
theorem arePlain_levelSigns (level : Nat) : ArePlain (levelSigns level) := by
  unfold levelSigns
  by_cases within : level < operatorLevels.length
  · rw [List.getD_eq_getElem _ _ within]
    exact arePlain_operatorLevels _ (List.getElem_mem within)
  · rw [List.getD_eq_default _ _ (Nat.le_of_not_lt within)]
    exact nofun

/-- Whatever is read on a level is balanced and readable. -/
theorem looseRule_reads (depth level : Nat) : (looseRule depth level).Reads Balanced (Everywhere IsReadable) := by
  induction level using looseRule.induct with
  | case1 => exact chainRule_reads (expressionRule_reads depth)
  | case2 => exact fun text => unaryRule_reads (expressionRule_reads depth) text.length text
  | case3 level part => exact levelRule_reads (arePlain_levelSigns level) part

/-- An operator with a space behind it is found on its own level only. -/
theorem operatorAt?_sign (level : Nat) (op : BinaryOp) (rest : List Char) :
    operatorAt? (levelSigns level) (op.sign ++ ' ' :: rest) =
      if op.looseness = level + 2 then some (op, ' ' :: rest) else none := by
  -- Signs of different levels differ in their first characters.
  rcases level with _ | _ | _ | _ | _ | _ | level <;> cases op <;>
    simp [operatorAt?, levelSigns, operatorLevels, BinaryOp.sign, BinaryOp.looseness, List.find?, List.isPrefixOf]

/-- No operator starts with a closing bracket or a comma. -/
theorem operatorAt?_closing (level : Nat) {c : Char} (closes : c ∈ [',', ')', ']', '\x7d']) (rest : List Char) :
    operatorAt? (levelSigns level) (c :: rest) = none := by
  simp only [List.mem_cons, List.not_mem_nil, or_false] at closes
  rcases level with _ | _ | _ | _ | _ | _ | level <;> rcases closes with rfl | rfl | rfl | rfl <;> rfl

/-- The sign of an operator opens a text. -/
theorem BinaryOp.opens_sign (op : BinaryOp) (rest : List Char) : Opens (op.sign ++ rest) := by
  cases op <;> exact Opens.cons (by decide) _

/-- The space in front of an operator is skipped. -/
theorem BinaryOp.trimFront_sign (op : BinaryOp) (rest : List Char) :
    trimFront (' ' :: (op.sign ++ rest)) = op.sign ++ rest :=
  (op.opens_sign rest).trimFront_append (by decide : ∀ c ∈ [' '], isBlank c = true)

/-- What can stand behind an expression on a level, so that reading on that level ends there. -/
inductive Ends (level : Nat) : List Char → Prop where
  /-- The end of the text. -/
  | nothing : Ends level []
  /-- A closing bracket or a comma. -/
  | closing {c : Char} {rest : List Char} (closes : c ∈ [',', ')', ']', '\x7d']) : Ends level (c :: rest)
  /-- An operator that binds more loosely. -/
  | operator {op : BinaryOp} {rest : List Char} (looser : level < op.looseness) : Ends level (' ' :: (op.sign ++ ' ' :: rest))

/-- What ends a loose expression ends a tight one as well. -/
theorem Ends.mono {level level' : Nat} (le : level ≤ level') {more : List Char} (ends : Ends level' more) :
    Ends level more := by
  cases ends with
  | nothing => exact .nothing
  | closing closes => exact .closing closes
  | operator looser => exact .operator (Nat.lt_of_le_of_lt le looser)

/-- What ends an expression may follow it. -/
theorem Ends.follows {level : Nat} {more : List Char} (ends : Ends level more) : Follows more := by
  refine StopsName.follows fun c rest start => ?_
  cases ends with
  | nothing => cases start
  | closing closes =>
    obtain rfl := (List.cons.inj start).1
    revert closes
    simp only [List.mem_cons, List.not_mem_nil, or_false]
    tauto
  | operator =>
    obtain rfl := (List.cons.inj start).1
    decide

/-- What can stand behind an expression on a level, perhaps with more of the same level. -/
def GoesOn : Nat → List Char → Prop
  -- Only a tighter reader must end there.
  | 0 => Follows
  | level + 1 => Ends level

/-- Where reading ends, it can go on as well. -/
theorem Ends.goesOn {level : Nat} {more : List Char} (ends : Ends level more) : GoesOn level more := by
  cases level with
  | zero => exact ends.follows
  | succ level => exact ends.mono (Nat.le_succ level)

/-- Where neither a member nor an index follows, the target is all. -/
theorem moreAccesses_of_refused {nested : Rule Expression} {target : Expression} {more left : List Char}
    (missed : accessRule nested target more = .refused left) (turns : Nat) :
    moreAccesses nested turns target more = .done target more := by
  cases turns with
  | zero => rfl
  | succ turns =>
    have absent : Rule.optional (accessRule nested target) more = .done none more := by
      rw [Rule.optional, missed]
    rw [moreAccesses, bind_of_done absent]
    rfl

/-- Without a dot or a bracket there are no accesses. -/
theorem moreAccesses_of_ends {depth level : Nat} {more : List Char} (ends : Ends level more) (turns : Nat)
    (target : Expression) : moreAccesses (expressionRule depth) turns target more = .done target more := by
  have missed : ∃ rest, accessRule (expressionRule depth) target more = .refused rest := by
    -- Neither a dot nor a bracket stands at the front.
    have other {c : Char} (noDot : '.' ≠ c) (noBracket : '[' ≠ c) (rest : List Char) :
        accessRule (expressionRule depth) target (c :: rest) = .refused (c :: rest) := by
      rw [accessRule, orElse_of_refused (bind_of_refused (exactly_of_ne noDot rest)),
        bind_of_refused (enclosed_of_ne noBracket _ _ rest)]
    cases ends with
    | nothing => exact ⟨[], rfl⟩
    | closing closes => exact ⟨_, other (by rintro rfl; simp at closes) (by rintro rfl; simp at closes) _⟩
    | operator => exact ⟨_, other (by decide) (by decide) _⟩
  obtain ⟨rest, missed⟩ := missed
  exact moreAccesses_of_refused missed turns

/-- Without an operator there are no further operands. -/
theorem moreOperands_of_none {operand : Rule Expression} {signs : OperatorSigns} {more : List Char}
    (missed : operatorAt? signs (trimFront more) = none) (turns : Nat) (left : Expression) :
    moreOperands operand signs turns left more = .done left more := by
  cases turns with
  | zero => rfl
  | succ turns => simp only [moreOperands, missed]

/-- Where reading ends, nothing more is read. -/
theorem furtherRule_of_ends {depth level : Nat} {more : List Char} (ends : Ends level more) (expression : Expression) :
    furtherRule depth level expression more = .done expression more := by
  rcases level with _ | _ | level
  · exact moreAccesses_of_ends ends more.length expression
  · rfl
  · refine moreOperands_of_none ?_ more.length expression
    cases ends with
    | nothing =>
      cases found : operatorAt? (levelSigns level) (trimFront []) with
      | none => rfl
      | some found => exact absurd (length_lt_of_operatorAt? (arePlain_levelSigns level) found) (Nat.not_lt_zero _)
    | closing closes =>
      have dark : ∀ c ∈ [',', ')', ']', '\x7d'], isBlank c = false := by decide
      rw [(Opens.cons (dark _ closes) _).trimFront]
      exact operatorAt?_closing level closes _
    | @operator op rest looser => rw [op.trimFront_sign, operatorAt?_sign, if_neg (by omega)]

/-- Whether a text is read as an expression on a level, with whatever more of the level stands behind it. -/
structure ReadAt (depth level : Nat) (expression : Expression) (text : List Char) : Prop where
  /-- There is no white space in front of it, and no sign that binds more loosely. -/
  opens : ∃ c rest, text = c :: rest ∧ isBlank c = false ∧ (level = 0 → c ≠ '!' ∧ c ≠ '-')
  /-- Reading goes on behind the text. -/
  goesOn : ∀ more, GoesOn level more → looseRule depth level (text ++ more) = furtherRule depth level expression more

namespace ReadAt

variable {depth level : Nat} {expression : Expression} {text : List Char}

/-- A text that is read starts without white space. -/
theorem opensText (read : ReadAt depth level expression text) : Opens text := by
  obtain ⟨c, rest, start, dark, _⟩ := read.opens
  exact ⟨c, rest, start, dark⟩

/-- A text that is read is read alone where nothing of its level follows. -/
theorem done (read : ReadAt depth level expression text) {more : List Char} (ends : Ends level more) :
    looseRule depth level (text ++ more) = .done expression more := by
  rw [read.goesOn more ends.goesOn, furtherRule_of_ends ends]

/-- What is read on a level is read on the next looser one. -/
theorem succ (read : ReadAt depth level expression text) : ReadAt depth (level + 1) expression text := by
  obtain ⟨c, rest, rfl, dark, plain⟩ := read.opens
  refine ⟨⟨c, rest, rfl, dark, nofun⟩, fun more ends => ?_⟩
  have alone : looseRule depth level (c :: rest ++ more) = .done expression more := read.done ends
  cases level with
  | zero =>
    obtain ⟨noNot, noMinus⟩ := plain rfl
    exact (unaryRule_of_ne _ (fun _ same => noNot (List.cons.inj same).1) fun _ same => noMinus (List.cons.inj same).1).trans
      alone
  | succ level => exact looseRule_of_done alone

/-- What is read on a level is read on all looser ones. -/
theorem mono (read : ReadAt depth level expression text) {level' : Nat} (le : level ≤ level') :
    ReadAt depth level' expression text := by
  induction le with
  | refl => exact read
  | step _ looser => exact looser.succ

/-- A text in parentheses is read like an expression without operators. -/
theorem parentheses (read : ReadAt depth level expression text) (loose : level ≤ 7) :
    ReadAt (depth + 1) 0 expression ('(' :: (text ++ [')'])) := by
  have inner := read.mono loose
  refine ⟨⟨'(', _, rfl, by decide, by decide⟩, fun more _ => ?_⟩
  have closed : looseRule depth 7 (text ++ ')' :: more) = .done expression (')' :: more) := inner.done (.closing (by decide))
  have split : '(' :: (text ++ [')']) ++ more = '(' :: (text ++ ')' :: more) := by simp
  rw [split]
  exact chainRule_of_done (primaryRule_parenthesized (inner.opensText.append _) closed)

/-- A text that is read spells an item of a list. -/
theorem spells (read : ReadAt depth level expression text) (loose : level ≤ 7) :
    Spells (expressionRule (depth + 1)) text expression where
  opens := read.opensText
  done _ _ closes := (read.mono loose).done (.closing closes)

end ReadAt

/-- No expression binds more loosely than the loosest operator. -/
theorem Expression.looseness_le (expression : Expression) : expression.looseness ≤ 7 := by
  unfold looseness
  split
  · decide
  · exact BinaryOp.looseness_le _
  · decide

/-- Whether the text of an expression is read as the expression if the bound on the depth is large enough. -/
def IsReadBack (style : PrintStyle) (expression : Expression) : Prop :=
  -- The text is at least as long as its brackets are deep.
  ∀ depth, (expression.print style).length ≤ depth → ReadAt depth expression.looseness expression (expression.print style)

namespace IsReadBack

variable {style : PrintStyle} {expression : Expression}

/-- An expression that is read back is read in every place, with parentheses where it needs them. -/
theorem placed (back : IsReadBack style expression) {limit depth : Nat}
    (deep : (parenthesized limit expression.looseness (expression.print style)).length ≤ depth) :
    ReadAt depth limit expression (parenthesized limit expression.looseness (expression.print style)) := by
  unfold parenthesized at deep ⊢
  split
  · rename_i tight
    rw [if_pos tight] at deep
    exact (back depth deep).mono tight
  · rename_i loose
    rw [if_neg loose, List.length_cons] at deep
    obtain ⟨depth, rfl⟩ := Nat.exists_eq_add_one_of_ne_zero (Nat.ne_of_gt (Nat.lt_of_lt_of_le (Nat.succ_pos _) deep))
    have inner := back depth (by simp at deep; omega)
    exact (inner.parentheses expression.looseness_le).mono (Nat.zero_le limit)

/-- An expression that is read back is read as an item of a list. -/
theorem spells (back : IsReadBack style expression) {depth : Nat} (deep : (expression.print style).length ≤ depth) :
    Spells (expressionRule (depth + 1)) (expression.print style) expression :=
  (back depth deep).spells expression.looseness_le

end IsReadBack

section Accesses

variable {depth : Nat} (target : Expression)

/-- An access is read before what follows it. -/
theorem moreAccesses_of_done {longer : Expression} {text rest : List Char}
    (done : accessRule (expressionRule depth) target text = .done longer rest) :
    furtherRule depth 0 target text = furtherRule depth 0 longer rest := by
  have less := length_lt_of_accessRule depth done
  obtain ⟨turns, turn⟩ := Nat.exists_eq_add_one_of_ne_zero (Nat.ne_of_gt (Nat.lt_of_le_of_lt (Nat.zero_le _) less))
  have present : Rule.optional (accessRule (expressionRule depth) target) text = .done (some longer) rest := by
    rw [Rule.optional, done]
  change moreAccesses _ text.length target text = moreAccesses _ rest.length longer rest
  rw [turn, moreAccesses, bind_of_done present]
  exact moreAccesses_congr depth longer (by omega) (Nat.le_refl _)

/-- A member is read before what follows it. -/
theorem furtherRule_member {property : String} (named : IsIdentifier property) {more : List Char}
    (ends : ∀ c rest, more = c :: rest → continuesIdentifier c = false) :
    furtherRule depth 0 target ('.' :: (property.toList ++ more)) = furtherRule depth 0 (.member target property) more := by
  refine moreAccesses_of_done target (orElse_of_done ?_)
  rw [bind_of_done (exactly_cons '.' _), bind_of_done (identifier_done named ends)]
  rfl

/-- An index is read before what follows it. -/
theorem furtherRule_index {key : Expression} {text more : List Char} (opens : Opens text)
    (read : expressionRule depth text = .done key (']' :: more)) :
    furtherRule depth 0 target ('[' :: text) = furtherRule depth 0 (.index target key) more := by
  refine moreAccesses_of_done target ?_
  rw [accessRule, orElse_of_refused (bind_of_refused (exactly_of_ne (by decide) text)),
    bind_of_done (enclosed_done (by decide) opens read)]
  rfl

/-- Several members are read one after the other. -/
theorem furtherRule_members {segments : List String} (identifiers : ∀ segment ∈ segments, IsIdentifier segment)
    {rest : List Char} (stops : StopsName rest) :
    furtherRule depth 0 target (dottedChars segments ++ rest) =
      furtherRule depth 0 (segments.foldl Expression.member target) rest := by
  induction segments generalizing target with
  | nil => rfl
  | cons segment segments later =>
    obtain ⟨here, others⟩ := List.forall_mem_cons.mp identifiers
    have split : dottedChars (segment :: segments) ++ rest = '.' :: (segment.toList ++ (dottedChars segments ++ rest)) := by
      simp [dottedChars]
    rw [split, furtherRule_member target here (Follows.ends ⟨segments, rest, others, stops, rfl⟩)]
    exact later (.member target segment) others

end Accesses

namespace ReadAt

variable {depth level : Nat} {text : List Char}

/-- A member is read if its target is. -/
theorem member {target : Expression} (read : ReadAt depth 0 target text) {property : String} (named : IsIdentifier property) :
    ReadAt depth 0 (.member target property) (text ++ '.' :: property.toList) := by
  obtain ⟨c, rest, rfl, dark, plain⟩ := read.opens
  refine ⟨⟨c, _, rfl, dark, plain⟩, fun more follows => ?_⟩
  have split : c :: rest ++ '.' :: property.toList ++ more = c :: rest ++ '.' :: (property.toList ++ more) := by simp
  rw [split, read.goesOn _ (follows.member named)]
  exact furtherRule_member target named follows.ends

/-- An index is read if its target is, and its key as an item would be. -/
theorem index {target key : Expression} (read : ReadAt depth 0 target text) {text' : List Char}
    (inner : Spells (expressionRule depth) text' key) : ReadAt depth 0 (.index target key) (text ++ '[' :: (text' ++ [']'])) := by
  obtain ⟨c, rest, rfl, dark, plain⟩ := read.opens
  refine ⟨⟨c, _, rfl, dark, plain⟩, fun more _ => ?_⟩
  have bracket : StopsName ('[' :: (text' ++ ']' :: more)) := by
    rintro _ _ ⟨rfl, _⟩
    decide
  have split : c :: rest ++ '[' :: (text' ++ [']']) ++ more = c :: rest ++ '[' :: (text' ++ ']' :: more) := by simp
  rw [split, read.goesOn _ bracket.follows]
  exact furtherRule_index target (inner.opens.append _) (inner.done ']' more (by decide))

/-- A unary operator is read with its operand. -/
theorem unary (op : UnaryOp) {operand : Expression} (read : ReadAt depth 1 operand text) :
    ReadAt depth 1 (.unary op operand) (op.sign :: text) := by
  refine ⟨⟨op.sign, _, rfl, by cases op <;> decide, nofun⟩, fun more ends => ?_⟩
  -- One turn is taken by the sign, and the others are left for the operand.
  have part : unaryRule (expressionRule depth) (text ++ more).length (trimFront (text ++ more)) = .done operand more := by
    rw [(read.opensText.append more).trimFront]
    exact read.goesOn more ends
  have signed : looseRule depth 1 (op.sign :: (text ++ more)) =
      signedRule (expressionRule depth) (text ++ more).length op (text ++ more) := by
    cases op <;> rfl
  rw [List.cons_append, signed, signedRule_apply, part]
  rfl

/-- A binary operator is read with its operands, the right one of which binds tighter. -/
theorem binary {op : BinaryOp} {left right : Expression} (fore : ReadAt depth op.looseness left text) {text' : List Char}
    (aft : ReadAt depth (op.looseness - 1) right text') :
    ReadAt depth op.looseness (.binary op left right) (text ++ ' ' :: (op.sign ++ ' ' :: text')) := by
  obtain ⟨c, rest, rfl, dark, plain⟩ := fore.opens
  refine ⟨⟨c, _, rfl, dark, plain⟩, fun more ends => ?_⟩
  obtain ⟨level, loose⟩ := Nat.exists_eq_add_of_le' op.two_le_looseness
  have operator : Ends (level + 1) (' ' :: (op.sign ++ ' ' :: (text' ++ more))) := .operator (by omega)
  rw [loose] at fore aft ends ⊢
  have split : c :: rest ++ ' ' :: (op.sign ++ ' ' :: text') ++ more =
      c :: rest ++ ' ' :: (op.sign ++ ' ' :: (text' ++ more)) := by simp
  -- Behind the left operand one turn reads the operator and the right operand, and then reading goes on.
  have found : operatorAt? (levelSigns level) (trimFront (' ' :: (op.sign ++ ' ' :: (text' ++ more)))) =
      some (op, ' ' :: (text' ++ more)) := by
    rw [op.trimFront_sign, operatorAt?_sign, if_pos loose]
  have gap : trimFront (' ' :: (text' ++ more)) = text' ++ more :=
    (aft.opensText.append more).trimFront_append (by decide : ∀ c ∈ [' '], isBlank c = true)
  have part : looseRule depth (level + 1) (text' ++ more) = .done right more := aft.done ends
  rw [split, fore.goesOn _ operator]
  change moreOperands _ _ ((op.sign ++ ' ' :: (text' ++ more)).length + 1) left _ = moreOperands _ _ _ _ _
  rw [moreOperands]
  simp only [found, gap, part]
  exact moreOperands_congr (arePlain_levelSigns level) (looseRule_reads depth (level + 1)) _ (by simp; omega) (Nat.le_refl _)

end ReadAt

/-- An identifier is read as a constant or a variable. -/
theorem readAt_name {name : String} (named : IsIdentifier name) (depth : Nat) :
    ReadAt depth 0 (rootExpression name) name.toList := by
  obtain ⟨c, others, start, starts⟩ := named.start
  have noSign : ∀ c ∈ ['!', '-'], startsIdentifier c = false := by decide
  refine ⟨⟨c, others, start, (dark_of_startsIdentifier starts).1, fun _ => ⟨?_, ?_⟩⟩, fun more follows => ?_⟩
  · rintro rfl
    simp [noSign '!' (by decide)] at starts
  · rintro rfl
    simp [noSign '-' (by decide)] at starts
  · -- Members behind the name are read together with it, or one after the other.
    obtain ⟨segments, rest, identifiers, stops, rfl⟩ := follows
    have whole : primaryRule (expressionRule depth) (name.toList ++ (dottedChars segments ++ rest)) =
        .done (segments.foldl Expression.member (rootExpression name)) rest := by
      rw [start, List.cons_append, primaryRule_name starts, ← List.cons_append, ← start]
      exact referenceRule_chain named identifiers stops
    exact (chainRule_of_done whole).trans (furtherRule_members _ identifiers stops).symm

/-- What starts no expression is refused as one. -/
theorem looseRule_other {c : Char} (other : startsExpression c = false) (depth level : Nat) (rest : List Char) :
    looseRule depth level (c :: rest) = .refused (c :: rest) := by
  have noSign (sign : Char) (starts : startsExpression sign = true) : ∀ after, c :: rest ≠ sign :: after := by
    rintro after ⟨rfl, _⟩
    rw [other] at starts
    cases starts
  induction level using looseRule.induct with
  | case1 => exact bind_of_refused (primaryRule_other other rest)
  | case2 =>
    exact (unaryRule_of_ne _ (noSign '!' (by decide)) (noSign '-' (by decide))).trans
      (bind_of_refused (primaryRule_other other rest))
  | case3 level tighter => exact bind_of_refused tighter

/-- A closing bracket starts no expression. -/
theorem startsExpression_closing : ∀ closing ∈ [')', ']', '\x7d'], startsExpression closing = false := by
  decide

section Lists

variable {α : Type} {element : Rule α} {write : α → List Char} {style : PrintStyle}

/-- Items with commas between them are at least as long as each of them. -/
theorem length_le_separated (style : PrintStyle) {texts : List (List Char)} {text : List Char} (inside : text ∈ texts) :
    text.length ≤ (style.separated texts).length := by
  cases texts with
  | nil => cases inside
  | cons first rest =>
    have same : style.separated (first :: rest) = List.intercalate (',' :: style.comma) (first :: rest) :=
      (intercalate_cons (',' :: style.comma) first rest).symm
    rw [same]
    exact length_le_intercalate _ inside

/-- Items with commas between them are read up to the closing sign, and there may be none. -/
theorem separated_done {values : List α} (each : ∀ value ∈ values, Spells element (write value) value) {closing : Char}
    (closes : closing ∈ [')', ']', '\x7d']) {more : List Char} (none : ∃ rest, element (closing :: more) = .refused rest) :
    Opens (style.separated (values.map write) ++ closing :: more) ∧
      Rule.elements (Rule.between [',']) element (style.separated (values.map write) ++ closing :: more) =
        .done values (closing :: more) := by
  cases values with
  | nil =>
    obtain ⟨rest, none⟩ := none
    have dark : ∀ c ∈ [')', ']', '\x7d'], isBlank c = false := by decide
    exact ⟨Opens.cons (dark closing closes) more, elements_none none⟩
  | cons value values =>
    obtain ⟨here, others⟩ := List.forall_mem_cons.mp each
    have further : List.Forall₂ (Spells element) (values.map write) values :=
      List.forall₂_map_left_iff.mpr (List.forall₂_same.mpr others)
    rw [List.map_cons, PrintStyle.separated, List.append_assoc]
    exact ⟨here.opens.append _, elements_done (separates_between style.blankComma) here further closes more⟩

end Lists

section Cases

variable {style : PrintStyle}

/-- Several expressions that are read back are read back as a list. -/
theorem items_done {items : List Expression} (back : ∀ item ∈ items, IsReadBack style item) {depth : Nat}
    (deep : (style.separated (printItems style items)).length ≤ depth) {closing : Char} (closes : closing ∈ [')', ']', '\x7d'])
    (more : List Char) :
    Opens (style.separated (printItems style items) ++ closing :: more) ∧
      Rule.elements (Rule.between [',']) (expressionRule (depth + 1))
        (style.separated (printItems style items) ++ closing :: more) = .done items (closing :: more) := by
  rw [printItems_eq] at deep ⊢
  have none := looseRule_other (startsExpression_closing closing closes) depth 7 more
  refine separated_done (fun item inside => (back item inside).spells ?_) closes ⟨_, none⟩
  exact (length_le_separated style (List.mem_map_of_mem inside)).trans deep

/-- An entry is read with its name and its value. -/
theorem entry_spells {entry : String × Expression} (back : IsReadBack style entry.2) {depth : Nat}
    (deep : (printEntry style entry).length ≤ depth) :
    Spells (entryRule (expressionRule (depth + 1))) (printEntry style entry) entry := by
  have shorter : (entry.2.print style).length ≤ depth := by
    simp only [printEntry, List.length_append, List.length_cons] at deep
    omega
  have value := back.spells shorter
  refine ⟨(style.opens_quoted entry.1).append _, fun c more closes => ?_⟩
  have split : printEntry style entry ++ c :: more =
      style.quoted entry.1 ++ ':' :: (style.colon ++ (entry.2.print style ++ c :: more)) := by
    simp [printEntry]
  have named : (Rule.orElse quotedText identifier) (printEntry style entry ++ c :: more) =
      .done entry.1 (':' :: (style.colon ++ (entry.2.print style ++ c :: more))) := by
    rw [split]
    exact orElse_of_done (quotedText_done style entry.1 _)
  rw [entryRule, bind_of_done named, bind_of_done (between_done (by decide) style.blankColon (value.opens.append _)),
    bind_of_done (value.done c more closes)]
  rfl

/-- Several entries are read back as a list. -/
theorem entries_done {entries : List (String × Expression)} (back : ∀ entry ∈ entries, IsReadBack style entry.2)
    {depth : Nat} (deep : (style.separated (printEntries style entries)).length ≤ depth) (more : List Char) :
    Opens (style.separated (printEntries style entries) ++ '\x7d' :: more) ∧
      Rule.elements (Rule.between [',']) (entryRule (expressionRule (depth + 1)))
        (style.separated (printEntries style entries) ++ '\x7d' :: more) = .done entries ('\x7d' :: more) := by
  rw [printEntries_eq] at deep ⊢
  have none : entryRule (expressionRule (depth + 1)) ('\x7d' :: more) = .refused ('\x7d' :: more) := by
    refine bind_of_refused ?_
    rw [orElse_of_refused (quotedText_of_ne (by decide) (by decide) more)]
    exact identifier_of_ne (by decide) more
  refine separated_done (fun entry inside => entry_spells (back entry inside) ?_) (by decide) ⟨_, none⟩
  exact (length_le_separated style (List.mem_map_of_mem inside)).trans deep

/-- What is read without operators and does not start with a sign is read with its accesses. -/
theorem readAt_primary {depth : Nat} {expression : Expression} {text : List Char} {c : Char} {rest : List Char}
    (start : text = c :: rest) (dark : isBlank c = false) (plain : c ≠ '!' ∧ c ≠ '-')
    (done : ∀ more, Follows more → primaryRule (expressionRule depth) (text ++ more) = .done expression more) :
    ReadAt depth 0 expression text :=
  ⟨⟨c, rest, start, dark, fun _ => plain⟩, fun more follows => chainRule_of_done (done more follows)⟩

/-- A constant is read back. -/
theorem isReadBack_literal {value : Value} (spelled : (Expression.literal value).IsSpelled) :
    IsReadBack style (.literal value) := by
  intro depth _
  cases value with
  | null => exact readAt_name (by decide : IsIdentifier "null") depth
  | bool truth =>
    cases truth with
    | true => exact readAt_name (by decide : IsIdentifier "true") depth
    | false => exact readAt_name (by decide : IsIdentifier "false") depth
  | int n =>
    obtain ⟨n, rfl⟩ := Int.eq_ofNat_of_zero_le spelled.1
    obtain ⟨c, rest, start⟩ := List.exists_cons_of_ne_nil (decimalDigits_ne_nil n)
    have digit : isDigit c = true := isDigit_of_mem_decimalDigits c (start ▸ List.mem_cons_self)
    refine readAt_primary start ?_ ⟨?_, ?_⟩ fun more follows => primaryRule_number spelled.2 follows
    · cases blank : isBlank c with
      | false => rfl
      | true => simp [isDigit_of_isBlank c blank] at digit
    · rintro rfl
      exact absurd digit (by decide)
    · rintro rfl
      exact absurd digit (by decide)
  | str text =>
    have sign := style.isQuote text
    refine readAt_primary rfl ?_ ⟨?_, ?_⟩ fun more _ => primaryRule_quoted style text more
    · rcases sign with same | same <;> rw [same] <;> decide
    · rcases sign with same | same <;> rw [same] <;> decide
    · rcases sign with same | same <;> rw [same] <;> decide
  | float x => exact absurd spelled id
  | arr items => exact absurd spelled id
  | obj entries => exact absurd spelled id

/-- A variable is read back. -/
theorem isReadBack_variable {name : String} (spelled : (Expression.variable name).IsSpelled) :
    IsReadBack style (.variable name) := by
  intro depth _
  obtain ⟨named, apart⟩ := spelled
  have root : rootExpression name = .variable name := by
    simp only [List.mem_cons, List.not_mem_nil, or_false, not_or] at apart
    simp [rootExpression, apart]
  have read := readAt_name named depth
  rwa [root] at read

/-- A member is read back if its target is. -/
theorem isReadBack_member {target : Expression} (back : IsReadBack style target) {property : String}
    (named : IsIdentifier property) : IsReadBack style (.member target property) := by
  intro depth deep
  simp only [print, List.length_append, List.length_cons] at deep
  exact (back.placed (by omega)).member named

/-- An index is read back if its target and its key are. -/
theorem isReadBack_index {target key : Expression} (back : IsReadBack style target) (back' : IsReadBack style key) :
    IsReadBack style (.index target key) := by
  intro depth deep
  simp only [print, List.length_append, List.length_cons, List.length_nil] at deep
  obtain ⟨depth, rfl⟩ := Nat.exists_eq_add_one_of_ne_zero (show depth ≠ 0 by omega)
  exact (back.placed (by omega)).index (back'.spells (by omega))

/-- A call is read where its arguments are. -/
theorem readAt_call {name : String} (named : IsCallName name) {depth : Nat} {args : List Expression} {text : List Char}
    (read : ∀ more, argumentsRule (expressionRule depth) ('(' :: (text ++ ')' :: more)) = .done args more) :
    ReadAt depth 0 (.call name args) (name.toList ++ '(' :: (text ++ [')'])) := by
  obtain ⟨c, rest, start, starts⟩ := named.start
  have noSign : ∀ c ∈ ['!', '-'], startsIdentifier c = false := by decide
  refine readAt_primary (by rw [start, List.cons_append]) (dark_of_startsIdentifier starts).1 ⟨?_, ?_⟩ fun more _ => ?_
  · rintro rfl
    simp [noSign '!' (by decide)] at starts
  · rintro rfl
    simp [noSign '-' (by decide)] at starts
  · have split : name.toList ++ '(' :: (text ++ [')']) ++ more = name.toList ++ '(' :: (text ++ ')' :: more) := by simp
    have whole := referenceRule_call named (read more)
    rw [split]
    rw [start, List.cons_append] at whole ⊢
    rw [primaryRule_name starts, whole]

/-- A call is read back if its arguments are. -/
theorem isReadBack_call {name : String} (named : IsCallName name) {args : List Expression}
    (back : ∀ arg ∈ args, IsReadBack style arg) : IsReadBack style (.call name args) := by
  intro depth deep
  simp only [print, List.length_append, List.length_cons, List.length_nil] at deep
  obtain ⟨depth, rfl⟩ := Nat.exists_eq_add_one_of_ne_zero (show depth ≠ 0 by omega)
  have read (more : List Char) : argumentsRule (expressionRule (depth + 1))
      ('(' :: (style.separated (printItems style args) ++ ')' :: more)) = .done args more := by
    obtain ⟨opens, read⟩ := items_done back (show _ ≤ depth by omega) (by decide : ')' ∈ [')', ']', '\x7d']) more
    exact enclosed_done (by decide) opens read
  have split : (call name args).print style = name.toList ++ '(' :: (style.separated (printItems style args) ++ [')']) := by
    simp [print]
  rw [split]
  exact readAt_call named read

/-- A list is read back if its items are. -/
theorem isReadBack_array {items : List Expression} (back : ∀ item ∈ items, IsReadBack style item) :
    IsReadBack style (.array items) := by
  intro depth deep
  simp only [print, List.length_append, List.length_cons, List.length_nil] at deep
  refine readAt_primary rfl (by decide) (by decide) fun more _ => ?_
  obtain ⟨depth, rfl⟩ := Nat.exists_eq_add_one_of_ne_zero (show depth ≠ 0 by omega)
  obtain ⟨opens, read⟩ := items_done back (show _ ≤ depth by omega) (by decide : ']' ∈ [')', ']', '\x7d']) more
  have split : (array items).print style ++ more = '[' :: (style.separated (printItems style items) ++ ']' :: more) := by
    simp [print]
  rw [split]
  exact primaryRule_array opens read

/-- An object is read back if the values of its entries are. -/
theorem isReadBack_object {entries : List (String × Expression)} (back : ∀ entry ∈ entries, IsReadBack style entry.2) :
    IsReadBack style (.object entries) := by
  intro depth deep
  simp only [print, List.length_append, List.length_cons, List.length_nil] at deep
  refine readAt_primary rfl (by decide) (by decide) fun more _ => ?_
  obtain ⟨depth, rfl⟩ := Nat.exists_eq_add_one_of_ne_zero (show depth ≠ 0 by omega)
  obtain ⟨opens, read⟩ := entries_done back (show _ ≤ depth by omega) more
  have split : (object entries).print style ++ more =
      '\x7b' :: (style.separated (printEntries style entries) ++ '\x7d' :: more) := by
    simp [print]
  rw [split]
  exact primaryRule_object opens read

/-- An operator and its operand are read back if the operand is. -/
theorem isReadBack_unary (op : UnaryOp) {operand : Expression} (back : IsReadBack style operand) :
    IsReadBack style (.unary op operand) := by
  intro depth deep
  simp only [print, List.length_cons] at deep
  exact (back.placed (by omega)).unary op

/-- An operator and its operands are read back if the operands are. -/
theorem isReadBack_binary (op : BinaryOp) {left right : Expression} (back : IsReadBack style left)
    (back' : IsReadBack style right) : IsReadBack style (.binary op left right) := by
  intro depth deep
  simp only [print, List.length_append, List.length_cons] at deep
  exact (back.placed (by omega)).binary (back'.placed (by omega))

end Cases

/-- Every expression that has a spelling is read back. -/
theorem isReadBack (style : PrintStyle) (expression : Expression) (spelled : expression.Everywhere IsSpelled) :
    IsReadBack style expression := by
  induction expression using inductionOnParts with
  | literal value => exact isReadBack_literal (everywhere_literal.mp spelled)
  | name name => exact isReadBack_variable (everywhere_variable.mp spelled)
  | member target property back =>
    obtain ⟨here, inside⟩ := everywhere_member.mp spelled
    exact isReadBack_member (back inside) here
  | index target key back back' =>
    obtain ⟨_, inside, inside'⟩ := everywhere_index.mp spelled
    exact isReadBack_index (back inside) (back' inside')
  | call name args back =>
    obtain ⟨here, inside⟩ := everywhere_call.mp spelled
    exact isReadBack_call here fun arg among => back arg among (inside arg among)
  | array items back =>
    obtain ⟨_, inside⟩ := everywhere_array.mp spelled
    exact isReadBack_array fun item among => back item among (inside item among)
  | object entries back =>
    obtain ⟨_, inside⟩ := everywhere_object.mp spelled
    exact isReadBack_object fun entry among => back entry among (inside entry among)
  | unary op operand back => exact isReadBack_unary op (back (everywhere_unary.mp spelled).2)
  | binary op left right back back' =>
    obtain ⟨_, inside, inside'⟩ := everywhere_binary.mp spelled
    exact isReadBack_binary op (back inside) (back' inside')

/-- A text that is read spells the expression that is read. -/
theorem ReadAt.parse {level : Nat} {expression : Expression} {text : List Char}
    (read : ReadAt text.length level expression text) (loose : level ≤ 7) :
    Expression.parse (String.ofList text) = .ok expression := by
  have done := (read.mono loose).done .nothing
  rw [List.append_nil] at done
  refine parse_eq_ok_iff.mpr ⟨[], ?_, nofun⟩
  rw [String.toList_ofList, read.opensText.trimFront]
  exact done

/-- Every expression that has a spelling is read from its text with white space around it. -/
theorem Expression.parse_of_isSpelled (style : PrintStyle) {expression : Expression} (spelled : expression.Everywhere IsSpelled)
    {lead trail : List Char} (blank : ∀ c ∈ lead, isBlank c = true) (blank' : ∀ c ∈ trail, isBlank c = true) :
    Expression.parse (String.ofList (lead ++ expression.print style ++ trail)) = .ok expression := by
  have back := isReadBack style expression spelled (expression.print style).length (Nat.le_refl _)
  exact (parse_margins blank blank' _ expression).mpr (back.parse expression.looseness_le)

/-- Every expression that has a spelling is read back from its text with white space around it, and every expression that is
read at all has a spelling, but for its floats. -/
theorem Expression.parse_print (style : PrintStyle) :
    (∀ (expression : Expression) (lead trail : List Char), expression.Everywhere IsSpelled →
      (∀ c ∈ lead, isBlank c = true) → (∀ c ∈ trail, isBlank c = true) →
        Expression.parse (String.ofList (lead ++ expression.print style ++ trail)) = .ok expression) ∧
      ∀ (source : String) (expression : Expression), Expression.parse source = .ok expression →
        expression.Everywhere IsReadable := by
  constructor
  · intro expression lead trail spelled blank blank'
    exact parse_of_isSpelled style spelled blank blank'
  · intro source expression accepted
    obtain ⟨_, _, _, _, _, _, _, readable⟩ := reads_of_parse accepted
    exact readable

/-- Texts in single quotes, and a space after each comma and colon. -/
def spacedStyle : PrintStyle where
  quote _ := '\x27'
  comma := [' ']
  colon := [' ']
  isQuote _ := .inl rfl
  blankComma := by decide
  blankColon := by decide

/-- A difference that needs parentheses, a call with a long name, and a member of an object. -/
def bill : Expression :=
  -- The quote in the argument must be escaped, and the one in the name of the entry must not.
  .binary .multiply
    (.unary .negate (.binary .subtract (.variable "total")
      (.call "rebate.of-2024!" [.literal (.str "it\x27s"), .array []])))
    (.member (.object [("a\x22b", .literal (.int 1))]) "size")

/-- The text of such an expression is read back. -/
theorem bill_reads_back :
    Expression.parse "  -(total - rebate.of-2024!(\x27it\\\x27s\x27, [])) * \x7b\x27a\x22b\x27: 1\x7d.size\n" = .ok bill ∧
      bill.Everywhere IsReadable := by
  have text : String.ofList ([' ', ' '] ++ bill.print spacedStyle ++ ['\n']) =
      "  -(total - rebate.of-2024!(\x27it\\\x27s\x27, [])) * \x7b\x27a\x22b\x27: 1\x7d.size\n" := by decide
  have dashed : ∀ part ∈ ["2024"], IsDashedPart part := by
    simp only [List.mem_singleton, forall_eq]
    exact ⟨by decide, by decide⟩
  have named : IsCallName "rebate.of-2024!" :=
    ⟨"rebate", ["of"], ["2024"], true, by decide, by decide, dashed, by decide⟩
  have spelled : bill.Everywhere IsSpelled := by
    simp only [bill, everywhere_binary, everywhere_unary, everywhere_variable, everywhere_call, everywhere_member,
      everywhere_object, everywhere_array, everywhere_literal, List.forall_mem_cons, List.not_mem_nil, IsSpelled,
      false_imp_iff, implies_true, and_true, true_and]
    exact ⟨⟨⟨by decide, by decide⟩, named⟩, by decide, by decide, by decide⟩
  have read := (parse_print spacedStyle).1 bill _ _ spelled (by decide : ∀ c ∈ [' ', ' '], isBlank c = true)
    (by decide : ∀ c ∈ ['\n'], isBlank c = true)
  rw [text] at read
  exact ⟨read, (parse_print spacedStyle).2 _ _ read⟩

end Phrasebook
