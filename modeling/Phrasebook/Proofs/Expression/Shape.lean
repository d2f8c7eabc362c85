import Phrasebook.Proofs.Decimal.Unsigned
import Phrasebook.Proofs.Expression.Everywhere
import Phrasebook.Proofs.Expression.Names
import Phrasebook.Proofs.Text.Braces

/-! What can be read as an expression: its names and constants, and the text that it is read from. -/

namespace Phrasebook

/-- The characters of further segments, each after a dot. -/
def dottedChars (segments : List String) : List Char :=
  -- There may be none.
  segments.flatMap fun segment => '.' :: segment.toList

/-- Whether a text can follow a dash in the name of a call. -/
def IsDashedPart (part : String) : Prop :=
  -- Dots are part of it.
  part.toList ≠ [] ∧ ∀ c ∈ part.toList, continuesDashed c = true

/-- The characters of parts, each after a dash. -/
def dashedChars (parts : List String) : List Char :=
  -- There may be none.
  parts.flatMap fun part => '-' :: part.toList

/-- Whether a text is the name of a call: identifiers with dots, parts with dashes, perhaps an exclamation mark. -/
def IsCallName (name : String) : Prop :=
  -- The exclamation mark stands at the very end.
  ∃ (first : String) (segments parts : List String) (rerun : Bool),
    IsIdentifier first ∧ (∀ segment ∈ segments, IsIdentifier segment) ∧ (∀ part ∈ parts, IsDashedPart part) ∧
      name.toList = first.toList ++ dottedChars segments ++ dashedChars parts ++ if rerun then ['!'] else []

namespace Expression

/-- Whether an expression, its parts apart, is one of those that can be written and read again. -/
def IsSpelled : Expression → Prop
  -- Negative numbers are written with an operator, and containers by their own kinds of expressions.
  | .literal .null | .literal (.bool _) | .literal (.str _) => True
  | .literal (.int n) => 0 ≤ n ∧ n ≤ Value.maxSigned
  | .literal _ => False
  | .variable name => IsIdentifier name ∧ name ∉ ["true", "false", "null"]
  | .member _ property => IsIdentifier property
  | .call name _ => IsCallName name
  | _ => True

/-- Whether an expression, its parts apart, is one of those that are read. -/
def IsReadable (expression : Expression) : Prop :=
  -- Floats have more than one spelling.
  expression.IsSpelled ∨ ∃ x, expression = .literal (.float x) ∧ IsUnsigned x

/-- The expression that an identifier stands for can be read. -/
theorem everywhere_rootExpression {name : String} (identifier : IsIdentifier name) :
    (rootExpression name).Everywhere IsReadable := by
  unfold rootExpression
  -- Three identifiers are constants.
  split
  · exact everywhere_literal.mpr (.inl trivial)
  · split
    · exact everywhere_literal.mpr (.inl trivial)
    · split
      · exact everywhere_literal.mpr (.inl trivial)
      · exact everywhere_variable.mpr (.inl ⟨identifier, by simp_all⟩)

/-- A chain of members can be read if its target and its names can. -/
theorem everywhere_chain {target : Expression} (readable : target.Everywhere IsReadable) {segments : List String}
    (identifiers : ∀ segment ∈ segments, IsIdentifier segment) :
    (segments.foldl Expression.member target).Everywhere IsReadable := by
  induction segments generalizing target with
  | nil => exact readable
  | cons segment rest later =>
    obtain ⟨here, others⟩ := List.forall_mem_cons.mp identifiers
    exact later (everywhere_member.mpr ⟨.inl here, readable⟩) others

end Expression

section Reader

open Expression Rule

/-- Characters of a kind that has no quotes and no braces are balanced. -/
theorem balanced_of_kind {kind : Char → Bool}
    (apart : kind '\x27' = false ∧ kind '\x22' = false ∧ kind '\x7b' = false ∧ kind '\x7d' = false) {text : List Char}
    (all : ∀ c ∈ text, kind c = true) : Balanced text := by
  refine balanced_of_calm fun c inside => ?_
  have here := all c inside
  simp only [isCalm, Bool.and_eq_true, bne_iff_ne, ne_eq]
  refine ⟨⟨⟨?_, ?_⟩, ?_⟩, ?_⟩ <;> rintro rfl <;> simp_all

/-- White space is balanced. -/
theorem balanced_of_blank (gap : List Char) (blank : ∀ c ∈ gap, isBlank c = true) : Balanced gap :=
  balanced_of_kind (by decide) blank

/-- Text that may stand for itself is balanced if none of its characters is a quote or a brace. -/
theorem balanced_of_all {text : List Char} (calm : text.all isCalm = true) : Balanced text :=
  balanced_of_calm (List.all_eq_true.mp calm)

/-- A number can be read. -/
theorem numberRule_reads : numberRule.Reads Balanced (Everywhere IsReadable) := by
  -- Wherever the digits end, the number that they spell has no sign.
  have literals {whole fraction left rest : List Char} {value : Expression}
      (done : numberLiteral whole fraction left = .done value rest) : rest = left ∧ value.Everywhere IsReadable := by
    simp only [numberLiteral] at done
    split at done
    · rename_i small
      simp only [Bool.and_eq_true, decide_eq_true_eq] at small
      cases done
      exact ⟨rfl, everywhere_literal.mpr (.inl ⟨Int.natCast_nonneg _, small.2⟩)⟩
    · split at done
      · rename_i finite
        cases done
        exact ⟨rfl, everywhere_literal.mpr (.inr ⟨_, rfl, isUnsigned_floatOfDigits finite⟩)⟩
      · cases done
  have digits (text : List Char) : Balanced (text.takeWhile isDigit) :=
    balanced_of_kind (by decide) fun c inside => List.mem_takeWhile_imp inside
  intro text value rest done
  have whole : text = text.takeWhile isDigit ++ text.dropWhile isDigit := List.takeWhile_append_dropWhile.symm
  simp only [numberRule] at done
  split at done
  · cases done
  · split at done
    · rename_i after behind
      split at done
      · obtain ⟨rfl, readable⟩ := literals done
        exact ⟨_, whole, digits text, readable⟩
      · obtain ⟨rfl, readable⟩ := literals done
        refine ⟨text.takeWhile isDigit ++ (['.'] ++ after.takeWhile isDigit), ?_, ?_, readable⟩
        · rw [List.append_assoc, List.append_assoc, List.takeWhile_append_dropWhile, List.singleton_append, ← behind]
          exact whole
        · exact joined_balanced.append (digits text) (joined_balanced.append (balanced_of_all (by decide)) (digits after))
    · obtain ⟨rfl, readable⟩ := literals done
      exact ⟨_, whole, digits text, readable⟩

/-- An identifier can be read. -/
theorem identifier_reads : identifier.Reads Balanced IsIdentifier := by
  intro text name rest done
  have named := identifier_gives text name rest done
  obtain ⟨first, more, rfl, starts, rfl, rfl⟩ := exists_of_identifier done
  refine ⟨first :: more.takeWhile continuesIdentifier, ?_, ?_, named⟩
  · rw [List.cons_append, List.takeWhile_append_dropWhile]
  · have start : ∀ c ∈ [first], startsIdentifier c = true := by simpa using starts
    have others : Balanced (more.takeWhile continuesIdentifier) :=
      balanced_of_kind (by decide) fun c inside => List.mem_takeWhile_imp inside
    exact joined_balanced.append (balanced_of_kind (by decide) start) others

/-- Further segments of a dotted name are read like elements. -/
theorem moreSegments_eq (turns : Nat) : moreSegments turns = Rule.moreElements (Rule.exactly ['.']) identifier turns := by
  induction turns with
  | zero => rfl
  | succ turns same =>
    rw [moreSegments, moreElements_succ, same]
    refine congrArg (bind _) (funext fun segment => ?_)
    cases segment <;> rfl

/-- The parts of a name after dashes are a front part of the text. -/
theorem dashedParts_reads (turns : Nat) (text : List Char) :
    ∃ parts, (dashedParts turns text).1 = dashedChars parts ∧ (∀ part ∈ parts, IsDashedPart part) ∧
      text = (dashedParts turns text).1 ++ (dashedParts turns text).2 := by
  induction turns generalizing text with
  | zero => exact ⟨[], rfl, nofun, rfl⟩
  | succ turns more =>
    unfold dashedParts
    split
    · rename_i turns' rest same
      cases same
      dsimp only
      split
      · exact ⟨[], rfl, nofun, rfl⟩
      · rename_i present
        obtain ⟨parts, chars, dashed, whole⟩ := more (rest.dropWhile continuesDashed)
        refine ⟨String.ofList (rest.takeWhile continuesDashed) :: parts, ?_, ?_, ?_⟩
        · rw [dashedChars, List.flatMap_cons, String.toList_ofList, chars]
          rfl
        · refine List.forall_mem_cons.mpr ⟨⟨?_, fun c inside => ?_⟩, dashed⟩
          · rw [String.toList_ofList]
            simpa using present
          · rw [String.toList_ofList] at inside
            exact List.mem_takeWhile_imp inside
        · rw [List.append_assoc, ← whole, List.cons_append, List.takeWhile_append_dropWhile]
    · exact ⟨[], rfl, nofun, rfl⟩

/-- The characters of parts after dashes are balanced. -/
theorem balanced_dashedChars {parts : List String} (dashed : ∀ part ∈ parts, IsDashedPart part) :
    Balanced (dashedChars parts) := by
  induction parts with
  | nil => exact joined_balanced.nil
  | cons part rest later =>
    obtain ⟨here, others⟩ := List.forall_mem_cons.mp dashed
    have sign : Balanced ['-'] := balanced_of_all (by decide)
    have start : Balanced part.toList := balanced_of_kind (by decide) here.2
    rw [dashedChars, List.flatMap_cons]
    exact joined_balanced.append (joined_balanced.append sign start) (later others)

/-- The characters of segments between dots are those of the first segment, and of each further one after a dot. -/
theorem toList_intercalate_dot (first : String) (segments : List String) :
    (String.intercalate "." (first :: segments)).toList = first.toList ++ dottedChars segments := by
  induction segments generalizing first with
  | nil => simp [dottedChars]
  | cons second rest later =>
    rw [String.intercalate_cons_cons, String.toList_append, String.toList_append, later]
    simp [dottedChars]

/-- Read the further segments of a dotted name. -/
def segmentsRule : Rule (List String) := fun text =>
  -- Each segment has a dot in front.
  Rule.moreElements (Rule.exactly ['.']) identifier text.length text

/-- Read the dashed end of a call name. -/
def dashedRule : Rule (List Char) := fun text =>
  -- There may be none.
  .done (dashedTail text).1 (dashedTail text).2

/-- Read the exclamation mark of a call. -/
def rerunRule : Rule Bool := fun text =>
  -- It stands directly before the arguments.
  match text with
  | '!' :: '(' :: after => .done true ('(' :: after)
  | _ => .done false text

/-- Look whether arguments follow. -/
def calledRule : Rule Bool := fun text =>
  -- Nothing is read.
  .done (text.head? == some '(') text

/-- Read the arguments of a call. -/
def argumentsRule (nested : Rule Expression) : Rule (List Expression) :=
  -- They stand in parentheses.
  Rule.enclosed '(' ')' (Rule.elements (Rule.between [',']) nested)

/-- The name of a call, out of its parts. -/
def callName (first : String) (segments : List String) (dashed : List Char) (rerun : Bool) : String :=
  -- The exclamation mark belongs to the name.
  let name := String.intercalate "." (first :: segments) ++ String.ofList dashed
  if rerun then name ++ "!" else name

/-- A reference is read part by part. -/
theorem referenceRule_eq (nested : Rule Expression) : referenceRule nested = (do
    let first ← identifier
    let segments ← segmentsRule
    let dashed ← dashedRule
    let rerun ← rerunRule
    let called ← calledRule
    if called then do
      let args ← argumentsRule nested
      return .call (callName first segments dashed rerun) args
    else return segments.foldl Expression.member (rootExpression first)) := by
  have same : segmentsRule = fun text => moreSegments text.length text := by
    funext text
    rw [moreSegments_eq]
    rfl
  rw [same]
  rfl

/-- Further segments are read with a dot in front of each. -/
theorem segmentsRule_reads : segmentsRule.Reads Balanced fun segments => ∀ segment ∈ segments, IsIdentifier segment :=
  fun text => reads_moreElements joined_balanced (reads_exactly (balanced_of_all (by decide))) identifier_reads _ text

/-- The dashed end of a call name is a front part of the text. -/
theorem dashedRule_reads :
    dashedRule.Reads Balanced fun tail => ∃ parts, tail = dashedChars parts ∧ ∀ part ∈ parts, IsDashedPart part := by
  intro text tail rest done
  obtain ⟨parts, chars, dashed, whole⟩ := dashedParts_reads text.length text
  simp only [dashedRule, dashedTail] at done
  split at done
  · cases done
    rw [chars] at whole
    exact ⟨_, whole, balanced_dashedChars dashed, parts, chars, dashed⟩
  · cases done
    exact ⟨[], rfl, joined_balanced.nil, [], rfl, nofun⟩

/-- The exclamation mark of a call is balanced. -/
theorem rerunRule_reads : rerunRule.Reads Balanced fun _ => True := by
  intro text rerun rest done
  unfold rerunRule at done
  split at done
  · cases done
    exact ⟨['!'], rfl, balanced_of_all (by decide), trivial⟩
  · cases done
    exact ⟨[], rfl, joined_balanced.nil, trivial⟩

/-- Looking for arguments reads nothing. -/
theorem calledRule_reads : calledRule.Reads Balanced fun _ => True := by
  intro text called rest done
  cases done
  exact ⟨[], rfl, joined_balanced.nil, trivial⟩

/-- The characters of the name of a call are those of its parts. -/
theorem toList_callName (first : String) (segments : List String) (dashed : List Char) (rerun : Bool) :
    (callName first segments dashed rerun).toList =
      first.toList ++ dottedChars segments ++ dashed ++ if rerun then ['!'] else [] := by
  have start := toList_intercalate_dot first segments
  cases rerun with
  | false =>
    rw [callName, if_neg Bool.false_ne_true, String.toList_append, start, String.toList_ofList, if_neg Bool.false_ne_true,
      List.append_nil]
  | true =>
    rw [callName, if_pos rfl, String.toList_append, String.toList_append, start, String.toList_ofList]
    rfl

/-- The parts of the name of a call make up such a name. -/
theorem isCallName_callName {first : String} {segments parts : List String} (starts : IsIdentifier first)
    (continues : ∀ segment ∈ segments, IsIdentifier segment) (dashed : ∀ part ∈ parts, IsDashedPart part)
    (rerun : Bool) : IsCallName (callName first segments (dashedChars parts) rerun) :=
  ⟨first, segments, parts, rerun, starts, continues, dashed, toList_callName first segments (dashedChars parts) rerun⟩

/-- Read the operand of a unary operator, behind its sign. -/
def signedRule (nested : Rule Expression) (turns : Nat) (op : UnaryOp) : Rule Expression := do
  -- Further operators may stand in front of the operand.
  Rule.blanks
  let operand ← unaryRule nested turns
  return .unary op operand

/-- The operand of a unary operator starts after white space. -/
theorem signedRule_apply (nested : Rule Expression) (turns : Nat) (op : UnaryOp) (text : List Char) :
    signedRule nested turns op text =
      match unaryRule nested turns (trimFront text) with
      | .done operand rest => .done (.unary op operand) rest
      | .refused rest => .refused rest
      | .failed rest => .failed rest := by
  change Rule.andThen (unaryRule nested turns) _ (trimFront text) = _
  rw [Rule.andThen]
  cases unaryRule nested turns (trimFront text) <;> rfl

/-- Read a member or an index of a target, if there is one. -/
def accessStep (nested : Rule Expression) (target : Expression) : Rule (Option Expression) :=
  -- A dot or a bracket that starts neither is given back.
  Rule.optional (accessRule nested target)

section Nested

variable {nested : Rule Expression} (inner : nested.Reads Balanced (Everywhere IsReadable))

/-- Arguments, items and the like can be read if each of them can. -/
theorem elements_reads {α : Type} {Good : α → Prop} {element : Rule α} (good : element.Reads Balanced Good) :
    (Rule.elements (Rule.between [',']) element).Reads Balanced fun values => ∀ value ∈ values, Good value :=
  reads_elements joined_balanced (reads_between joined_balanced (balanced_of_all (by decide)) balanced_of_blank) good

/-- A part between signs that are neither quotes nor braces can be read. -/
theorem enclosed_reads {α : Type} {Good : α → Prop} {content : Rule α} {opening closing : Char}
    (calm : isCalm opening = true ∧ isCalm closing = true) (good : content.Reads Balanced Good) :
    (Rule.enclosed opening closing content).Reads Balanced Good :=
  reads_enclosed joined_balanced (fun _ balanced => balanced.between calm.1 calm.2) balanced_of_blank good

include inner

/-- A constant, a chain of members or a call can be read. -/
theorem referenceRule_reads : (referenceRule nested).Reads Balanced (Everywhere IsReadable) := by
  rw [referenceRule_eq]
  refine reads_bind joined_balanced identifier_reads fun first starts => ?_
  refine reads_bind joined_balanced segmentsRule_reads fun segments continues => ?_
  refine reads_bind joined_balanced dashedRule_reads fun tail dashed => ?_
  refine reads_bind joined_balanced rerunRule_reads fun rerun _ => ?_
  refine reads_bind joined_balanced calledRule_reads fun called _ => ?_
  split
  · refine reads_bind joined_balanced (enclosed_reads (by decide) (elements_reads inner)) fun args parts => ?_
    obtain ⟨names, rfl, dashed⟩ := dashed
    have named := isCallName_callName starts continues dashed rerun
    exact reads_pure joined_balanced (everywhere_call.mpr ⟨.inl named, parts⟩)
  · exact reads_pure joined_balanced (everywhere_chain (everywhere_rootExpression starts) continues)

/-- An entry of an object can be read if its value can. -/
theorem entryRule_reads : (entryRule nested).Reads Balanced fun entry => entry.2.Everywhere IsReadable := by
  have name : (Rule.orElse quotedText identifier).Reads Balanced fun _ => True :=
    reads_orElse quotedText_reads (identifier_reads.imp fun _ _ => trivial)
  have colon := reads_between joined_balanced (balanced_of_all (by decide : [':'].all isCalm = true)) balanced_of_blank
  refine reads_bind joined_balanced name fun name _ => reads_bind joined_balanced colon fun _ _ => ?_
  exact reads_bind joined_balanced inner fun value part => reads_pure joined_balanced part

/-- An expression without operators can be read. -/
theorem primaryRule_reads : (primaryRule nested).Reads Balanced (Everywhere IsReadable) := by
  unfold primaryRule
  -- The alternatives are numbers, texts, lists, objects, brackets and references.
  refine reads_orElse numberRule_reads (reads_orElse ?_ (reads_orElse ?_ (reads_orElse ?_ (reads_orElse ?_ ?_))))
  · refine reads_bind joined_balanced quotedText_reads fun text _ => reads_pure joined_balanced ?_
    exact everywhere_literal.mpr (.inl trivial)
  · refine reads_bind joined_balanced (enclosed_reads (by decide) (elements_reads inner)) fun items parts => ?_
    exact reads_pure joined_balanced (everywhere_array.mpr ⟨.inl trivial, parts⟩)
  · have entries := elements_reads (entryRule_reads inner)
    have braces := reads_enclosed joined_balanced (fun _ balanced => balanced.braces) balanced_of_blank entries
    refine reads_bind joined_balanced braces fun entries parts => ?_
    exact reads_pure joined_balanced (everywhere_object.mpr ⟨.inl trivial, parts⟩)
  · exact enclosed_reads (by decide) inner
  · exact referenceRule_reads inner

/-- A member or an index can be read if its target can. -/
theorem accessRule_reads {target : Expression} (whole : target.Everywhere IsReadable) :
    (accessRule nested target).Reads Balanced (Everywhere IsReadable) := by
  unfold accessRule
  have dot : (Rule.exactly ['.']).Reads Balanced fun _ => True := reads_exactly (balanced_of_all (by decide))
  refine reads_orElse ?_ ?_
  · refine reads_bind joined_balanced dot fun _ _ => reads_bind joined_balanced identifier_reads fun property named => ?_
    exact reads_pure joined_balanced (everywhere_member.mpr ⟨.inl named, whole⟩)
  · refine reads_bind joined_balanced (enclosed_reads (by decide) inner) fun key part => ?_
    exact reads_pure joined_balanced (everywhere_index.mpr ⟨.inl trivial, whole, part⟩)

omit inner in
/-- Members and indexes are read step by step. -/
theorem moreAccesses_eq (turns : Nat) (target : Expression) :
    moreAccesses nested turns target = steps (accessStep nested) turns target := by
  induction turns generalizing target with
  | zero => rfl
  | succ turns same =>
    rw [moreAccesses, steps]
    refine congrArg (bind _) (funext fun access => ?_)
    cases access with
    | none => rfl
    | some longer => exact same longer

/-- Members and indexes after a target can be read. -/
theorem moreAccesses_reads (turns : Nat) {target : Expression} (whole : target.Everywhere IsReadable) :
    (moreAccesses nested turns target).Reads Balanced (Everywhere IsReadable) := by
  rw [moreAccesses_eq]
  exact reads_steps joined_balanced (fun target whole => reads_optional joined_balanced (accessRule_reads inner whole))
    turns whole

/-- An expression with its members and indexes can be read. -/
theorem chainRule_reads : (chainRule nested).Reads Balanced (Everywhere IsReadable) := by
  refine reads_bind joined_balanced (primaryRule_reads inner) fun target whole => ?_
  exact fun text => moreAccesses_reads inner text.length whole text

omit inner in
/-- A unary operator is read with its sign, and white space may follow the sign. -/
theorem unaryRule_succ (turns : Nat) (text : List Char) :
    unaryRule nested (turns + 1) text =
      match text with
      | '!' :: rest => signedRule nested turns .not rest
      | '-' :: rest => signedRule nested turns .negate rest
      | _ => chainRule nested text :=
  -- Skipping white space is never refused.
  rfl

omit inner in
/-- Without a sign in front an expression is read with its members and indexes. -/
theorem unaryRule_of_ne (turns : Nat) {text : List Char} (noNot : ∀ rest, text ≠ '!' :: rest)
    (noMinus : ∀ rest, text ≠ '-' :: rest) : unaryRule nested turns text = chainRule nested text := by
  cases turns with
  | zero => rfl
  | succ turns =>
    rw [unaryRule_succ]
    split
    · exact absurd rfl (noNot _)
    · exact absurd rfl (noMinus _)
    · rfl

/-- An expression with the unary operators in front of it can be read. -/
theorem unaryRule_reads (turns : Nat) : (unaryRule nested turns).Reads Balanced (Everywhere IsReadable) := by
  induction turns with
  | zero => exact chainRule_reads inner
  | succ turns more =>
    have signed (sign : Char) (calm : isCalm sign = true) (op : UnaryOp) {rest left : List Char} {value : Expression}
        (done : signedRule nested turns op rest = .done value left) :
        ∃ read, sign :: rest = read ++ left ∧ Balanced read ∧ value.Everywhere IsReadable := by
      have operand : (signedRule nested turns op).Reads Balanced (Everywhere IsReadable) := by
        refine reads_bind joined_balanced (reads_blanks balanced_of_blank) fun _ _ => ?_
        refine reads_bind joined_balanced more fun operand part => reads_pure joined_balanced ?_
        exact everywhere_unary.mpr ⟨.inl trivial, part⟩
      obtain ⟨read, rfl, part, readable⟩ := operand _ _ _ done
      have start : Balanced [sign] := balanced_of_all (by simpa using calm)
      exact ⟨[sign] ++ read, rfl, joined_balanced.append start part, readable⟩
    intro text value rest done
    rw [unaryRule_succ] at done
    split at done
    · exact signed '!' (by decide) .not done
    · exact signed '-' (by decide) .negate done
    · exact chainRule_reads inner _ value rest done

end Nested

/-- Read the right operand of an operator, behind its sign. -/
def rightRule (operand : Rule Expression) (op : BinaryOp) (left : Expression) : Rule (Option Expression) := do
  -- A missing operand is a refusal.
  Rule.blanks
  let right ← operand
  return some (.binary op left right)

/-- The right operand starts after white space. -/
theorem rightRule_apply (operand : Rule Expression) (op : BinaryOp) (left : Expression) (text : List Char) :
    rightRule operand op left text =
      match operand (trimFront text) with
      | .done right rest => .done (some (.binary op left right)) rest
      | .refused rest => .refused rest
      | .failed rest => .failed rest := by
  change Rule.andThen operand _ (trimFront text) = _
  rw [Rule.andThen]
  cases operand (trimFront text) <;> rfl

/-- Read an operator and its right operand, if an operator of a level follows. -/
def operandRule (operand : Rule Expression) (signs : OperatorSigns) (left : Expression) : Rule (Option Expression) :=
  -- White space in front of what is no operator is given back.
  fun text =>
    match operatorAt? signs (trimFront text) with
    | none => .done none text
    | some (op, rest) => rightRule operand op left rest

/-- Operators and operands are read step by step. -/
theorem moreOperands_eq (operand : Rule Expression) (signs : OperatorSigns) (turns : Nat) (left : Expression) :
    moreOperands operand signs turns left = steps (operandRule operand signs) turns left := by
  induction turns generalizing left with
  | zero => rfl
  | succ turns same =>
    funext text
    change _ = Rule.andThen (operandRule operand signs left) _ text
    rw [moreOperands, Rule.andThen, operandRule]
    dsimp only
    cases operatorAt? signs (trimFront text) with
    | none => rfl
    | some found =>
      obtain ⟨op, rest⟩ := found
      dsimp only
      rw [rightRule_apply]
      cases operand (trimFront rest) with
      | done right behind => exact congrFun (same (.binary op left right)) behind
      | refused behind => rfl
      | failed behind => rfl

/-- Whether the signs of operators are made of characters that are neither quotes nor braces nor white space. -/
def ArePlain (signs : OperatorSigns) : Prop :=
  -- No sign is empty.
  ∀ sign ∈ signs, sign.1 ≠ [] ∧ ∀ c ∈ sign.1, isCalm c = true ∧ isBlank c = false

/-- An operator is found with its sign at the front of a text. -/
theorem eq_append_of_operatorAt? {signs : OperatorSigns} {text rest : List Char} {op : BinaryOp}
    (found : operatorAt? signs text = some (op, rest)) : ∃ sign, (sign, op) ∈ signs ∧ text = sign ++ rest := by
  obtain ⟨⟨sign, op'⟩, first, same⟩ := Option.map_eq_some_iff.mp found
  cases same
  have starts : sign.isPrefixOf text = true := by simpa using List.find?_some first
  exact ⟨sign, List.mem_of_find?_eq_some first,
    (List.prefix_iff_eq_append.mp (List.isPrefixOf_iff_prefix.mp starts)).symm⟩

section Levels

variable {signs : OperatorSigns} (plain : ArePlain signs) {operand : Rule Expression}
    (part : operand.Reads Balanced (Everywhere IsReadable))

include plain part

/-- An operator and its right operand can be read. -/
theorem operandRule_reads {left : Expression} (whole : left.Everywhere IsReadable) :
    (operandRule operand signs left).Reads Balanced fun longer => ∀ next, longer = some next → next.Everywhere IsReadable := by
  intro text longer rest done
  unfold operandRule at done
  split at done
  · cases done
    exact ⟨[], rfl, joined_balanced.nil, nofun⟩
  · rename_i op behind found
    obtain ⟨sign, listed, front⟩ := eq_append_of_operatorAt? found
    obtain ⟨gap, text, blank, _⟩ := reads_blanks balanced_of_blank text () (trimFront text) rfl
    have right : (rightRule operand op left).Reads Balanced
        fun longer => ∀ next, longer = some next → next.Everywhere IsReadable := by
      refine reads_bind joined_balanced (reads_blanks balanced_of_blank) fun _ _ => ?_
      refine reads_bind joined_balanced part fun right readable => reads_pure joined_balanced ?_
      rintro _ ⟨rfl⟩
      exact everywhere_binary.mpr ⟨.inl trivial, whole, readable⟩
    obtain ⟨read, rfl, balanced, readable⟩ := right _ _ _ done
    have signed := balanced_of_calm fun c inside => ((plain _ listed).2 c inside).1
    refine ⟨gap ++ (sign ++ read), ?_, joined_balanced.append blank (joined_balanced.append signed balanced), readable⟩
    rw [text, front]
    simp

/-- Operands with operators of one level between them can be read. -/
theorem levelRule_reads : (levelRule signs operand).Reads Balanced (Everywhere IsReadable) := by
  refine reads_bind joined_balanced part fun left whole text => ?_
  rw [moreOperands_eq]
  exact reads_steps joined_balanced (fun left whole => operandRule_reads plain part whole) text.length whole text

end Levels

/-- The signs of all operators are plain. -/
theorem arePlain_operatorLevels : ∀ signs ∈ operatorLevels, ArePlain signs := by
  unfold ArePlain
  decide

/-- Whatever expression is read has a balanced text, and each of its parts is one of those that are read. -/
theorem expressionRule_reads (depth : Nat) : (expressionRule depth).Reads Balanced (Everywhere IsReadable) := by
  induction depth with
  | zero => exact fun text value rest done => by cases done
  | succ depth inner =>
    rw [expressionRule]
    -- Each operator level keeps what the level below gives.
    have levels : ∀ (levels : List OperatorSigns) (operand : Rule Expression), (∀ signs ∈ levels, ArePlain signs) →
        operand.Reads Balanced (Everywhere IsReadable) →
          (levels.foldl (fun operand signs => levelRule signs operand) operand).Reads Balanced (Everywhere IsReadable) := by
      intro levels
      induction levels with
      | nil => exact fun _ _ part => part
      | cons signs rest later =>
        intro operand plain part
        obtain ⟨here, others⟩ := List.forall_mem_cons.mp plain
        exact later _ others (levelRule_reads here part)
    exact levels _ _ arePlain_operatorLevels fun text => unaryRule_reads inner text.length text

end Reader

/-- The text of an expression is its own text between white space, and each of its parts is one of those that are read. -/
theorem Expression.reads_of_parse {source : String} {expression : Expression}
    (accepted : Expression.parse source = .ok expression) :
    ∃ lead read trail, source.toList = lead ++ read ++ trail ∧ (∀ c ∈ lead, isBlank c = true) ∧
      (∀ c ∈ trail, isBlank c = true) ∧ Balanced read ∧ expression.Everywhere IsReadable := by
  simp only [Expression.parse] at accepted
  split at accepted
  · rename_i value rest done
    split at accepted
    · rename_i ended
      cases accepted
      obtain ⟨read, whole, balanced, readable⟩ := expressionRule_reads _ _ _ _ done
      refine ⟨source.toList.takeWhile isBlank, read, rest, ?_, fun c inside => ?_, fun c inside => ?_, balanced, readable⟩
      · rw [List.append_assoc, ← whole]
        exact List.takeWhile_append_dropWhile.symm
      · exact List.mem_takeWhile_imp inside
      · exact List.dropWhile_eq_nil_iff.mp ended c inside
    · cases accepted
  · cases accepted
  · cases accepted

/-- The variables and members of an expression that was read are named by identifiers. -/
theorem Expression.wellNamed_of_parse {source : String} {expression : Expression}
    (reads : Expression.parse source = .ok expression) : expression.WellNamed := by
  obtain ⟨_, _, _, _, _, _, _, readable⟩ := Expression.reads_of_parse reads
  intro node inside
  rcases readable node inside with spelled | ⟨x, rfl, _⟩
  · unfold IsNamed
    split
    · exact spelled.1
    · exact spelled
    · trivial
  · trivial

end Phrasebook
