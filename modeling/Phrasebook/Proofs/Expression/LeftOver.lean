import Phrasebook.Proofs.Expression.Curtailed

/-! What is left over behind an expression, and why no longer part of the text is an expression. -/

namespace Phrasebook

open Rule

/-- An expression ends in one without operators, behind which neither a member nor an index follows. -/
theorem expressionRule_again {depth : Nat} {text rest : List Char} {value : Expression}
    (done : expressionRule (depth + 1) text = .done value rest) :
    ∃ (read : List Char) (target : Expression) (next : Expression → Rule Expression),
      text = read ++ rest ∧ (∃ left, accessRule (expressionRule depth) target rest = .refused left) ∧
        (∀ rest', Curtailed rest rest' → next target rest' = .done value rest') ∧ ∀ rest', Curtailed rest rest' →
          expressionRule (depth + 1) (read ++ rest') = (do
            let longer ← fun text => moreAccesses (expressionRule depth) text.length target text
            next longer : Rule Expression) rest' := by
  have inner := expressionRule_rereads depth
  obtain ⟨front, part, target, next, rfl, ends, stops, again⟩ := looseRule_endsIn inner 7 _ _ _ done
  obtain ⟨missed, read, rfl, again'⟩ := chainRule_again inner ends
  refine ⟨front ++ read, target, next, (List.append_assoc _ _ _).symm, missed, stops, fun rest' cut => ?_⟩
  rw [List.append_assoc]
  exact (again _ (cut.append read)).trans (bind_congr_at (again' rest' cut) next)

/-- If the text behind an expression is cut off, the same expression is read or none at all. -/
theorem expressionRule_front {depth : Nat} {read kept dropped rest : List Char} {value other : Expression}
    (done : expressionRule depth (read ++ (kept ++ dropped)) = .done value (kept ++ dropped))
    (done' : expressionRule depth (read ++ kept) = .done other rest) : other = value ∧ rest = kept := by
  cases depth with
  | zero => cases done
  | succ depth =>
    obtain ⟨read', target, next, same, ⟨left, missed⟩, stops, again⟩ := expressionRule_again done
    obtain rfl := List.append_cancel_right same
    have cut : Curtailed (kept ++ dropped) kept := .front kept dropped
    rw [again kept cut] at done'
    obtain ⟨longer, middle, accesses, later⟩ := done_of_bind done'
    cases access : accessRule (expressionRule depth) target kept with
    | refused left =>
      rw [moreAccesses_of_refused access] at accesses
      cases accesses
      rw [stops kept cut] at later
      cases later
      exact ⟨rfl, rfl⟩
    | done longer behind => exact absurd missed (accessRule_not_refused (expressionRule_rereads depth) access dropped left)
    | failed left =>
      cases kept with
      | nil => cases access
      | cons c kept =>
        have failed : Rule.optional (accessRule (expressionRule depth) target) (c :: kept) = .failed left := by
          rw [Rule.optional, access]
        obtain ⟨_, _, here, -⟩ := done_of_bind accesses
        rw [failed] at here
        cases here

/-- The wording tells which character is left over. -/
theorem ReadFault.eq_leftOver {fault : ReadFault} {c : Char}
    (message : fault.message = "unexpected character: '" ++ String.singleton c ++ "'") : fault = .leftOver c := by
  have start : fault.message.toList.head? = some 'u' := by
    rw [message, String.toList_append, String.toList_append]
    rfl
  cases fault with
  | empty => exact absurd start (by decide)
  | refused => exact absurd start (by decide)
  | numberTooLarge => exact absurd start (by decide)
  | leftOver d =>
    have whole : (ReadFault.leftOver d).message = "unexpected character: '" ++ String.singleton d ++ "'" := rfl
    rw [whole] at message
    have chars := congrArg String.toList message
    rw [String.toList_append, String.toList_append, String.toList_append, String.toList_append] at chars
    have same := List.append_cancel_left (List.append_cancel_right chars)
    rw [String.toList_singleton, String.toList_singleton] at same
    rw [(List.cons.inj same).1]

namespace Expression

/-- Whether a text spells an expression does not depend on the bound on its depth, and white space in front is skipped. -/
theorem parse_behind {lead text : List Char} {depth : Nat} (skips : trimFront (lead ++ text) = text)
    (deep : (lead ++ text).length + 1 ≤ depth) {expression : Expression} :
    Expression.parse (String.ofList (lead ++ text)) = .ok expression ↔
      ∃ rest, expressionRule depth text = .done expression rest ∧ ∀ c ∈ rest, isBlank c = true := by
  have within : text.length < (lead ++ text).length + 1 := by
    rw [List.length_append]
    omega
  rw [parse_eq_ok_iff, String.toList_ofList, skips]
  exact (expressionRule_mirrors (Nat.le_refl _) deep _ _ (.refl text) within).done_iff expression

/-- Whether a text is white space, an expression that is read, white space, and something that is left over. -/
structure LeavesOver (source : String) (lead read gap : List Char) (c : Char) (after : List Char) (expression : Expression) :
    Prop where
  /-- The parts make up the text. -/
  chars : source.toList = lead ++ (read ++ (gap ++ c :: after))
  /-- The white space in front is skipped. -/
  skips : ∀ more, trimFront (lead ++ (read ++ more)) = read ++ more
  /-- Something is read. -/
  some : read ≠ []
  /-- Between the expression and what is left over there is only white space. -/
  blank : ∀ d ∈ gap, isBlank d = true
  /-- What is left over starts with a character that is none. -/
  dark : isBlank c = false
  /-- The expression is read up to the white space behind it. -/
  done : expressionRule (source.toList.length + 1) (read ++ (gap ++ c :: after)) = .done expression (gap ++ c :: after)

/-- An error tells where something is left over. -/
theorem exists_leavesOver {source : String} {column : Nat} {c : Char}
    (rejected : Expression.parse source = .error (.malformed column (.leftOver c))) :
    ∃ lead read gap after expression, LeavesOver source lead read gap c after expression ∧
      column = (lead ++ (read ++ gap)).length + 1 := by
  obtain ⟨expression, rest, after, done, left, rfl⟩ : ∃ expression rest after,
      expressionRule (source.toList.length + 1) (trimFront source.toList) = .done expression rest ∧
        trimFront rest = c :: after ∧ column = columnOf source.toList (c :: after) := by
    unfold Expression.parse at rejected
    dsimp only at rejected
    split at rejected
    · rename_i expression rest done
      split at rejected
      · cases rejected
      · rename_i d after left
        cases rejected
        exact ⟨expression, rest, after, done, left, rfl⟩
    · split at rejected <;> cases rejected
    · cases rejected
  obtain ⟨read, start, again⟩ := expressionRule_rereads _ _ _ _ done
  have behind : rest = rest.takeWhile isBlank ++ c :: after := by
    rw [← left]
    exact List.takeWhile_append_dropWhile.symm
  have chars : source.toList = source.toList.takeWhile isBlank ++ (read ++ (rest.takeWhile isBlank ++ c :: after)) := by
    rw [← behind, ← start]
    exact List.takeWhile_append_dropWhile.symm
  have blank (text : List Char) : ∀ d ∈ text.takeWhile isBlank, isBlank d = true :=
    fun d inside => List.mem_takeWhile_imp inside
  -- What was read is not empty, so it starts with what is no white space.
  have some : read ≠ [] := by
    rintro rfl
    obtain ⟨left, refused⟩ := expressionRule_nil (source.toList.length + 1)
    have alone := again [] .nothing stopsChain_nil
    rw [List.append_nil, refused] at alone
    cases alone
  have skips (more : List Char) : trimFront (source.toList.takeWhile isBlank ++ (read ++ more)) = read ++ more := by
    obtain ⟨d, read, rfl⟩ := List.exists_cons_of_ne_nil some
    have dark : isBlank d = false := not_of_dropWhile d (read ++ rest) start
    rw [trimFront, List.dropWhile_append_of_pos (blank _), List.cons_append, List.dropWhile_cons_of_neg (by simp [dark])]
  have place : columnOf source.toList (c :: after) =
      (source.toList.takeWhile isBlank ++ (read ++ rest.takeWhile isBlank)).length + 1 := by
    have size := congrArg List.length chars
    simp only [List.length_append, List.length_cons] at size
    simp only [columnOf, List.length_append, List.length_cons]
    omega
  refine ⟨_, read, rest.takeWhile isBlank, after, expression, ⟨chars, skips, some, blank rest, ?_, ?_⟩, place⟩
  · exact not_of_dropWhile c after left
  · rw [← behind, ← start]
    exact done

namespace LeavesOver

variable {source : String} {lead read gap after : List Char} {c : Char} {expression : Expression}
  (left : LeavesOver source lead read gap c after expression)

include left

/-- The text is cut in two where something is left over. -/
theorem whole : source.toList = (lead ++ (read ++ gap)) ++ c :: after := by
  rw [left.chars]
  simp

/-- Whether some more of the text spells an expression is told by what is read behind the white space in front. -/
theorem parse_take (kept : Nat) (other : Expression) :
    Expression.parse (String.ofList (source.toList.take ((lead ++ (read ++ gap)).length + kept))) = .ok other ↔
      ∃ rest, expressionRule (source.toList.length + 1) (read ++ (gap ++ (c :: after).take kept)) = .done other rest ∧
        ∀ d ∈ rest, isBlank d = true := by
  have front : source.toList.take ((lead ++ (read ++ gap)).length + kept) =
      lead ++ (read ++ (gap ++ (c :: after).take kept)) := by
    rw [left.whole, List.take_length_add_append]
    simp
  have deep := Nat.succ_le_succ (List.length_take_le' ((lead ++ (read ++ gap)).length + kept) source.toList)
  rw [front] at deep ⊢
  exact parse_behind (left.skips _) deep

/-- The text in front of what is left over spells the expression. -/
theorem accepted : Expression.parse (String.ofList (source.toList.take (lead ++ (read ++ gap)).length)) = .ok expression := by
  -- Only white space is left behind what is read again.
  have stops : StopsChain gap := by
    rintro more rfl
    exact absurd (left.blank '[' List.mem_cons_self) (by decide)
  obtain ⟨read', same, again⟩ := expressionRule_rereads _ _ _ _ left.done
  obtain rfl := List.append_cancel_right same
  refine (left.parse_take 0 expression).mpr ⟨gap, ?_, left.blank⟩
  rw [List.take_zero, List.append_nil]
  exact again gap (.front gap _) stops

/-- No longer part of the text in front spells an expression. -/
theorem longest {size : Nat} (beyond : (lead ++ (read ++ gap)).length + 1 ≤ size) (other : Expression) :
    Expression.parse (String.ofList (source.toList.take size)) ≠ .ok other := by
  -- If more was kept of the text, the same character would be left over again.
  intro accepted
  obtain ⟨kept, rfl⟩ := Nat.exists_eq_add_of_le beyond
  rw [Nat.add_assoc, left.parse_take] at accepted
  obtain ⟨rest, done', blank⟩ := accepted
  rw [Nat.add_comm 1 kept, List.take_succ_cons] at done'
  have done := left.done
  have cut : gap ++ c :: after = (gap ++ c :: after.take kept) ++ after.drop kept := by simp
  rw [cut] at done
  obtain ⟨-, rfl⟩ := expressionRule_front done done'
  have here := blank c (List.mem_append_right _ List.mem_cons_self)
  rw [left.dark] at here
  cases here

end LeavesOver

/-- If an expression ends before its text does, the text in front of what is left over is its longest part that spells one. -/
theorem parse_leftOver {source : String} {column : Nat} {fault : ReadFault} {c : Char}
    (rejected : Expression.parse source = .error (.malformed column fault))
    (message : fault.message = "unexpected character: '" ++ String.singleton c ++ "'") :
    1 < column ∧ column ≤ source.toList.length ∧ source.toList[column - 1]? = some c ∧
      (∃ expression rest,
        expressionRule (source.toList.length + 1) (trimFront source.toList) = .done expression rest ∧
          trimFront rest = source.toList.drop (column - 1) ∧
            Expression.parse (String.ofList (source.toList.take (column - 1))) = .ok expression) ∧
        ∀ size, column ≤ size → ∀ other, Expression.parse (String.ofList (source.toList.take size)) ≠ .ok other := by
  obtain rfl := ReadFault.eq_leftOver message
  obtain ⟨lead, read, gap, after, expression, left, rfl⟩ := exists_leavesOver rejected
  have size := congrArg List.length left.whole
  have large := List.length_pos_iff.mpr left.some
  rw [Nat.add_sub_cancel]
  refine ⟨?_, ?_, ?_, ⟨expression, gap ++ c :: after, ?_, ?_, left.accepted⟩, fun size beyond => left.longest beyond⟩
  · simp only [List.length_append]
    omega
  · rw [List.length_append, List.length_cons] at size
    omega
  · rw [left.whole, List.getElem?_append_right (Nat.le_refl _), Nat.sub_self]
    rfl
  · rw [left.chars, left.skips, ← left.chars]
    exact left.done
  · rw [left.whole, List.drop_left, trimFront, List.dropWhile_append_of_pos left.blank,
      List.dropWhile_cons_of_neg (by simp [left.dark])]

/-- An index that is not closed is left over, and the list in front of it is the longest expression. -/
theorem list_leftOver :
    Expression.parse "[7, 8][0 = 1]" = .error (.malformed 7 (.leftOver '[')) ∧
      "[7, 8][0 = 1]".toList[6]? = some '[' ∧ (∃ expression, Expression.parse "[7, 8]" = .ok expression) ∧
        ∀ expression, Expression.parse "[7, 8][0" ≠ .ok expression := by
  have rejected : Expression.parse "[7, 8][0 = 1]" = .error (.malformed 7 (.leftOver '[')) := rfl
  obtain ⟨-, -, character, ⟨expression, -, -, -, accepted⟩, longest⟩ := parse_leftOver rejected rfl
  have front : String.ofList ("[7, 8][0 = 1]".toList.take (7 - 1)) = "[7, 8]" := by decide
  have longer : String.ofList ("[7, 8][0 = 1]".toList.take 8) = "[7, 8][0" := by decide
  rw [front] at accepted
  have none := longest 8 (by decide)
  rw [longer] at none
  exact ⟨rejected, character, ⟨expression, accepted⟩, none⟩

end Expression

end Phrasebook
