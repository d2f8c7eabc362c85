import Mathlib.Data.List.Induction
import Phrasebook.Options

/-! Options are what the last line of each key says, and lines that say nothing about a key leave it alone. -/

namespace Phrasebook

/-- A text is cut at a character where that character stands for the first time. -/
theorem cutAt_singleton_iff {c : Char} {text before after : List Char} :
    cutAt [c] text = some (before, after) ↔ text = before ++ c :: after ∧ c ∉ before := by
  induction text generalizing before with
  | nil => simp [cutAt]
  | cons d rest later =>
    have starts : [c].isPrefixOf (d :: rest) = (c == d) := by simp [List.isPrefixOf]
    rw [cutAt, starts]
    by_cases here : c = d
    · subst here
      cases before with
      | nil => simp
      | cons e more => simp +contextual
    · cases before with
      | nil => simp [here, Ne.symm here]
      | cons e more =>
        simp only [beq_false_of_ne here, Bool.false_eq_true, if_false, Option.map_eq_some_iff, Prod.exists]
        grind

namespace Options

/-- The key that stands in front of an equality sign. -/
def keyOf (left : List Char) : String :=
  -- At-signs and the case of letters do not belong to it.
  lowerText (String.ofList (trimChars ((trimChars left).dropWhile (· == '@'))))

/-- Whether a line gives a value to a key. -/
def Gives (line key value : String) : Prop :=
  -- The first equality sign stands between them.
  ∃ left right, line.toList = left ++ '=' :: right ∧ '=' ∉ left ∧ keyOf left = key ∧ String.ofList (trimChars right) = value

/-- Whether a key can have a value; keys that mean nothing can have none. -/
def Allows (key value : String) : Prop :=
  -- Any text can be written in place of null.
  key = "strict" ∧ (value = "true" ∨ value = "false") ∨ key = "replacenull" ∨
    key = "linebreakstyle" ∧ (lowerText value = "markdown" ∨ lowerText value = "default")

instance (key value : String) : Decidable (Allows key value) :=
  inferInstanceAs (Decidable (_ ∨ _ ∨ _))

/-- Whether a key means anything. -/
def IsKnown (key : String) : Prop :=
  -- Keys are told in lower case.
  key ∈ ["strict", "replacenull", "linebreakstyle"]

instance (key : String) : Decidable (IsKnown key) :=
  inferInstanceAs (Decidable (key ∈ _))

/-- Whether a line gives a value to a key, both of which together are good for something. -/
def Says (good : String → String → Prop) (line : String) : Prop :=
  -- A key is not empty.
  ∃ key value, key ≠ "" ∧ Gives line key value ∧ good key value

/-- The value that a line gives to a key, if it gives one. -/
def value? (key line : String) : Option String :=
  -- A line has one key.
  (parseOption line).bind fun option => if option.1 = key then some option.2 else none

/-- The values that lines give to a key, in their order. -/
def valuesOf (key : String) (lines : List String) : List String :=
  -- Other lines are passed over.
  lines.filterMap (value? key)

/-- An option is read from what stands around the first equality sign. -/
theorem parseOption_eq_some_iff {line key value : String} :
    parseOption line = some (key, value) ↔ key ≠ "" ∧ Gives line key value := by
  unfold parseOption Gives
  cases cut : cutAt ['='] line.toList with
  | none =>
    simp only [reduceCtorEq, false_iff, not_and, not_exists]
    rintro _ left right chars first
    rw [cutAt_singleton_iff.mpr ⟨chars, first⟩] at cut
    cases cut
  | some parts =>
    obtain ⟨chars, first⟩ := cutAt_singleton_iff.mp cut
    change (if keyOf parts.1 == "" then none else some (keyOf parts.1, String.ofList (trimChars parts.2))) = _ ↔ _
    rw [Option.ite_none_left_eq_some, beq_iff_eq]
    constructor
    · rintro ⟨named, read⟩
      obtain ⟨rfl, rfl⟩ := Prod.mk.inj (Option.some.inj read)
      exact ⟨named, parts.1, parts.2, chars, first, rfl, rfl⟩
    · rintro ⟨named, left, right, again, before, rfl, rfl⟩
      obtain rfl := Option.some.inj (cut.symm.trans (cutAt_singleton_iff.mpr ⟨again, before⟩))
      exact ⟨named, rfl⟩

/-- The value of a key is the one that is read together with it. -/
theorem value?_eq_some_iff {line key value : String} :
    value? key line = some value ↔ parseOption line = some (key, value) := by
  rw [value?, Option.bind_eq_some_iff]
  constructor
  · rintro ⟨⟨other, given⟩, read, same⟩
    obtain ⟨(rfl : other = key), valued⟩ := Option.ite_none_right_eq_some.mp same
    obtain rfl := Option.some.inj valued
    exact read
  · intro read
    exact ⟨(key, value), read, if_pos rfl⟩

section Says

variable {good : String → String → Prop}

/-- A line says what is read from it. -/
theorem says_iff {line : String} : Says good line ↔ ∃ option ∈ parseOption line, good option.1 option.2 := by
  constructor
  · rintro ⟨key, value, named, gives, fine⟩
    exact ⟨(key, value), parseOption_eq_some_iff.mpr ⟨named, gives⟩, fine⟩
  · rintro ⟨⟨key, value⟩, read, fine⟩
    obtain ⟨named, gives⟩ := parseOption_eq_some_iff.mp read
    exact ⟨key, value, named, gives, fine⟩

/-- A line that gives a value to a key says nothing else. -/
theorem says_of_value? {line key value : String} (given : value? key line = some value) : Says good line ↔ good key value := by
  rw [says_iff, value?_eq_some_iff.mp given]
  simp

variable [∀ key value, Decidable (good key value)]

instance : DecidablePred (Says good) := fun _ => decidable_of_iff' _ says_iff

/-- The lines that are good for something keep the values that are. -/
theorem valuesOf_filter (key : String) (lines : List String) :
    valuesOf key (lines.filter (Says good ·)) = (valuesOf key lines).filter (good key ·) := by
  rw [valuesOf, valuesOf, List.filterMap_filter, List.filter_filterMap]
  congr 1
  funext line
  cases given : value? key line with
  | none => simp
  | some value => simp [says_of_value? given, Option.filter_some]

end Says

/-- The options after one more line: the line decides about its own key. -/
theorem withLine_eq (options : Options) (line : String) :
    options.withLine line =
      ⟨((value? "strict" line).map truthOf?).getD options.strict, (value? "replacenull" line).or options.placeholder,
        ((value? "linebreakstyle" line).map lineBreaksOf?).getD options.lineBreaks⟩ := by
  have read (key : String) : value? key line = (parseOption line).bind fun option =>
      if option.1 = key then some option.2 else none := rfl
  unfold withLine
  simp only [read]
  cases parseOption line with
  | none => rfl
  | some option =>
    obtain ⟨key, value⟩ := option
    dsimp only [Option.bind_some]
    by_cases strict : key = "strict"
    · subst strict
      rfl
    · by_cases placeholder : key = "replacenull"
      · subst placeholder
        rfl
      · by_cases breaks : key = "linebreakstyle"
        · subst breaks
          rfl
        · simp [strict, placeholder, breaks]

/-- The values of one line more come last. -/
theorem valuesOf_concat (key : String) (lines : List String) (line : String) :
    valuesOf key (lines ++ [line]) = valuesOf key lines ++ (value? key line).toList := by
  cases given : value? key line <;> simp [valuesOf, given]

/-- Every option is what the last line of its key says. -/
theorem ofLines_eq (lines : List String) :
    ofLines lines =
      ⟨(valuesOf "strict" lines).getLast?.bind truthOf?, (valuesOf "replacenull" lines).getLast?,
        (valuesOf "linebreakstyle" lines).getLast?.bind lineBreaksOf?⟩ := by
  induction lines using List.reverseRecOn with
  | nil => rfl
  | append_singleton lines line before =>
    have after : ofLines (lines ++ [line]) = (ofLines lines).withLine line := List.foldl_append
    rw [after, before, withLine_eq, valuesOf_concat, valuesOf_concat, valuesOf_concat]
    cases value? "strict" line <;> cases value? "replacenull" line <;> cases value? "linebreakstyle" line <;> simp

/-- Whether the last line of a key takes back what an earlier line has set, by a value that the key cannot have. -/
def IsUndone (key : String) (lines : List String) : Prop :=
  ∃ last, (valuesOf key lines).getLast? = some last ∧ ¬Allows key last ∧ ∃ value ∈ valuesOf key lines, Allows key value

/-- What can be read is read last unless there is nothing of the kind. -/
theorem getLast?_bind_eq_none_iff {α β : Type} {read : α → Option β} {xs : List α}
    (reads : ∀ x ∈ xs, (read x).isSome = true) : xs.getLast?.bind read = none ↔ xs = [] := by
  rcases List.eq_nil_or_concat xs with rfl | ⟨front, last, rfl⟩
  · simp
  · have found := reads last (by simp)
    rw [List.concat_eq_append, List.getLast?_concat, Option.bind_some]
    simp [Option.isSome_iff_ne_none.mp found]

/-- Leaving out what cannot be read changes what is read last just if that stands last, behind something that can. -/
theorem getLast?_filter_bind {α β : Type} {good : α → Prop} [DecidablePred good] {read : α → Option β}
    (reads : ∀ x, (read x).isSome = true ↔ good x) (xs : List α) :
    (xs.filter (good ·)).getLast?.bind read = xs.getLast?.bind read ↔
      ¬∃ last, xs.getLast? = some last ∧ ¬good last ∧ ∃ x ∈ xs, good x := by
  rcases List.eq_nil_or_concat xs with rfl | ⟨front, last, rfl⟩
  · simp
  · by_cases proper : good last
    · simp [proper]
    · have unread : read last = none := by simpa [← reads] using proper
      have kept : (front ++ [last]).filter (good ·) = front.filter (good ·) := by simp [proper]
      have readable : ∀ x ∈ front.filter (good ·), (read x).isSome = true := fun x inside =>
        (reads x).mpr (by simpa using (List.mem_filter.mp inside).2)
      rw [List.concat_eq_append, kept, List.getLast?_concat, Option.bind_some, unread, getLast?_bind_eq_none_iff readable]
      simp [proper]

/-- A truth value is read from two words only. -/
theorem truthOf?_isSome_iff (value : String) : (truthOf? value).isSome = true ↔ Allows "strict" value := by
  rw [truthOf?]
  split <;> simp_all [Allows]

/-- A way of writing line breaks is read from two words only. -/
theorem lineBreaksOf?_isSome_iff (value : String) :
    (lineBreaksOf? value).isSome = true ↔ Allows "linebreakstyle" value := by
  rw [lineBreaksOf?]
  split <;> simp_all [Allows]

/-- Only the keys that are told by a few words can be undone. -/
theorem forall_not_isUndone_iff {lines : List String} :
    (∀ key, ¬IsUndone key lines) ↔ ¬IsUndone "strict" lines ∧ ¬IsUndone "linebreakstyle" lines := by
  constructor
  · intro none
    exact ⟨none _, none _⟩
  · rintro ⟨strict, breaks⟩ key undone
    have ⟨_, _, wrong, _, _, allows⟩ := undone
    rcases allows with ⟨rfl, _⟩ | rfl | ⟨rfl, _⟩
    · exact strict undone
    · exact wrong (.inr (.inl rfl))
    · exact breaks undone

/--
Lines that say nothing do not matter, unless they take back what an earlier line of their key has said.

Lines without an equality sign, without a key or with an unknown key can be left out.
So can those with a value that their key cannot have, just if no such value is the last one of its key, behind one that
the key can have.
On the lines that are left, each key has the values that it can have, and the last one counts.
-/
theorem ofLines_filter (lines : List String) :
    ofLines (lines.filter (Says (fun key _ => IsKnown key) ·)) = ofLines lines ∧
      (ofLines (lines.filter (Says Allows ·)) = ofLines lines ↔ ∀ key, ¬IsUndone key lines) ∧
      (∀ key, valuesOf key (lines.filter (Says Allows ·)) = (valuesOf key lines).filter (Allows key ·)) ∧
      ofLines (lines.filter (Says Allows ·)) =
        ⟨(valuesOf "strict" (lines.filter (Says Allows ·))).getLast?.bind truthOf?,
          (valuesOf "replacenull" (lines.filter (Says Allows ·))).getLast?,
          (valuesOf "linebreakstyle" (lines.filter (Says Allows ·))).getLast?.bind lineBreaksOf?⟩ := by
  refine ⟨?_, ?_, fun key => valuesOf_filter key lines, ofLines_eq _⟩
  · have kept : ∀ key, IsKnown key → valuesOf key (lines.filter (Says (fun key _ => IsKnown key) ·)) = valuesOf key lines := by
      intro key known
      rw [valuesOf_filter]
      simp [known]
    rw [ofLines_eq, ofLines_eq, kept _ (by decide), kept _ (by decide), kept _ (by decide)]
  · have placeholder : (valuesOf "replacenull" lines).filter (Allows "replacenull" ·) = valuesOf "replacenull" lines := by
      simp [Allows]
    rw [forall_not_isUndone_iff, ofLines_eq, ofLines_eq, Options.mk.injEq, valuesOf_filter, valuesOf_filter, valuesOf_filter,
      placeholder, getLast?_filter_bind truthOf?_isSome_iff, getLast?_filter_bind lineBreaksOf?_isSome_iff]
    simp [IsUndone]

/-- A value that a key cannot have takes back what the line in front of it has said. -/
theorem strict_isUndone :
    ofLines ["@strict = true", "@strict = maybe"] ≠
      ofLines (["@strict = true", "@strict = maybe"].filter (Says Allows ·)) := by
  decide +kernel

end Options

end Phrasebook
