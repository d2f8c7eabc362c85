import Phrasebook.Proofs.Reading.Parts

/-! White space at the end of a text does not change what rules read. -/

namespace Phrasebook

/-- The code points of white space. -/
def blankPoints : List Nat :=
  -- There are twenty-five of them.
  [0x09, 0x0A, 0x0B, 0x0C, 0x0D, 0x20, 0x85, 0xA0, 0x1680, 0x2000, 0x2001, 0x2002, 0x2003, 0x2004, 0x2005, 0x2006,
    0x2007, 0x2008, 0x2009, 0x200A, 0x2028, 0x2029, 0x202F, 0x205F, 0x3000]

/-- No white space is of a kind that none of its code points is of. -/
theorem not_of_isBlank (kind : Char → Bool) (none : ∀ point ∈ blankPoints, kind (Char.ofNat point) = false) (c : Char)
    (blank : isBlank c = true) : kind c = false := by
  have listed : c.toNat ∈ blankPoints := by
    simp only [isBlank, Bool.or_eq_true, Bool.and_eq_true, decide_eq_true_eq, beq_iff_eq] at blank
    simp only [blankPoints, List.mem_cons, List.not_mem_nil, or_false]
    omega
  have here := none c.toNat listed
  rwa [Char.ofNat_toNat] at here

/-- A text that ends with more white space than another one that is otherwise the same. -/
inductive Trailing : List Char → List Char → Prop where
  /-- White space is more than nothing. -/
  | gap {text : List Char} (blank : ∀ c ∈ text, isBlank c = true) : Trailing text []
  /-- In front of the white space the texts are the same. -/
  | cons (c : Char) {longer shorter : List Char} (trail : Trailing longer shorter) : Trailing (c :: longer) (c :: shorter)

namespace Trailing

/-- White space can be put behind every text. -/
theorem append (text : List Char) {gap : List Char} (blank : ∀ c ∈ gap, isBlank c = true) : Trailing (text ++ gap) text := by
  induction text with
  | nil => exact .gap blank
  | cons c text trail => exact .cons c trail

/-- No white space at all will do. -/
theorem refl (text : List Char) : Trailing text text := by
  have trail := append text (List.forall_mem_nil _)
  rwa [List.append_nil] at trail

variable {longer shorter : List Char}

/-- The text with less white space is not longer. -/
theorem length_le (trail : Trailing longer shorter) : shorter.length ≤ longer.length := by
  induction trail with
  | gap => exact Nat.zero_le _
  | cons c trail less => exact Nat.succ_le_succ less

/-- If the shorter text is blank, the longer one is. -/
theorem blank (trail : Trailing longer shorter) (blank : ∀ c ∈ shorter, isBlank c = true) :
    ∀ c ∈ longer, isBlank c = true := by
  induction trail with
  | gap all => exact all
  | cons c trail later =>
    obtain ⟨here, others⟩ := List.forall_mem_cons.mp blank
    exact List.forall_mem_cons.mpr ⟨here, later others⟩

/-- If the longer text is blank, the shorter one is. -/
theorem blank_of_longer (trail : Trailing longer shorter) (blank : ∀ c ∈ longer, isBlank c = true) :
    ∀ c ∈ shorter, isBlank c = true := by
  induction trail with
  | gap => exact List.forall_mem_nil _
  | cons c trail later =>
    obtain ⟨here, others⟩ := List.forall_mem_cons.mp blank
    exact List.forall_mem_cons.mpr ⟨here, later others⟩

/-- Without white space in front the texts still differ in white space at the end only. -/
theorem trimFront (trail : Trailing longer shorter) : Trailing (trimFront longer) (trimFront shorter) := by
  induction trail with
  | gap blank =>
    have none : Phrasebook.trimFront _ = [] := List.dropWhile_eq_nil_iff.mpr blank
    rw [none]
    exact refl []
  | cons c trail later =>
    unfold Phrasebook.trimFront at later ⊢
    by_cases here : isBlank c = true
    · rwa [List.dropWhile_cons_of_pos here, List.dropWhile_cons_of_pos here]
    · rw [List.dropWhile_cons_of_neg here, List.dropWhile_cons_of_neg here]
      exact .cons c trail

/-- Characters of a kind without white space are the same in front, and the texts behind them differ in the end only. -/
theorem span {kind : Char → Bool} (dark : ∀ c, isBlank c = true → kind c = false) (trail : Trailing longer shorter) :
    longer.takeWhile kind = shorter.takeWhile kind ∧ Trailing (longer.dropWhile kind) (shorter.dropWhile kind) := by
  induction trail with
  | @gap text blank =>
    cases text with
    | nil => exact ⟨rfl, refl []⟩
    | cons c text =>
      have outside : ¬ kind c = true := by simp [dark c (blank c List.mem_cons_self)]
      rw [List.takeWhile_cons_of_neg outside, List.dropWhile_cons_of_neg outside]
      exact ⟨rfl, .gap blank⟩
  | cons c trail later =>
    by_cases here : kind c = true
    · rw [List.takeWhile_cons_of_pos here, List.takeWhile_cons_of_pos here, List.dropWhile_cons_of_pos here,
        List.dropWhile_cons_of_pos here, later.1]
      exact ⟨rfl, later.2⟩
    · rw [List.takeWhile_cons_of_neg here, List.takeWhile_cons_of_neg here, List.dropWhile_cons_of_neg here,
        List.dropWhile_cons_of_neg here]
      exact ⟨rfl, .cons c trail⟩

/-- A beginning without white space is that of both texts or of neither, and the texts behind it differ in the end only. -/
theorem starts {expected : List Char} (dark : ∀ c ∈ expected, isBlank c = false) (trail : Trailing longer shorter) :
    expected.isPrefixOf longer = expected.isPrefixOf shorter ∧
      (expected.isPrefixOf shorter = true → Trailing (longer.drop expected.length) (shorter.drop expected.length)) := by
  induction expected generalizing longer shorter with
  | nil => exact ⟨rfl, fun _ => trail⟩
  | cons e expected later =>
    obtain ⟨here, others⟩ := List.forall_mem_cons.mp dark
    cases trail with
    | @gap _ blank =>
      cases longer with
      | nil => exact ⟨rfl, nofun⟩
      | cons c text =>
        have differ : (e == c) = false := by
          refine beq_false_of_ne fun same => ?_
          rw [same, blank c List.mem_cons_self] at here
          cases here
        refine ⟨?_, nofun⟩
        rw [List.isPrefixOf_cons_cons, differ]
        rfl
    | cons c trail =>
      obtain ⟨same, behind⟩ := later others trail
      rw [List.isPrefixOf, List.isPrefixOf, same]
      exact ⟨rfl, fun starts => behind (Bool.and_eq_true_iff.mp starts).2⟩

end Trailing

/-- Outcomes of the same kind, with the same value and texts left over that differ in white space at the end only. -/
inductive Outcome.Mirrors {α : Type} (limit : Nat) : Outcome α → Outcome α → Prop where
  /-- Both are done, and nothing has been put back. -/
  | done {value : α} {rest₁ rest₂ : List Char} (trail : Trailing rest₁ rest₂) (short : rest₁.length ≤ limit) :
    Mirrors limit (.done value rest₁) (.done value rest₂)
  /-- Both are refused. -/
  | refused {rest₁ rest₂ : List Char} : Mirrors limit (.refused rest₁) (.refused rest₂)
  /-- Both have failed. -/
  | failed {rest₁ rest₂ : List Char} : Mirrors limit (.failed rest₁) (.failed rest₂)

/-- One outcome is a value before white space exactly if the other is. -/
theorem Outcome.Mirrors.done_iff {α : Type} {limit : Nat} {first second : Outcome α} (mirrors : first.Mirrors limit second)
    (value : α) :
    (∃ rest, first = .done value rest ∧ ∀ c ∈ rest, isBlank c = true) ↔
      ∃ rest, second = .done value rest ∧ ∀ c ∈ rest, isBlank c = true := by
  cases mirrors with
  | done trail short =>
    constructor
    · rintro ⟨rest, same, blank⟩
      cases same
      exact ⟨_, rfl, trail.blank_of_longer blank⟩
    · rintro ⟨rest, same, blank⟩
      cases same
      exact ⟨_, rfl, trail.blank blank⟩
  | refused => simp
  | failed => simp

/-- More may be left over. -/
theorem Outcome.Mirrors.of_le {α : Type} {limit limit' : Nat} {first second : Outcome α} (mirrors : first.Mirrors limit second)
    (wider : limit ≤ limit') : first.Mirrors limit' second := by
  cases mirrors with
  | done trail short => exact .done trail (short.trans wider)
  | refused => exact .refused
  | failed => exact .failed

namespace Rule

variable {α β : Type} {bound : Nat}

/-- Two rules read the same from texts shorter than a bound that differ in white space at the end only. -/
def Mirrors (bound : Nat) (first second : Rule α) : Prop :=
  -- The bound is on the longer text.
  ∀ text₁ text₂, Trailing text₁ text₂ → text₁.length < bound → (first text₁).Mirrors text₁.length (second text₂)

/-- A rule that reads nothing does not care for what follows. -/
theorem mirrors_pure (value : α) : (pure value : Rule α).Mirrors bound (pure value) :=
  fun _ _ trail _ => .done trail (Nat.le_refl _)

/-- Two rules in a row read the same if each of them does. -/
theorem mirrors_bind {first₁ first₂ : Rule α} {next₁ next₂ : α → Rule β} (first : first₁.Mirrors bound first₂)
    (next : ∀ value, (next₁ value).Mirrors bound (next₂ value)) : (first₁ >>= next₁).Mirrors bound (first₂ >>= next₂) := by
  intro text₁ text₂ trail within
  change (andThen first₁ next₁ text₁).Mirrors _ (andThen first₂ next₂ text₂)
  unfold andThen
  have here := first text₁ text₂ trail within
  generalize first₁ text₁ = outcome₁, first₂ text₂ = outcome₂ at here
  cases here with
  | done trail' short => exact (next _ _ _ trail' (by omega)).of_le short
  | refused => exact .refused
  | failed => exact .failed

/-- One rule or another reads the same if both do. -/
theorem mirrors_orElse {first₁ first₂ second₁ second₂ : Rule α} (first : first₁.Mirrors bound first₂)
    (second : second₁.Mirrors bound second₂) : (first₁.orElse second₁).Mirrors bound (first₂.orElse second₂) := by
  intro text₁ text₂ trail within
  unfold orElse
  have here := first text₁ text₂ trail within
  generalize first₁ text₁ = outcome₁, first₂ text₂ = outcome₂ at here
  cases here with
  | done trail' short => exact .done trail' short
  | refused => exact second text₁ text₂ trail within
  | failed => exact .failed

/-- A part that may be absent is there in both texts or in neither. -/
theorem mirrors_optional {rule₁ rule₂ : Rule α} (rule : rule₁.Mirrors bound rule₂) :
    rule₁.optional.Mirrors bound rule₂.optional := by
  intro text₁ text₂ trail within
  unfold optional
  have here := rule text₁ text₂ trail within
  generalize rule₁ text₁ = outcome₁, rule₂ text₂ = outcome₂ at here
  cases here with
  | done trail' short => exact .done trail' short
  | refused => exact .done trail (Nat.le_refl _)
  | failed => exact .failed

/-- Given characters that are not white space stand in front of both texts or of neither. -/
theorem mirrors_exactly {expected : List Char} (dark : ∀ c ∈ expected, isBlank c = false) :
    (exactly expected).Mirrors bound (exactly expected) := by
  intro text₁ text₂ trail _
  obtain ⟨same, behind⟩ := trail.starts dark
  unfold exactly
  rw [same]
  by_cases starts : expected.isPrefixOf text₂ = true
  · rw [if_pos starts, if_pos starts]
    exact .done (behind starts) (by simp)
  · rw [if_neg starts, if_neg starts]
    exact .refused

/-- White space is skipped in both texts. -/
theorem mirrors_blanks : blanks.Mirrors bound blanks :=
  fun _ _ trail _ => .done trail.trimFront (List.dropWhile_sublist _).length_le

/-- A separator between white space stands in front of both texts or of neither. -/
theorem mirrors_between {separator : List Char} (dark : ∀ c ∈ separator, isBlank c = false) :
    (between separator).Mirrors bound (between separator) :=
  mirrors_bind mirrors_blanks fun _ => mirrors_bind (mirrors_exactly dark) fun _ => mirrors_blanks

/-- As many further elements are read from both texts. -/
theorem mirrors_moreElements {separator : Rule Unit} {element₁ element₂ : Rule α} (between : separator.Mirrors bound separator)
    (element : element₁.Mirrors bound element₂) (turns : Nat) :
    (moreElements separator element₁ turns).Mirrors bound (moreElements separator element₂ turns) := by
  induction turns with
  | zero => exact mirrors_pure []
  | succ turns more =>
    rw [moreElements_succ, moreElements_succ]
    refine mirrors_bind (mirrors_optional (mirrors_bind between fun _ => element)) fun next => ?_
    cases next with
    | none => exact mirrors_pure []
    | some value => exact mirrors_bind more fun values => mirrors_pure (value :: values)

/-- As many elements are read from both texts, if each of them takes characters off the text. -/
theorem mirrors_elements {separator : Rule Unit} {element₁ element₂ : Rule α} (between : separator.Mirrors bound separator)
    (element : element₁.Mirrors bound element₂)
    (shrinks : ∀ text value rest, (do separator; element₂ : Rule α) text = .done value rest → rest.length < text.length)
    (ends : ∃ rest, separator [] = .refused rest) :
    (elements separator element₁).Mirrors bound (elements separator element₂) := by
  rw [elements_eq, elements_eq]
  refine mirrors_bind (mirrors_optional element) fun first => ?_
  cases first with
  | none => exact mirrors_pure []
  | some value =>
    refine mirrors_bind ?_ fun values => mirrors_pure (value :: values)
    intro text₁ text₂ trail within
    dsimp only
    rw [moreElements_eq shrinks ends (Nat.le_refl _) trail.length_le]
    exact mirrors_moreElements between element text₁.length text₁ text₂ trail within

/-- As many steps are taken on both texts. -/
theorem mirrors_steps {step₁ step₂ : α → Rule (Option α)} (step : ∀ value, (step₁ value).Mirrors bound (step₂ value))
    (turns : Nat) (value : α) : (steps step₁ turns value).Mirrors bound (steps step₂ turns value) := by
  induction turns generalizing value with
  | zero => exact mirrors_pure value
  | succ turns more =>
    rw [steps, steps]
    refine mirrors_bind (step value) fun longer => ?_
    cases longer with
    | none => exact mirrors_pure value
    | some next => exact more next

/-- A part between signs is shorter than the whole. -/
theorem mirrors_enclosed {opening closing : Char} (dark : isBlank opening = false ∧ isBlank closing = false)
    {content₁ content₂ : Rule α} (content : content₁.Mirrors bound content₂) :
    (enclosed opening closing content₁).Mirrors (bound + 1) (enclosed opening closing content₂) := by
  have inner : (do blanks; let value ← content₁; blanks; exactly [closing]; return value : Rule α).Mirrors bound
      (do blanks; let value ← content₂; blanks; exactly [closing]; return value : Rule α) := by
    refine mirrors_bind mirrors_blanks fun _ => mirrors_bind content fun value => mirrors_bind mirrors_blanks fun _ => ?_
    exact mirrors_bind (mirrors_exactly (by simpa using dark.2)) fun _ => mirrors_pure value
  intro text₁ text₂ trail within
  cases trail with
  | @gap _ blank =>
    -- White space is not the opening sign.
    obtain ⟨same, _⟩ := (Trailing.gap blank).starts (by simpa using dark.1 : ∀ c ∈ [opening], isBlank c = false)
    have missed : ¬ [opening].isPrefixOf text₁ = true := by simp [same]
    have refused (content : Rule α) (text : List Char) (missed : ¬ [opening].isPrefixOf text = true) :
        enclosed opening closing content text = .refused text := by
      change andThen (exactly [opening]) _ text = _
      rw [andThen, exactly, if_neg missed]
    rw [refused _ _ missed, refused _ _ (by simp)]
    exact .refused
  | @cons c longer shorter trail =>
    change (andThen (exactly [opening]) _ _).Mirrors _ (andThen (exactly [opening]) _ _)
    unfold andThen exactly
    by_cases opens : opening = c
    · subst opens
      simp only [List.isPrefixOf_cons_cons, beq_self_eq_true, List.isPrefixOf_nil_left, Bool.and_self, if_true]
      exact (inner longer shorter trail (Nat.lt_of_succ_lt_succ within)).of_le (Nat.le_succ _)
    · have missed : (opening == c) = false := beq_false_of_ne opens
      simp only [List.isPrefixOf_cons_cons, missed, Bool.false_and, Bool.false_eq_true, if_false]
      exact .refused

end Rule

end Phrasebook
