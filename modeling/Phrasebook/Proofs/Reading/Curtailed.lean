import Phrasebook.Proofs.Reading.Spelling

/-! What a rule has read is read again where the text behind it is cut off. -/

namespace Phrasebook

/-- A text that is cut off somewhere. -/
inductive Curtailed : List Char → List Char → Prop where
  /-- Nothing stands behind the cut. -/
  | nothing {dropped : List Char} : Curtailed dropped []
  /-- A comma or a closing sign stands behind the cut. -/
  | closed {c : Char} (closes : c ∈ [',', ')', ']', '\x7d']) {dropped rest : List Char} : Curtailed dropped (c :: rest)
  /-- In front of the cut the texts are the same. -/
  | cons (c : Char) {longer shorter : List Char} (later : Curtailed longer shorter) : Curtailed (c :: longer) (c :: shorter)

/-- Behind a run of characters of one kind stands one of another kind. -/
theorem not_of_dropWhile {kind : Char → Bool} {text : List Char} :
    ∀ c rest, text.dropWhile kind = c :: rest → kind c = false := by
  intro c rest start
  have none := List.dropWhile_get_zero_not kind text (by simp [start])
  simpa [start] using none

/-- A run of characters of one kind is empty if one of another kind stands in front. -/
theorem isEmpty_takeWhile {kind : Char → Bool} {text : List Char} :
    (text.takeWhile kind).isEmpty = true ↔ ∀ c rest, text = c :: rest → kind c = false := by
  cases text with
  | nil => simp
  | cons c rest => by_cases here : kind c = true <;> simp [here]

namespace Curtailed

variable {longer shorter : List Char}

/-- The cut may be behind some more characters. -/
theorem append (front : List Char) (cut : Curtailed longer shorter) : Curtailed (front ++ longer) (front ++ shorter) := by
  induction front with
  | nil => exact cut
  | cons c front later => exact .cons c later

/-- A text need not be cut off. -/
theorem refl (text : List Char) : Curtailed text text := by
  have cut := append text (nothing : Curtailed [] [])
  rwa [List.append_nil] at cut

/-- A text is cut off behind each of its parts. -/
theorem front (kept dropped : List Char) : Curtailed (kept ++ dropped) kept := by
  have cut := append kept (nothing : Curtailed dropped [])
  rwa [List.append_nil] at cut

/-- A part that is over in front of the cut is not longer if the text is cut off. -/
theorem ends {kind : Char → Bool} (apart : ∀ c ∈ [',', ')', ']', '\x7d'], kind c = false) (cut : Curtailed longer shorter)
    (ended : ∀ c rest, longer = c :: rest → kind c = false) : ∀ c rest, shorter = c :: rest → kind c = false := by
  rintro c rest rfl
  cases cut with
  | closed closes => exact apart c closes
  | cons _ later => exact ended c _ rfl

/-- Without the characters of a kind in front the text is still cut off. -/
theorem dropWhile {kind : Char → Bool} (apart : ∀ c ∈ [',', ')', ']', '\x7d'], kind c = false) (cut : Curtailed longer shorter) :
    Curtailed (longer.dropWhile kind) (shorter.dropWhile kind) := by
  induction cut with
  | nothing => exact .nothing
  | @closed c closes dropped rest =>
    rw [List.dropWhile_cons_of_neg (by simp [apart c closes])]
    exact .closed closes
  | cons c cut later =>
    by_cases here : kind c = true
    · rwa [List.dropWhile_cons_of_pos here, List.dropWhile_cons_of_pos here]
    · rw [List.dropWhile_cons_of_neg here, List.dropWhile_cons_of_neg here]
      exact .cons c cut

/-- A sign that is not there is not there either if the text is cut off. -/
theorem starts {expected : List Char} (apart : ∀ c ∈ [',', ')', ']', '\x7d'], c ∉ expected) (cut : Curtailed longer shorter)
    (there : expected.isPrefixOf shorter = true) : expected.isPrefixOf longer = true := by
  induction cut generalizing expected with
  | nothing =>
    cases expected with
    | nil => rfl
    | cons c expected => simp at there
  | @closed c closes dropped rest =>
    cases expected with
    | nil => rfl
    | cons d expected =>
      obtain ⟨rfl, -⟩ := by simpa using there
      exact absurd List.mem_cons_self (apart d closes)
  | cons c _ later =>
    cases expected with
    | nil => rfl
    | cons d expected =>
      simp only [List.isPrefixOf_cons_cons, Bool.and_eq_true, beq_iff_eq] at there ⊢
      exact ⟨there.1, later (fun c closes inside => apart c closes (List.mem_cons_of_mem _ inside)) there.2⟩

end Curtailed

namespace Rule

variable {α β : Type}

/-- Whether what a rule has read is read again if the text behind it is cut off, as long as what is left there is guarded. -/
def Rereads (Guard : α → List Char → Prop) (rule : Rule α) : Prop :=
  -- The guard tells what a reader that looks ahead must still see.
  ∀ text value rest, rule text = .done value rest →
    ∃ read, text = read ++ rest ∧ ∀ rest', Curtailed rest rest' → Guard value rest' → rule (read ++ rest') = .done value rest'

/-- A rule leaves no more of a text than there is. -/
theorem Rereads.length_le {Guard : α → List Char → Prop} {rule : Rule α} (again : rule.Rereads Guard) {text rest : List Char}
    {value : α} (done : rule text = .done value rest) : rest.length ≤ text.length := by
  obtain ⟨read, rfl, _⟩ := again text value rest done
  simp

/-- A rule that reads nothing reads nothing again. -/
theorem rereads_pure (value : α) {Guard : α → List Char → Prop} : (pure value : Rule α).Rereads Guard := by
  intro text read rest done
  cases done
  exact ⟨[], rfl, fun _ _ _ => rfl⟩

/-- Two rules in a row read their parts again if the second part is what the first rule must see. -/
theorem rereads_bind {Guard : α → List Char → Prop} {Guard' : β → List Char → Prop} {first : Rule α} {next : α → Rule β}
    (fore : first.Rereads Guard) (back : ∀ value, (next value).Rereads Guard')
    (leads : ∀ value text value' rest, next value text = .done value' rest → Guard' value' rest → Guard value text) :
    (first >>= next).Rereads Guard' := by
  intro text value' rest done
  obtain ⟨value, middle, here, later⟩ := done_of_bind done
  obtain ⟨front, rfl, again⟩ := fore _ _ _ here
  obtain ⟨more, rfl, again'⟩ := back value _ _ _ later
  refine ⟨front ++ more, (List.append_assoc front more rest).symm, fun rest' cut guarded => ?_⟩
  have second := again' rest' cut guarded
  have first := again (more ++ rest') (cut.append more) (leads value _ _ _ second guarded)
  rw [List.append_assoc, bind_of_done first, second]

/-- Rules that have the same outcome at two texts go on alike. -/
theorem bind_congr_at {first second : Rule α} {text text' : List Char} (same : first text = second text') (next : α → Rule β) :
    (first >>= next) text = (second >>= next) text' := by
  change andThen first next text = andThen second next text'
  rw [andThen, andThen, same]

instance : LawfulMonad Rule :=
  LawfulMonad.mk' Rule
    (fun rule => funext fun text => by
      change andThen rule _ text = _
      unfold andThen
      cases rule text <;> rfl)
    (fun _ _ => rfl)
    (fun rule _ _ => funext fun text => by
      change andThen (andThen rule _) _ text = andThen rule _ text
      unfold andThen
      cases rule text <;> rfl)

/-- Whether what a rule reads of a text ends in what another one reads, and the rule goes on from there if the text is cut off. -/
def EndsAt (outer : Rule α) (inner : Rule β) (text : List Char) : Prop :=
  -- What the rule still does behind the last part depends on the text in front of it.
  ∀ value rest, outer text = .done value rest →
    ∃ front part last next, text = front ++ part ∧ inner part = .done last rest ∧
      (∀ rest', Curtailed rest rest' → next last rest' = .done value rest') ∧
        ∀ part', Curtailed part part' → outer (front ++ part') = (inner >>= next) part'

/-- Whether what a rule reads always ends in what another one reads. -/
def EndsIn (outer : Rule α) (inner : Rule β) : Prop :=
  -- The other one may be the rule itself.
  ∀ text, outer.EndsAt inner text

/-- What a rule reads ends in itself. -/
theorem EndsIn.refl (rule : Rule α) : rule.EndsIn rule := by
  refine fun text value rest done => ⟨[], text, value, pure, rfl, done, fun _ _ => rfl, fun part' _ => ?_⟩
  rw [bind_pure]
  rfl

/-- What ends in a part that ends in another one ends in that one. -/
theorem EndsIn.trans {γ : Type} {outer : Rule α} {middle : Rule β} {inner : Rule γ} (first : outer.EndsIn middle)
    (second : middle.EndsIn inner) : outer.EndsIn inner := by
  intro text value rest done
  obtain ⟨front, part, last, next, rfl, here, stops, cut⟩ := first _ _ _ done
  obtain ⟨front', part, last', next', rfl, here', stops', cut'⟩ := second _ _ _ here
  refine ⟨front ++ front', part, last', fun value => next' value >>= next, by simp, here', fun rest' short => ?_,
    fun part' short => ?_⟩
  · exact (bind_of_done (stops' rest' short)).trans (stops rest' short)
  · rw [List.append_assoc, cut _ (short.append front'), ← bind_assoc]
    exact bind_congr_at (cut' part' short) next

/-- If the last part is read again, the whole is. -/
theorem EndsIn.rereads {Guard : List Char → Prop} {outer : Rule α} {inner : Rule β} (ends : outer.EndsIn inner)
    (again : inner.Rereads fun _ => Guard) : outer.Rereads fun _ => Guard := by
  intro text value rest done
  obtain ⟨front, part, last, next, rfl, here, stops, cut⟩ := ends _ _ _ done
  obtain ⟨read, rfl, again'⟩ := again _ _ _ here
  refine ⟨front ++ read, (List.append_assoc _ _ _).symm, fun rest' short guarded => ?_⟩
  rw [List.append_assoc, cut _ (short.append read), bind_of_done (again' rest' short guarded)]
  exact stops rest' short

/-- A rule ends in what comes behind a part that is read again. -/
theorem EndsAt.behind {γ : Type} {Guard : β → List Char → Prop} {first : Rule β} {next : β → Rule α} {inner : Rule γ}
    {text : List Char} (fore : first.Rereads Guard)
    (guarded : ∀ value middle, first text = .done value middle → ∀ shorter, Curtailed middle shorter → Guard value shorter)
    (back : ∀ value middle, first text = .done value middle → (next value).EndsAt inner middle) :
    (first >>= next).EndsAt inner text := by
  intro value rest done
  obtain ⟨found, middle, here, later⟩ := done_of_bind done
  obtain ⟨read, rfl, again⟩ := fore _ _ _ here
  obtain ⟨front, part, last, further, rfl, ends, stops, cut⟩ := back _ _ here _ _ later
  refine ⟨read ++ front, part, last, further, (List.append_assoc _ _ _).symm, ends, stops, fun part' short => ?_⟩
  have short' := short.append front
  rw [List.append_assoc, bind_of_done (again _ short' (guarded _ _ here _ short'))]
  exact cut part' short

/-- A value may be built from what is read. -/
theorem EndsAt.map {γ : Type} {outer : Rule α} {inner : Rule γ} {text : List Char} (ends : outer.EndsAt inner text) (build : α → β) :
    (do let value ← outer; return build value : Rule β).EndsAt inner text := by
  intro value rest done
  obtain ⟨found, middle, here, same⟩ := done_of_bind done
  cases same
  obtain ⟨front, part, last, next, rfl, ends, stops, cut⟩ := ends _ _ here
  refine ⟨front, part, last, fun last => do let value ← next last; return build value, rfl, ends,
    fun rest' short => bind_of_done (stops rest' short), fun part' short => ?_⟩
  rw [← bind_assoc]
  exact bind_congr_at (cut part' short) _

/-- Whether what a rule reads starts with a character of a kind. -/
def Starts (kind : Char → Prop) (rule : Rule α) : Prop :=
  -- Nothing is not enough.
  ∀ text value rest, rule text = .done value rest → ∃ c more, text = c :: more ∧ kind c

/-- The first of two rules in a row tells what they start with. -/
theorem starts_bind {kind : Char → Prop} {first : Rule α} (starts : first.Starts kind) (next : α → Rule β) :
    (first >>= next).Starts kind := by
  intro text value rest done
  obtain ⟨fore, middle, here, -⟩ := done_of_bind done
  exact starts _ _ _ here

/-- One rule or another starts with what either starts with. -/
theorem starts_orElse {kind kind' : Char → Prop} {first second : Rule α} (left : first.Starts kind)
    (right : second.Starts kind') : (first.orElse second).Starts fun c => kind c ∨ kind' c := by
  intro text value rest done
  unfold orElse at done
  split at done
  · obtain ⟨c, more, same, kind⟩ := right _ _ _ done
    exact ⟨c, more, same, .inr kind⟩
  · obtain ⟨c, more, same, kind⟩ := left _ _ _ done
    exact ⟨c, more, same, .inl kind⟩

/-- A given character is what its rule starts with. -/
theorem starts_exactly (sign : Char) : (exactly [sign]).Starts (· = sign) := by
  intro text value rest done
  have reads : (exactly [sign]).Reads (· = [sign]) fun _ => True := reads_exactly rfl
  obtain ⟨_, rfl, rfl, -⟩ := reads _ _ _ done
  exact ⟨sign, rest, rfl, rfl⟩

/-- A part between signs starts with the opening one. -/
theorem starts_enclosed (opening closing : Char) (content : Rule α) :
    (enclosed opening closing content).Starts (· = opening) :=
  starts_bind (starts_exactly opening) _

/-- One rule or another reads its part again if the first refuses what the second reads. -/
theorem rereads_orElse {Guard : α → List Char → Prop} {first second : Rule α} (fore : first.Rereads Guard)
    (back : second.Rereads Guard)
    (apart : ∀ text value rest, second text = .done value rest → ∃ left, first text = .refused left) :
    (first.orElse second).Rereads Guard := by
  intro text value rest done
  unfold orElse at done
  split at done
  · rename_i refused
    obtain ⟨read, rfl, again⟩ := back _ _ _ done
    refine ⟨read, rfl, fun rest' cut guarded => ?_⟩
    have second := again rest' cut guarded
    obtain ⟨left, missed⟩ := apart _ _ _ second
    rw [orElse_of_refused missed, second]
  · obtain ⟨read, rfl, again⟩ := fore _ _ _ done
    exact ⟨read, rfl, fun rest' cut guarded => orElse_of_done (again rest' cut guarded)⟩

/-- A part that may be absent is read again or is absent again. -/
theorem rereads_optional {Guard : Option α → List Char → Prop} {rule : Rule α}
    (there : rule.Rereads fun value => Guard (some value))
    (stops : ∀ text left rest, rule text = .refused left → Curtailed text rest → Guard none rest →
      ∃ left, rule rest = .refused left) : rule.optional.Rereads Guard := by
  intro text value rest done
  unfold optional at done
  cases outcome : rule text with
  | done found left =>
    rw [outcome] at done
    cases done
    obtain ⟨read, rfl, again⟩ := there _ _ _ outcome
    refine ⟨read, rfl, fun rest' cut guarded => ?_⟩
    rw [optional, again rest' cut guarded]
  | refused left =>
    rw [outcome] at done
    cases done
    refine ⟨[], rfl, fun rest' cut guarded => ?_⟩
    obtain ⟨left, missed⟩ := stops _ _ _ outcome cut guarded
    rw [List.nil_append, optional, missed]
  | failed left =>
    rw [outcome] at done
    cases done

/-- Given characters are read again. -/
theorem rereads_exactly (expected : List Char) : (exactly expected).Rereads fun _ _ => True := by
  have read (rest : List Char) : exactly expected (expected ++ rest) = .done () rest := by
    rw [exactly, if_pos (List.isPrefixOf_iff_prefix.mpr (List.prefix_append expected rest)), List.drop_left]
  have reads : (exactly expected).Reads (· = expected) fun _ => True := reads_exactly rfl
  intro text value rest done
  obtain ⟨_, rfl, rfl, _⟩ := reads _ _ _ done
  exact ⟨_, rfl, fun rest' _ _ => read rest'⟩

/-- White space is skipped again. -/
theorem rereads_blanks : blanks.Rereads fun _ _ => True := by
  intro text value rest done
  cases done
  refine ⟨text.takeWhile isBlank, List.takeWhile_append_dropWhile.symm, fun rest' cut _ => ?_⟩
  have all : ∀ c ∈ text.takeWhile isBlank, isBlank c = true := fun c inside => List.mem_takeWhile_imp inside
  rw [blanks, trimFront, (span_append all (cut.ends (by decide) not_of_dropWhile)).2]

/-- A separator is read again with the white space around it. -/
theorem rereads_between (separator : List Char) : (between separator).Rereads fun _ _ => True := by
  unfold between
  refine rereads_bind rereads_blanks (fun _ => ?_) fun _ _ _ _ _ _ => trivial
  exact rereads_bind (rereads_exactly separator) (fun _ => rereads_blanks) fun _ _ _ _ _ _ => trivial

section Enclosed

variable {opening closing : Char} (closes : closing ∈ [',', ')', ']', '\x7d']) {Guard : List Char → Prop} {content : Rule α}
  (again : content.Rereads fun _ => Guard) (last : ∀ rest more, trimFront rest = closing :: more → Guard rest)

include closes again last

/-- A part between signs is read again whatever stands behind the closing one. -/
theorem enclosed_again {text rest : List Char} {value : α} (done : enclosed opening closing content text = .done value rest) :
    ∃ read, text = read ++ rest ∧ ∀ rest', enclosed opening closing content (read ++ rest') = .done value rest' := by
  obtain ⟨_, text₁, opens, later⟩ := done_of_bind done
  obtain ⟨_, text₂, skipped, later⟩ := done_of_bind later
  obtain ⟨value', text₃, here, later⟩ := done_of_bind later
  obtain ⟨_, text₄, skipped', later⟩ := done_of_bind later
  obtain ⟨_, text₅, closed, same⟩ := done_of_bind later
  cases same
  have reads : (exactly [closing]).Reads (· = [closing]) fun _ => True := reads_exactly rfl
  obtain ⟨_, rfl, rfl, -⟩ := reads _ _ _ closed
  obtain ⟨read₁, rfl, first⟩ := rereads_exactly [opening] _ _ _ opens
  obtain ⟨read₂, rfl, second⟩ := rereads_blanks _ _ _ skipped
  obtain ⟨read₃, rfl, third⟩ := again _ _ _ here
  obtain ⟨read₄, rfl, fourth⟩ := rereads_blanks _ _ _ skipped'
  refine ⟨read₁ ++ (read₂ ++ (read₃ ++ (read₄ ++ [closing]))), by simp, fun rest' => ?_⟩
  have cut : Curtailed ([closing] ++ rest) ([closing] ++ rest') := .closed closes
  have closing' := fourth _ cut trivial
  have value := third _ (cut.append read₄) (last _ rest' (Outcome.done.inj closing').2)
  have start := second _ ((cut.append read₄).append read₃) trivial
  have opening' := first _ (((cut.append read₄).append read₃).append read₂) trivial
  simp only [List.append_assoc]
  rw [enclosed, bind_of_done opening', bind_of_done start, bind_of_done value, bind_of_done closing']
  exact bind_of_done (exactly_cons closing rest')

/-- A part between signs is read again. -/
theorem rereads_enclosed : (enclosed opening closing content).Rereads fun _ _ => True := by
  intro text value rest done
  obtain ⟨read, same, whole⟩ := enclosed_again closes again last done
  exact ⟨read, same, fun rest' _ _ => whole rest'⟩

end Enclosed

section Loops

variable {rule : α → Rule α} (again : ∀ value, (rule value).Rereads fun _ _ => True)
  (shrinks : ∀ value text next rest, rule value text = .done next rest → rest.length < text.length)
  (ends : ∀ value, ∃ left, rule value [] = .refused left)

include shrinks ends in
/-- A part that may be absent is looked for, and behind it more of them. -/
theorem steps_unfold (value : α) (text : List Char) :
    steps (fun value => optional (rule value)) text.length value text = (do
      match ← optional (rule value) with
      | some next => fun text => steps (fun value => optional (rule value)) text.length next text
      | none => return value : Rule α) text := by
  have shrinks' (value : α) (text : List Char) (next : α) (rest : List Char)
      (done : optional (rule value) text = .done (some next) rest) : rest.length < text.length := by
    unfold optional at done
    split at done <;> cases done
    exact shrinks _ _ _ _ ‹_›
  have ends' (value : α) : optional (rule value) [] = .done none [] := by
    obtain ⟨left, missed⟩ := ends value
    rw [optional, missed]
  rw [steps_eq shrinks' ends' (Nat.le_refl _) (Nat.le_succ _), steps]
  change andThen (optional (rule value)) _ text = andThen (optional (rule value)) _ text
  unfold andThen
  cases outcome : optional (rule value) text with
  | done longer rest =>
    cases longer with
    | none => rfl
    | some next =>
      have less := shrinks' value text next rest outcome
      exact steps_eq shrinks' ends' (Nat.le_of_lt less) (Nat.le_refl _)
  | refused rest => rfl
  | failed rest => rfl

include again shrinks ends in
/-- Parts are read as long as there are any, and where the text is cut off they are read again and more may follow. -/
theorem steps_again {value final : α} {text rest : List Char}
    (done : steps (fun value => optional (rule value)) text.length value text = .done final rest) :
    (∃ left, rule final rest = .refused left) ∧ ∃ read, text = read ++ rest ∧ ∀ rest', Curtailed rest rest' →
      steps (fun value => optional (rule value)) (read ++ rest').length value (read ++ rest') =
        steps (fun value => optional (rule value)) rest'.length final rest' := by
  have unfold := steps_unfold shrinks ends
  induction short : text.length using Nat.strong_induction_on generalizing value text with
  | _ size later =>
  subst short
  rw [unfold] at done
  obtain ⟨longer, middle, here, others⟩ := done_of_bind done
  unfold optional at here
  split at here
  · rename_i next behind found
    cases here
    obtain ⟨read, rfl, again'⟩ := again value _ _ _ found
    obtain ⟨ended, more, rfl, cut'⟩ := later _ (shrinks _ _ _ _ found) others rfl
    refine ⟨ended, read ++ more, (List.append_assoc _ _ _).symm, fun rest' cut => ?_⟩
    have there : optional (rule value) (read ++ (more ++ rest')) = .done (some next) (more ++ rest') := by
      rw [optional, again' _ (cut.append more) trivial]
    rw [List.append_assoc, unfold, bind_of_done there]
    exact cut' rest' cut
  · rename_i left missed
    cases here
    cases others
    exact ⟨⟨left, missed⟩, [], rfl, fun _ _ => rfl⟩
  · cases here

end Loops

section Lists

variable {separator : Rule Unit} {element : Rule α} {Guard Last : List Char → Prop}
  (again : (do separator; element : Rule α).Rereads fun _ => Guard)
  (stops : ∀ text left rest, (do separator; element : Rule α) text = .refused left → Curtailed text rest → Last rest →
    ∃ left, (do separator; element : Rule α) rest = .refused left)
  (leads : ∀ text value rest, (do separator; element : Rule α) text = .done value rest → Guard text)
  (last : ∀ rest, Last rest → Guard rest)
  (shrinks : ∀ text value rest, (do separator; element : Rule α) text = .done value rest → rest.length < text.length)
  (ends : ∃ rest, separator [] = .refused rest)

include shrinks ends in
/-- A further element is read, and then as many as there are. -/
theorem moreElements_unfold (text : List Char) :
    moreElements separator element text.length text = (do
      match ← optional (do separator; element) with
      | some value => do
        let values ← (fun text => moreElements separator element text.length text : Rule (List α))
        return value :: values
      | none => return [] : Rule (List α)) text := by
  rw [moreElements_eq shrinks ends (Nat.le_refl _) (Nat.le_succ _), moreElements_succ]
  change andThen (optional _) _ text = andThen (optional _) _ text
  unfold andThen optional
  cases outcome : (do separator; element : Rule α) text with
  | done value rest =>
    have less := shrinks text value rest outcome
    have others : moreElements separator element text.length rest = moreElements separator element rest.length rest :=
      moreElements_eq shrinks ends (Nat.le_of_lt less) (Nat.le_refl _)
    change andThen (moreElements separator element text.length) _ rest =
      andThen (fun text => moreElements separator element text.length text) _ rest
    unfold andThen
    rw [others]
  | refused rest => rfl
  | failed rest => rfl

include leads last shrinks ends in
/-- Behind an element either a separator follows or what ends the list. -/
theorem guard_of_moreElements {text rest : List Char} {values : List α}
    (done : moreElements separator element text.length text = .done values rest) (ended : Last rest) : Guard text := by
  rw [moreElements_unfold shrinks ends] at done
  obtain ⟨value, middle, here, done⟩ := done_of_bind done
  unfold optional at here
  split at here
  · rename_i found
    exact leads _ _ _ found
  · cases here
    cases done
    exact last _ ended
  · cases here

include again stops leads last shrinks ends in
/-- Further elements are read again, and no more of them than before. -/
theorem rereads_moreElements :
    Rule.Rereads (fun _ => Last) fun text => moreElements separator element text.length text := by
  have unfold := moreElements_unfold shrinks ends
  have next : (optional (do separator; element : Rule α)).Rereads fun value => if value.isSome then Guard else Last :=
    rereads_optional again fun text left rest missed cut ended => stops text left rest missed cut ended
  intro text values rest done
  induction short : text.length using Nat.strong_induction_on generalizing text values with
  | _ size later =>
  subst short
  dsimp only at done
  rw [unfold] at done
  obtain ⟨value, middle, here, done⟩ := done_of_bind done
  obtain ⟨read, rfl, again'⟩ := next _ _ _ here
  cases value with
  | none =>
    cases done
    refine ⟨read, rfl, fun rest' cut ended => ?_⟩
    dsimp only
    rw [unfold, bind_of_done (again' rest' cut ended)]
    rfl
  | some value =>
    obtain ⟨others, behind, done, same⟩ := done_of_bind done
    cases same
    have less : middle.length < (read ++ middle).length := by
      unfold optional at here
      split at here
      · rename_i found
        cases here
        exact shrinks _ _ _ found
      · cases here
      · cases here
    obtain ⟨more, rfl, cut'⟩ := later _ less middle others done rfl
    refine ⟨read ++ more, (List.append_assoc _ _ _).symm, fun rest' cut ended => ?_⟩
    have others := cut' rest' cut ended
    have guarded := guard_of_moreElements leads last shrinks ends others ended
    dsimp only
    rw [List.append_assoc, unfold, bind_of_done (again' _ (cut.append more) guarded)]
    exact bind_of_done others

include again stops leads last shrinks ends in
/-- Elements are read again, and no more of them than before. -/
theorem rereads_elements (first : element.Rereads fun _ => Guard)
    (none : ∀ text left rest, element text = .refused left → Curtailed text rest → Last rest →
      ∃ left, element rest = .refused left) : (elements separator element).Rereads fun _ => Last := by
  rw [elements_eq]
  have there : element.optional.Rereads fun value => if value.isSome then Guard else Last :=
    rereads_optional first fun text left rest missed cut ended => none text left rest missed cut ended
  refine rereads_bind there (fun value => ?_) fun value text values rest done ended => ?_
  · cases value with
    | none => exact rereads_pure []
    | some value =>
      have others := rereads_moreElements again stops leads last shrinks ends
      exact rereads_bind others (fun values => rereads_pure (value :: values)) fun _ _ _ _ done ended => by
        cases done
        exact ended
  · cases value with
    | none =>
      cases done
      exact ended
    | some value =>
      obtain ⟨others, behind, done, same⟩ := done_of_bind done
      cases same
      exact guard_of_moreElements leads last shrinks ends done ended

end Lists

end Rule

end Phrasebook
