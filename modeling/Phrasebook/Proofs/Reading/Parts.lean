import Mathlib.Data.List.TakeWhile
import Phrasebook.Reading.Rule

/-! A rule reads a front part of its text, and loops of rules do not depend on how many turns they are given. -/

namespace Phrasebook

/-- What is asked of each character of a text is decided along the text, never by going through all characters. -/
instance (priority := high) decidableForallMemChars {kind : Char → Prop} [DecidablePred kind] (chars : List Char) :
    Decidable (∀ c ∈ chars, kind c) :=
  List.decidableBAll kind chars

/-- A property of texts that holds of nothing and of two parts put together. -/
structure Joined (Part : List Char → Prop) : Prop where
  /-- Nothing has it. -/
  nil : Part []
  /-- Two parts in a row have it together. -/
  append : ∀ {front back : List Char}, Part front → Part back → Part (front ++ back)

namespace Rule

variable {α β : Type}

/-- Whatever a rule reads is a front part with a property, and the value has one, too. -/
def Reads (Part : List Char → Prop) (rule : Rule α) (Good : α → Prop) : Prop :=
  -- Nothing is asked where the rule gives up.
  ∀ text value rest, rule text = .done value rest → ∃ read, text = read ++ rest ∧ Part read ∧ Good value

/-- A rule leaves no more of a text than there is. -/
theorem Reads.length_le {Part : List Char → Prop} {rule : Rule α} {Good : α → Prop} (reads : rule.Reads Part Good)
    {text rest : List Char} {value : α} (done : rule text = .done value rest) : rest.length ≤ text.length := by
  obtain ⟨read, rfl, _⟩ := reads text value rest done
  simp

/-- Less may be said about what is read. -/
theorem Reads.imp {Part : List Char → Prop} {rule : Rule α} {Good Fair : α → Prop} (reads : rule.Reads Part Good)
    (less : ∀ value, Good value → Fair value) : rule.Reads Part Fair := by
  intro text value rest done
  obtain ⟨read, same, part, good⟩ := reads text value rest done
  exact ⟨read, same, part, less value good⟩

/-- Two rules in a row are done if the first is, and then the second. -/
theorem done_of_bind {first : Rule α} {next : α → Rule β} {text rest : List Char} {value : β}
    (done : (first >>= next) text = .done value rest) :
    ∃ fore middle, first text = .done fore middle ∧ next fore middle = .done value rest := by
  change andThen first next text = _ at done
  unfold andThen at done
  split at done
  · rename_i fore middle here
    exact ⟨fore, middle, here, done⟩
  · cases done
  · cases done

/-- A step that changes a value, taken as often as it goes on. -/
def steps (step : α → Rule (Option α)) : Nat → α → Rule α
  -- The turns bound how often that can be.
  | 0, value => succeed value
  | turns + 1, value => do
    match ← step value with
    | some longer => steps step turns longer
    | none => return value

/-- A further element and its separator are there together or not at all. -/
theorem moreElements_succ (separator : Rule Unit) (element : Rule α) (turns : Nat) :
    moreElements separator element (turns + 1) = (do
      match ← optional (do separator; element) with
      | some value => do
        let values ← moreElements separator element turns
        return value :: values
      | none => return []) := by
  funext text
  change _ = andThen (optional (andThen separator fun _ => element)) _ text
  simp only [moreElements, andThen, optional]
  cases separator text with
  | done _ behind =>
    dsimp only
    cases element behind with
    | done value left =>
      change _ = andThen (moreElements separator element turns) _ left
      rw [andThen]
      dsimp only
      cases moreElements separator element turns left <;> rfl
    | refused left => rfl
    | failed left => rfl
  | refused behind => rfl
  | failed behind => rfl

/-- The first element is read like the further ones, but without a separator. -/
theorem elements_eq (separator : Rule Unit) (element : Rule α) :
    elements separator element = (do
      match ← optional element with
      | some value => do
        let values ← (fun text => moreElements separator element text.length text : Rule (List α))
        return value :: values
      | none => return []) := by
  funext text
  change _ = andThen (optional element) _ text
  simp only [elements, andThen, optional]
  cases element text with
  | done value left =>
    change _ = andThen (fun text => moreElements separator element text.length text) _ left
    unfold andThen
    dsimp only
    cases moreElements separator element left.length left <;> rfl
  | refused left => rfl
  | failed left => rfl

section Combinators

variable {Part : List Char → Prop} (joined : Joined Part)

include joined

/-- A rule that reads nothing reads a part with the property. -/
theorem reads_pure {Good : α → Prop} {value : α} (good : Good value) : (pure value : Rule α).Reads Part Good := by
  intro text read rest done
  cases done
  exact ⟨[], rfl, joined.nil, good⟩

/-- Two rules in a row read the two parts. -/
theorem reads_bind {Fair : α → Prop} {Good : β → Prop} {first : Rule α} {next : α → Rule β}
    (fair : first.Reads Part Fair) (good : ∀ value, Fair value → (next value).Reads Part Good) :
    (first >>= next).Reads Part Good := by
  intro text read rest done
  obtain ⟨value, middle, here, later⟩ := done_of_bind done
  obtain ⟨front, rfl, part, fits⟩ := fair _ _ _ here
  obtain ⟨back, rfl, part', fits'⟩ := good value fits _ _ _ later
  exact ⟨front ++ back, (List.append_assoc front back rest).symm, joined.append part part', fits'⟩

omit joined in
/-- One rule or another reads what either reads. -/
theorem reads_orElse {Good : α → Prop} {first second : Rule α} (left : first.Reads Part Good)
    (right : second.Reads Part Good) : (first.orElse second).Reads Part Good := by
  intro text value rest done
  unfold orElse at done
  cases outcome : first text with
  | done read behind => exact left text value rest (outcome.trans (by simpa only [outcome] using done))
  | refused behind => exact right text value rest (by simpa only [outcome] using done)
  | failed behind => simp [outcome] at done

/-- A part that may be absent is what the rule reads where it is there. -/
theorem reads_optional {Good : α → Prop} {rule : Rule α} (reads : rule.Reads Part Good) :
    rule.optional.Reads Part fun value => ∀ present, value = some present → Good present := by
  intro text value rest done
  unfold optional at done
  cases outcome : rule text with
  | done read left =>
    rw [outcome] at done
    cases done
    obtain ⟨front, same, part, good⟩ := reads _ _ _ outcome
    exact ⟨front, same, part, fun present is => Option.some.inj is ▸ good⟩
  | refused left =>
    rw [outcome] at done
    cases done
    exact ⟨[], rfl, joined.nil, nofun⟩
  | failed left =>
    rw [outcome] at done
    cases done

/-- Further elements are what their rule reads. -/
theorem reads_moreElements {Good : α → Prop} {separator : Rule Unit} {element : Rule α}
    (between : separator.Reads Part fun _ => True) (good : element.Reads Part Good) (turns : Nat) :
    (moreElements separator element turns).Reads Part fun values => ∀ value ∈ values, Good value := by
  induction turns with
  | zero => exact reads_pure joined nofun
  | succ turns more =>
    rw [moreElements_succ]
    refine reads_bind joined (reads_optional joined (reads_bind joined between fun _ _ => good)) fun element here => ?_
    cases element with
    | none => exact reads_pure joined nofun
    | some value =>
      refine reads_bind joined more fun values all => reads_pure joined ?_
      exact List.forall_mem_cons.mpr ⟨here value rfl, all⟩

/-- Elements are what their rule reads. -/
theorem reads_elements {Good : α → Prop} {separator : Rule Unit} {element : Rule α}
    (between : separator.Reads Part fun _ => True) (good : element.Reads Part Good) :
    (elements separator element).Reads Part fun values => ∀ value ∈ values, Good value := by
  rw [elements_eq]
  refine reads_bind joined (reads_optional joined good) fun element here => ?_
  cases element with
  | none => exact reads_pure joined nofun
  | some value =>
    have more := fun text => reads_moreElements joined between good text.length text
    refine reads_bind joined more fun values all => reads_pure joined ?_
    exact List.forall_mem_cons.mpr ⟨here value rfl, all⟩

/-- A value that is changed step by step keeps what every step keeps. -/
theorem reads_steps {Good : α → Prop} {step : α → Rule (Option α)}
    (keeps : ∀ value, Good value → (step value).Reads Part fun longer => ∀ next, longer = some next → Good next)
    (turns : Nat) {value : α} (good : Good value) : (steps step turns value).Reads Part Good := by
  induction turns generalizing value with
  | zero => exact reads_pure joined good
  | succ turns more =>
    rw [steps]
    refine reads_bind joined (keeps value good) fun longer fits => ?_
    cases longer with
    | none => exact reads_pure joined good
    | some next => exact more (fits next rfl)

end Combinators

/-- Reading given characters reads just these. -/
theorem reads_exactly {Part : List Char → Prop} {expected : List Char} (part : Part expected) :
    (exactly expected).Reads Part fun _ => True := by
  intro text value rest done
  unfold exactly at done
  split at done
  · rename_i starts
    cases done
    exact ⟨expected, (List.prefix_iff_eq_append.mp (List.isPrefixOf_iff_prefix.mp starts)).symm, part, trivial⟩
  · cases done

/-- Skipping white space reads white space. -/
theorem reads_blanks {Part : List Char → Prop} (blank : ∀ gap : List Char, (∀ c ∈ gap, isBlank c = true) → Part gap) :
    blanks.Reads Part fun _ => True := by
  intro text value rest done
  cases done
  refine ⟨text.takeWhile isBlank, (List.takeWhile_append_dropWhile).symm, blank _ fun c inside => ?_, trivial⟩
  exact List.mem_takeWhile_imp inside

/-- A separator between white space is read together with it. -/
theorem reads_between {Part : List Char → Prop} (joined : Joined Part) {separator : List Char} (part : Part separator)
    (blank : ∀ gap : List Char, (∀ c ∈ gap, isBlank c = true) → Part gap) :
    (between separator).Reads Part fun _ => True := by
  unfold between
  exact reads_bind joined (reads_blanks blank) fun _ _ =>
    reads_bind joined (reads_exactly part) fun _ _ => reads_blanks blank

/-- A part between signs is read together with them. -/
theorem reads_enclosed {Part : List Char → Prop} (joined : Joined Part) {Good : α → Prop} {opening closing : Char}
    {content : Rule α} (whole : ∀ inner, Part inner → Part (opening :: (inner ++ [closing])))
    (blank : ∀ gap : List Char, (∀ c ∈ gap, isBlank c = true) → Part gap) (good : content.Reads Part Good) :
    (enclosed opening closing content).Reads Part Good := by
  -- The signs themselves need not have the property.
  have all (expected : List Char) : (exactly expected).Reads (· = expected) fun _ => True := reads_exactly rfl
  intro text value rest done
  obtain ⟨_, inside, opens, done⟩ := done_of_bind done
  obtain ⟨_, start, skipped, done⟩ := done_of_bind done
  obtain ⟨read, behind, here, done⟩ := done_of_bind done
  obtain ⟨_, stop, skipped', done⟩ := done_of_bind done
  obtain ⟨_, left, closes, done⟩ := done_of_bind done
  cases done
  obtain ⟨_, rfl, rfl, _⟩ := all _ _ _ _ opens
  obtain ⟨gap, rfl, part, _⟩ := reads_blanks blank _ _ _ skipped
  obtain ⟨inner, rfl, part', fits⟩ := good _ _ _ here
  obtain ⟨gap', rfl, part'', _⟩ := reads_blanks blank _ _ _ skipped'
  obtain ⟨_, rfl, rfl, _⟩ := all _ _ _ _ closes
  have inner := joined.append part (joined.append part' part'')
  exact ⟨_, by simp, whole _ inner, fits⟩

/-- How often a step can be taken does not matter if there are turns for every character. -/
theorem steps_eq {step : α → Rule (Option α)}
    (shrinks : ∀ value text next rest, step value text = .done (some next) rest → rest.length < text.length)
    (ends : ∀ value, step value [] = .done none []) {turns turns' : Nat} {value : α} {text : List Char}
    (ample : text.length ≤ turns) (ample' : text.length ≤ turns') :
    steps step turns value text = steps step turns' value text := by
  -- With no text left, either bound lets the loop end as it should.
  have spent (turns : Nat) (value : α) : steps step turns value [] = .done value [] := by
    cases turns with
    | zero => rfl
    | succ turns =>
      change andThen (step value) _ [] = _
      rw [andThen, ends]
      rfl
  induction turns generalizing turns' value text with
  | zero =>
    obtain rfl := List.eq_nil_of_length_eq_zero (Nat.le_zero.mp ample)
    rw [spent, spent]
  | succ turns same =>
    cases turns' with
    | zero =>
      obtain rfl := List.eq_nil_of_length_eq_zero (Nat.le_zero.mp ample')
      rw [spent, spent]
    | succ turns' =>
      change andThen (step value) _ text = andThen (step value) _ text
      unfold andThen
      cases outcome : step value text with
      | done longer rest =>
        cases longer with
        | none => rfl
        | some next =>
          have less := shrinks value text next rest outcome
          exact same (by omega) (by omega)
      | refused rest => rfl
      | failed rest => rfl

/-- How many further elements can be read does not matter if there are turns for every character. -/
theorem moreElements_eq {separator : Rule Unit} {element : Rule α}
    (shrinks : ∀ text value rest, (do separator; element : Rule α) text = .done value rest → rest.length < text.length)
    (ends : ∃ rest, separator [] = .refused rest) {turns turns' : Nat} {text : List Char}
    (ample : text.length ≤ turns) (ample' : text.length ≤ turns') :
    moreElements separator element turns text = moreElements separator element turns' text := by
  -- With no text left, either bound lets the loop end as it should.
  have spent (turns : Nat) : moreElements separator element turns [] = .done [] [] := by
    obtain ⟨rest, refused⟩ := ends
    cases turns with
    | zero => rfl
    | succ turns => simp only [moreElements, refused]
  induction turns generalizing turns' text with
  | zero =>
    obtain rfl := List.eq_nil_of_length_eq_zero (Nat.le_zero.mp ample)
    rw [spent, spent]
  | succ turns same =>
    cases turns' with
    | zero =>
      obtain rfl := List.eq_nil_of_length_eq_zero (Nat.le_zero.mp ample')
      rw [spent, spent]
    | succ turns' =>
      rw [moreElements_succ, moreElements_succ]
      change andThen (optional _) _ text = andThen (optional _) _ text
      unfold andThen optional
      cases outcome : (do separator; element : Rule α) text with
      | done value rest =>
        have less := shrinks text value rest outcome
        have others : moreElements separator element turns rest = moreElements separator element turns' rest :=
          same (by omega) (by omega)
        change andThen (moreElements separator element turns) _ rest = andThen (moreElements separator element turns') _ rest
        rw [andThen, andThen, others]
      | refused rest => rfl
      | failed rest => rfl

end Rule

end Phrasebook
