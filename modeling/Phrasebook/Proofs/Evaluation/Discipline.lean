import Phrasebook.Proofs.Evaluation.Expansions
import Phrasebook.Proofs.Evaluation.Runs

/-! Whatever a run does, it gives back the frames it has found and never enters a running template again. -/

namespace Phrasebook

namespace CallStack

/-- The results that the innermost running template keeps. -/
def memo (stack : CallStack) : Memo :=
  -- Outside any template nothing is kept.
  match stack.frames with
  | frame :: _ => frame.memo
  | [] => []

/-- The running templates have different names, all of them in a registry. -/
structure Sound (registry : Registry) (stack : CallStack) : Prop where
  /-- No template runs twice at once. -/
  distinct : stack.names.Nodup
  /-- Only templates of the registry run. -/
  known : ∀ name ∈ stack.names, name ∈ SortedMap.keys registry

/-- The frames of a stack are still there, and at most the innermost one keeps more results. -/
structure KeptIn (before after : CallStack) : Prop where
  /-- The same templates run. -/
  names : after.names = before.names
  /-- All frames but the innermost are as they were. -/
  beneath : after.frames.tail = before.frames.tail
  /-- The innermost frame keeps what it has kept. -/
  memo : before.memo <:+ after.memo
  /-- Whether results are kept has not changed. -/
  memoized : after.memoized = before.memoized

/-- A stack that is left alone has its own frames. -/
theorem KeptIn.refl (stack : CallStack) : stack.KeptIn stack :=
  ⟨rfl, rfl, List.suffix_rfl, rfl⟩

/-- Frames that are kept twice are kept. -/
theorem KeptIn.trans {first second third : CallStack} (earlier : first.KeptIn second) (later : second.KeptIn third) :
    first.KeptIn third :=
  ⟨later.names.trans earlier.names, later.beneath.trans earlier.beneath, earlier.memo.trans later.memo,
    later.memoized.trans earlier.memoized⟩

/-- Keeping a result keeps the frames. -/
theorem keptIn_store (stack : CallStack) (key : MemoKey) (value : Value) : stack.KeptIn (stack.store key value) := by
  refine ⟨names_store stack key value, ?_, ?_, ?_⟩ <;> unfold store
  · split
    · split <;> simp_all
    · rfl
  · split
    · split <;> simp_all [memo]
    · exact List.suffix_rfl
  · split
    · split <;> simp_all
    · rfl

/-- What is kept above a new frame is what was there before it. -/
theorem pop_eq_of_keptIn_push {stack after : CallStack} {name : String} (kept : (stack.push name).KeptIn after) :
    after.pop = stack := by
  -- The frames beneath the innermost have not changed.
  obtain ⟨frames, memoized⟩ := stack
  obtain ⟨frames', memoized'⟩ := after
  have beneath := kept.beneath
  have same := kept.memoized
  simp_all [push, pop]

/-- The stack of a sound run is no higher than its registry is long. -/
theorem Sound.length_le {registry : Registry} {stack : CallStack} (sound : stack.Sound registry) :
    stack.names.length ≤ registry.length :=
  -- Different names take up different places of the registry.
  SortedMap.length_le_of_subset_keys sound.distinct sound.known

/-- A template that does not run yet may start to. -/
theorem Sound.push {registry : Registry} {stack : CallStack} (sound : stack.Sound registry) {name : String}
    (fresh : name ∉ stack.names) (known : name ∈ SortedMap.keys registry) : (stack.push name).Sound registry := by
  constructor
  · exact List.nodup_cons.mpr ⟨fresh, sound.distinct⟩
  · intro other inside
    rcases List.mem_cons.mp inside with rfl | inside
    · exact known
    · exact sound.known other inside

/-- A stack whose frames are kept stays sound. -/
theorem Sound.keptIn {registry : Registry} {before after : CallStack} (sound : before.Sound registry)
    (kept : before.KeptIn after) : after.Sound registry := by
  -- Only the names matter.
  obtain ⟨distinct, known⟩ := sound
  rw [← kept.names] at distinct known
  exact ⟨distinct, known⟩

end CallStack

/-- What a run is held to. -/
structure Discipline where
  /-- The templates that may run. -/
  registry : Registry
  /-- How deeply calls may nest. -/
  limit : Nat
  /-- Whether a run is compared with a plain one even if a call is refused for being nested too deeply. -/
  exact : Prop
  /-- The errors that may occur. -/
  may : TemplateError → Prop
  /-- All of them but loops and refusals may always occur. -/
  others : ∀ error, (∀ chain, error ≠ .loop chain) → error ≠ .unfinished → may error

namespace Discipline

variable {α β γ δ : Type} (discipline : Discipline)

/-- The discipline under which calls need not finish. -/
def relaxed (discipline : Discipline) : Discipline :=
  -- No bound leaves room for any template.
  { discipline with limit := 0 }

/-- A run may report loops of the stacks on its way, and refusals if it has refused a call. -/
structure Admits (start : CallStack) (events : List Event) : Prop where
  /-- A loop is a stack and a name on it. -/
  loops : ∀ stack, stack = start ∨ .moment stack ∈ events → ∀ name ∈ stack.names,
    discipline.may (.loop (stack.names.reverse ++ [name]))
  /-- A refusal is taken down. -/
  refusals : .exhausted ∈ events → discipline.may .unfinished

/-- A recorded run keeps to a discipline, and a plain run comes to the same. -/
structure Observed (Agree : α → β → Prop) (start : CallStack) (recorded : Trace α) (plain : Ending β) : Prop where
  /-- The frames are given back. -/
  frames : start.KeptIn recorded.stack
  /-- The last stack is the first one or has been taken down. -/
  reached : recorded.stack = start ∨ .moment recorded.stack ∈ recorded.events
  /-- Every stack on the way stands on the first one and is sound. -/
  moments : ∀ stack, .moment stack ∈ recorded.events → stack.Sound discipline.registry ∧ start.names <:+ stack.names
  /-- Every value has one that agrees with it. -/
  agreed : ∀ value, recorded.result = .ok value → ∃ other, Agree value other
  /-- Every error is one that may occur. -/
  errors : ∀ error, recorded.result = .error error → discipline.may error
  /-- No call is refused as long as the bound leaves room for all templates and nothing from outside is used. -/
  finishes : discipline.registry.length < discipline.limit + start.names.length →
    .exhausted ∈ recorded.events → .outside ∈ recorded.events
  /-- The plain run comes to the same. -/
  same : discipline.exact ∨ .exhausted ∉ recorded.events →
    ResultsAgree Agree recorded.result plain.result ∧ plain.stack = recorded.stack ∧ plain.left = recorded.left

/-- From a stack, a recorded computation keeps to a discipline and does what a plain one does. -/
def Keeps (start : CallStack) (Agree : α → β → Prop) (recorded : Recorded α) (plain : Evaluation β) : Prop :=
  -- The errors that may occur are told by the whole run.
  ∀ picks, discipline.Admits start (recorded.trace start picks).events →
    discipline.Observed Agree start (recorded.trace start picks) (plain.ending start picks)

variable {discipline} {start : CallStack}

/-- A part of a run admits what the whole run does. -/
theorem Admits.part {now : CallStack} {events events' : List Event} (admits : discipline.Admits start events)
    (reached : now = start ∨ .moment now ∈ events) (within : ∀ event ∈ events', event ∈ events) :
    discipline.Admits now events' := by
  refine ⟨fun stack later => admits.loops stack ?_, fun refused => admits.refusals (within _ refused)⟩
  rcases later with rfl | inside
  · exact reached
  · exact .inr (within _ inside)

/-- A value that is given at once keeps to every discipline. -/
theorem keeps_pure {Agree : α → β → Prop} {value₁ : α} {value₂ : β} (agree : Agree value₁ value₂) :
    discipline.Keeps start Agree (pure value₁) (pure value₂) := by
  intro picks _
  simp only [Recorded.trace_pure, Evaluation.ending_pure]
  refine ⟨.refl start, .inl rfl, by simp, ?_, by simp, by simp, fun _ => ⟨.ok agree, rfl, rfl⟩⟩
  rintro _ ⟨rfl⟩
  exact ⟨value₂, agree⟩

/-- A failure keeps to a discipline if it may occur. -/
theorem keeps_fail {Agree : α → β → Prop} {error : TemplateError} (occurs : discipline.may error) :
    discipline.Keeps start Agree (Evaluating.fail error) (Evaluating.fail error) := by
  intro picks _
  simp only [Recorded.trace_fail, Evaluation.ending_fail]
  refine ⟨.refl start, .inl rfl, by simp, by simp, ?_, by simp, fun _ => ⟨.error error, rfl, rfl⟩⟩
  rintro _ ⟨rfl⟩
  exact occurs

/-- A failure of a first computation is one of both. -/
theorem Observed.of_error {Agree : α → β → Prop} {Goal : γ → δ → Prop} {error : TemplateError} {now : CallStack}
    {left picks : List Nat} {events : List Event} {first : Evaluation β} {next : β → Evaluation δ}
    (done : discipline.Observed Agree start ⟨⟨.error error, now, left⟩, events⟩ (first.ending start picks)) :
    discipline.Observed Goal start ⟨⟨.error error, now, left⟩, events⟩
      ((first >>= next : Evaluation δ).ending start picks) := by
  refine ⟨done.frames, done.reached, done.moments, by simp, ?_, done.finishes, fun told => ?_⟩
  · rintro _ ⟨rfl⟩
    exact done.errors error rfl
  obtain ⟨agree, kept, unused⟩ := done.same told
  rw [Evaluation.ending_bind]
  cases plain : first.ending start picks with | mk result' now' left' =>
  rw [plain] at agree kept unused
  cases agree with
  | error error => exact ⟨.error error, kept, unused⟩

/-- A run that goes on where another one has ended keeps to a discipline if both do. -/
theorem Observed.andThen {Agree : α → β → Prop} {Goal : γ → δ → Prop} {value : α} {now : CallStack} {left picks : List Nat}
    {events : List Event} {first : Evaluation β} {next : β → Evaluation δ} {later : Trace γ}
    (done : discipline.Observed Agree start ⟨⟨.ok value, now, left⟩, events⟩ (first.ending start picks))
    (further : ∀ other, Agree value other → discipline.Observed Goal now later ((next other).ending now left)) :
    discipline.Observed Goal start ⟨later.toEnding, events ++ later.events⟩
      ((first >>= next : Evaluation δ).ending start picks) := by
  obtain ⟨other, agree⟩ := done.agreed value rfl
  have onward := further other agree
  have height : now.names = start.names := done.frames.names
  refine ⟨done.frames.trans onward.frames, ?_, ?_, onward.agreed, onward.errors, ?_, ?_⟩
  · rcases onward.reached with still | later
    · rcases (done.reached : now = start ∨ .moment now ∈ events) with same | earlier
      · exact .inl (still.trans same)
      · rw [still]
        exact .inr (List.mem_append_left _ earlier)
    · exact .inr (List.mem_append_right _ later)
  · intro stack inside
    rcases List.mem_append.mp inside with inside | inside
    · exact done.moments stack inside
    · obtain ⟨sound, stands⟩ := onward.moments stack inside
      exact ⟨sound, height ▸ stands⟩
  · intro room refused
    rcases List.mem_append.mp refused with refused | refused
    · exact List.mem_append_left _ (done.finishes room refused)
    · exact List.mem_append_right _ (onward.finishes (by rw [height]; exact room) refused)
  · intro told
    obtain ⟨agree', kept, unused⟩ := done.same (told.imp_right fun quiet refused =>
      quiet (List.mem_append_left _ refused))
    rw [Evaluation.ending_bind]
    cases plain : first.ending start picks with | mk result' now' left' =>
    rw [plain] at agree' kept unused
    obtain rfl : now' = now := kept
    obtain rfl : left' = left := unused
    cases agree' with
    | ok agree' =>
      exact (further _ agree').same (told.imp_right fun quiet refused => quiet (List.mem_append_right _ refused))

/-- Computations that keep to a discipline one after another keep to it together. -/
theorem keeps_bind {Agree : α → β → Prop} {Goal : γ → δ → Prop} {first₁ : Recorded α} {first₂ : Evaluation β}
    {next₁ : α → Recorded γ} {next₂ : β → Evaluation δ} (first : discipline.Keeps start Agree first₁ first₂)
    (next : ∀ now value₁ value₂, start.KeptIn now → Agree value₁ value₂ →
      discipline.Keeps now Goal (next₁ value₁) (next₂ value₂)) :
    discipline.Keeps start Goal (first₁ >>= next₁) (first₂ >>= next₂) := by
  intro picks admits
  rw [Recorded.trace_bind] at admits ⊢
  have early := first picks
  cases recorded : first₁.trace start picks with | mk ending events =>
  obtain ⟨result, now, left⟩ := ending
  rw [recorded] at admits early
  cases result with
  | error error => exact (early admits).of_error
  | ok value =>
    -- Each of the two parts of the run admits what the whole run does.
    have done := early (admits.part (.inl rfl) fun event inside => List.mem_append_left _ inside)
    have reached : now = start ∨ .moment now ∈ events := done.reached
    exact done.andThen fun other agree => next now value other done.frames agree left (admits.part
      (reached.imp_right (List.mem_append_left _)) fun event inside => List.mem_append_right _ inside)

/-- Nothing comes after a failure. -/
theorem keeps_fail_bind {Goal : γ → δ → Prop} {error : TemplateError} (occurs : discipline.may error)
    {next₁ : α → Recorded γ} {next₂ : α → Evaluation δ} :
    discipline.Keeps start Goal (Evaluating.fail error >>= next₁) (Evaluating.fail error >>= next₂) := by
  -- The failure has no value to go on with.
  have failed : discipline.Keeps start (fun _ _ : α => False) (Evaluating.fail error) (Evaluating.fail error) :=
    keeps_fail occurs
  exact keeps_bind failed fun _ _ _ _ none => none.elim

/-- From every sound stack, keeping to a discipline is respected by doing one after another. -/
def congruence (discipline : Discipline) : Congruence Recorded Evaluation where
  Related Agree recorded plain :=
    ∀ start : CallStack, start.Sound discipline.registry → discipline.Keeps start Agree recorded plain
  done agree _ _ := keeps_pure agree
  andThen first next start sound :=
    keeps_bind (first start sound) fun now value₁ value₂ kept agree =>
      next value₁ value₂ agree now (sound.keptIn kept)

/-- A failure that is handed on as a value is an error that may occur, even if no failure with it may. -/
theorem keeps_attempt {may : TemplateError → Prop}
    {others : ∀ error, (∀ chain, error ≠ .loop chain) → error ≠ .unfinished → may error}
    {body₁ : Recorded α} {body₂ : Evaluation α}
    (admitted : ∀ events, discipline.Admits start events → { discipline with may, others }.Admits start events)
    (body : { discipline with may, others }.Keeps start (· = ·) body₁ body₂) :
    discipline.Keeps start (fun result₁ result₂ => result₁ = result₂ ∧ ∀ error, result₁ = .error error → may error)
      (Evaluating.attempt body₁) (Evaluating.attempt body₂) := by
  intro picks admits
  simp only [Recorded.trace_attempt, Evaluation.ending_attempt] at admits ⊢
  have done := body picks (admitted _ admits)
  refine ⟨done.frames, done.reached, done.moments, ?_, by simp, done.finishes, fun told => ?_⟩
  · rintro _ ⟨rfl⟩
    exact ⟨_, rfl, done.errors⟩
  · obtain ⟨agree, kept, unused⟩ := done.same told
    exact ⟨.ok ⟨agree.eq, done.errors⟩, kept, unused⟩

/-- Looking at the stack shows where a run stands. -/
theorem keeps_stack : discipline.Keeps start (fun stack₁ stack₂ => stack₁ = start ∧ stack₂ = start)
    (Evaluating.stack : Recorded CallStack) (Evaluating.stack : Evaluation CallStack) := by
  intro picks _
  simp only [Recorded.trace_stack, Evaluation.ending_stack]
  refine ⟨.refl start, .inl rfl, by simp, ?_, by simp, by simp, fun _ => ⟨.ok ⟨rfl, rfl⟩, rfl, rfl⟩⟩
  rintro _ ⟨rfl⟩
  exact ⟨start, rfl, rfl⟩

/-- A change of the stack that keeps its frames keeps to every discipline. -/
theorem keeps_change (sound : start.Sound discipline.registry) {update : CallStack → CallStack}
    (kept : start.KeptIn (update start)) :
    discipline.Keeps start (· = ·) (Evaluating.change update : Recorded Unit) (Evaluating.change update) := by
  intro picks _
  rw [Recorded.trace_change, Evaluation.ending_change]
  refine ⟨kept, .inr (by simp), ?_, fun value _ => ⟨value, rfl⟩, by simp, by simp, fun _ => ⟨.ok rfl, rfl, rfl⟩⟩
  intro stack inside
  obtain rfl : stack = update start := by simpa using inside
  exact ⟨sound.keptIn kept, kept.names ▸ List.suffix_rfl⟩

/-- A pick keeps to every discipline, and takes one of the alternatives. -/
theorem keeps_pickOne (alternatives : List α) :
    discipline.Keeps start (fun pick₁ pick₂ => pick₁ = pick₂ ∧ ∀ alternative, pick₁ = some alternative →
      alternative ∈ alternatives) (Evaluating.pickOne alternatives) (Evaluating.pickOne alternatives) := by
  intro picks _
  simp only [Recorded.trace_pickOne, Evaluation.ending_pickOne]
  have inside : ∀ alternative, (pickAmong alternatives picks).1 = some alternative → alternative ∈ alternatives :=
    fun _ => mem_of_pickAmong
  refine ⟨.refl start, .inl rfl, by simp, ?_, by simp, by simp, fun _ => ⟨.ok ⟨rfl, inside⟩, rfl, rfl⟩⟩
  rintro _ ⟨rfl⟩
  exact ⟨_, rfl, inside⟩

/-- What comes after something from outside need not finish. -/
theorem keeps_outside {Agree : α → β → Prop} {next₁ : Recorded α} {next₂ : Evaluation β}
    (next : discipline.relaxed.Keeps start Agree next₁ next₂) :
    discipline.Keeps start Agree (Evaluating.outside >>= fun _ => next₁) (Evaluating.outside >>= fun _ => next₂) := by
  intro picks admits
  rw [Recorded.trace_bind, Recorded.trace_outside] at admits ⊢
  rw [Evaluation.ending_bind, Evaluation.ending_outside]
  have done := next picks ⟨fun stack later => admits.loops stack (later.imp_right (List.mem_append_right _)),
    fun refused => admits.refusals (List.mem_append_right _ refused)⟩
  refine ⟨done.frames, ?_, ?_, done.agreed, done.errors, fun _ _ => by simp, fun told => ?_⟩
  · exact done.reached.imp_right (List.mem_append_right _)
  · intro stack inside
    exact done.moments stack (by simpa using inside)
  · exact done.same (told.imp_right fun quiet refused => quiet (List.mem_append_right _ refused))

/-- A computation on a stack of its own only shows in its result, and need not finish. -/
theorem keeps_isolated {inner : Discipline} {body₁ : Recorded α} {body₂ : Evaluation α}
    (exact : inner.exact = discipline.exact) (may : ∀ error, discipline.may error ∨ (∃ chain, error = .loop chain) → inner.may error)
    (body : inner.Keeps {} (· = ·) body₁ body₂) :
    discipline.Keeps start (fun result₁ result₂ => result₁ = result₂ ∧ ∀ error, result₁ = .error error → inner.may error)
      (Evaluating.isolated body₁) (Evaluating.isolated body₂) := by
  intro picks admits
  simp only [Recorded.trace_isolated, Evaluation.ending_isolated] at admits ⊢
  have refused (inside : .exhausted ∈ (body₁.trace {} picks).events) :
      Event.exhausted ∈ .outside :: (body₁.trace {} picks).events.filter Event.isExhausted :=
    List.mem_cons_of_mem _ (List.mem_filter.mpr ⟨inside, rfl⟩)
  have done := body picks ⟨fun stack _ name _ => may _ (.inr ⟨_, rfl⟩), fun inside =>
    may _ (.inl (admits.refusals (refused inside)))⟩
  refine ⟨.refl start, .inl rfl, by simp [Event.isExhausted], ?_, by simp, fun _ _ => by simp, fun told => ?_⟩
  · rintro _ ⟨rfl⟩
    exact ⟨_, rfl, done.errors⟩
  · obtain ⟨agree, _, unused⟩ := done.same (by
      rw [exact]
      exact told.imp_right fun quiet inside => quiet (refused inside))
    exact ⟨.ok ⟨agree.eq, done.errors⟩, rfl, unused⟩

/-- The discipline of a template whose own calls are held to a given one. -/
def deeper (discipline : Discipline) : Discipline :=
  -- Running the template takes up one level.
  { discipline with limit := discipline.limit + 1 }

/-- A running template that is called again is reported with the stack. -/
theorem keeps_checkLoop (name : String) :
    discipline.Keeps start (fun _ _ => name ∉ start.names)
      (Evaluating.checkLoop name : Recorded Unit) (Evaluating.checkLoop name : Evaluation Unit) := by
  refine keeps_bind keeps_stack ?_
  rintro now _ seen kept ⟨rfl, rfl⟩
  by_cases running : name ∈ seen.names
  · rw [if_pos (by simpa using running), if_pos (by simpa using running), ← kept.names]
    intro picks admits
    exact keeps_fail (admits.loops now (.inl rfl) name (kept.names ▸ running)) picks admits
  · rw [if_neg (by simpa using running), if_neg (by simpa using running)]
    exact keeps_pure running

/-- A refused call keeps to a discipline that allows for no nested calls. -/
theorem keeps_refuse {Agree : α → β → Prop} {plain : Evaluation β} (sound : start.Sound discipline.registry)
    (used : discipline.limit = 0) (same : discipline.exact → plain = Evaluating.refuse) :
    discipline.Keeps start Agree Evaluating.refuse plain := by
  intro picks admits
  rw [Recorded.trace_refuse] at admits ⊢
  refine ⟨.refl start, .inl rfl, by simp, by simp, ?_, fun room => ?_, fun told => ?_⟩
  · rintro _ ⟨rfl⟩
    exact admits.refusals (by simp)
  · -- The stack is no higher than the registry is long.
    have height := sound.length_le
    omega
  · rcases told with exact | quiet
    · rw [same exact, Evaluation.ending_refuse]
      exact ⟨.error _, rfl, rfl⟩
    · exact absurd (by simp) quiet

/-- A frame is gone after the computation inside it, whose calls have had one level less. -/
theorem keeps_withFrame {name : String} {body₁ : Recorded α} {body₂ : Evaluation α}
    (sound : start.Sound discipline.registry) (fresh : name ∉ start.names)
    (known : name ∈ SortedMap.keys discipline.registry)
    (body : discipline.Keeps (start.push name) (· = ·) body₁ body₂) :
    discipline.deeper.Keeps start (· = ·)
      (Evaluating.withFrame name body₁) (Evaluating.withFrame name body₂) := by
  intro picks
  have recorded : (Evaluating.withFrame name body₁).trace start picks =
      ⟨⟨(body₁.trace (start.push name) picks).result, (body₁.trace (start.push name) picks).stack.pop,
          (body₁.trace (start.push name) picks).left⟩,
        .moment (start.push name) :: (body₁.trace (start.push name) picks).events ++
          [.moment (body₁.trace (start.push name) picks).stack.pop]⟩ := by
    simp only [Evaluating.withFrame, Recorded.trace_bind, Recorded.trace_change, Recorded.trace_attempt,
      Recorded.trace_ofExcept, List.append_nil, List.cons_append, List.nil_append]
  rw [recorded, Evaluation.ending_withFrame]
  intro admits
  have done := body picks ⟨fun stack later => admits.loops stack ?_, fun refused => admits.refusals (by simp [refused])⟩
  · -- The frames beneath the new one are those that were there before.
    have back := CallStack.pop_eq_of_keptIn_push done.frames
    rw [back]
    refine ⟨.refl start, .inl rfl, ?_, fun value _ => ⟨value, rfl⟩, done.errors, fun room refused => ?_, fun told => ?_⟩
    · intro stack inside
      simp only [List.cons_append, List.mem_cons, List.mem_append, List.not_mem_nil, or_false, Event.moment.injEq] at inside
      rcases inside with rfl | inside | rfl
      · exact ⟨sound.push fresh known, List.suffix_cons name start.names⟩
      · obtain ⟨sound', stands⟩ := done.moments stack inside
        exact ⟨sound', (List.suffix_cons name start.names).trans stands⟩
      · exact ⟨sound, List.suffix_rfl⟩
    · have roomy : discipline.registry.length < discipline.limit + 1 + start.names.length := room
      have deeper : discipline.registry.length < discipline.limit + (start.push name).names.length := by
        simp only [CallStack.names_push, List.length_cons]
        omega
      have inner : .exhausted ∈ (body₁.trace (start.push name) picks).events := by simpa using refused
      simp [done.finishes deeper inner]
    · obtain ⟨agree, kept, unused⟩ := done.same (told.imp_right fun quiet refused => quiet (by simp [refused]))
      exact ⟨agree, by rw [kept, back], unused⟩
  · rcases later with rfl | inside
    · exact .inr (by simp)
    · exact .inr (by simp [inside])

end Discipline

end Phrasebook
