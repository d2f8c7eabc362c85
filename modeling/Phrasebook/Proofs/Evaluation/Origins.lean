import Phrasebook.Proofs.Evaluation.Runs

/-! Errors about expressions tell the template that was running where they were raised. -/

namespace Phrasebook

/-- What a run comes to, and on which stack the error at hand was raised, if there is one. -/
structure LocatedEnding (α : Type) extends Ending α where
  /-- The stack of the error. -/
  origin : Option CallStack

/-- An evaluation that remembers on which stack the error at hand was raised. -/
def Located (α : Type) : Type :=
  -- A run starts from a stack, the origin of an earlier error and a list of picks.
  CallStack → Option CallStack → List Nat → LocatedEnding α

namespace Located

/-- The stack on which an error has been raised that is raised now, perhaps once more. -/
def originOf (error : TemplateError) (now : CallStack) (origin : Option CallStack) : CallStack :=
  -- An expression error without a place is new, and so is every error while none is at hand.
  match error with
  | .expression none _ => now
  | _ => origin.getD now

/-- One computation after another. -/
def andThen {α β : Type} (first : Located α) (next : α → Located β) : Located β := fun stack origin picks =>
  -- Nothing comes after a failure.
  match first stack origin picks with
  | ⟨⟨.ok value, now, left⟩, origin⟩ => next value now origin left
  | ⟨⟨.error error, now, left⟩, origin⟩ => ⟨⟨.error error, now, left⟩, origin⟩

instance : Monad Located where
  pure value := fun stack origin picks => ⟨⟨.ok value, stack, picks⟩, origin⟩
  bind := andThen

instance : LawfulMonad Located := LawfulMonad.mk' Located
  -- A run that fails fails at once.
  (fun body => by
    funext stack origin picks
    change andThen body _ stack origin picks = body stack origin picks
    unfold andThen
    rcases body stack origin picks with ⟨⟨result, now, left⟩, found⟩
    cases result <;> rfl)
  (fun _ _ => rfl)
  (fun body next last => by
    funext stack origin picks
    change andThen (andThen body next) last stack origin picks = andThen body (fun value => andThen (next value) last) stack origin picks
    unfold andThen
    rcases body stack origin picks with ⟨⟨result, now, left⟩, found⟩
    cases result <;> rfl)

instance : Evaluating Located where
  fail error := fun stack origin picks => ⟨⟨.error error, stack, picks⟩, some (originOf error stack origin)⟩
  -- Once a computation has succeeded, no error is at hand.
  attempt body := fun stack origin picks =>
    match body stack origin picks with
    | ⟨⟨.ok value, now, left⟩, _⟩ => ⟨⟨.ok (.ok value), now, left⟩, none⟩
    | ⟨⟨.error error, now, left⟩, origin⟩ => ⟨⟨.ok (.error error), now, left⟩, origin⟩
  stack := fun stack origin picks => ⟨⟨.ok stack, stack, picks⟩, origin⟩
  change update := fun stack origin picks => ⟨⟨.ok (), update stack, picks⟩, origin⟩
  pickOne alternatives := fun stack origin picks =>
    ⟨⟨.ok (pickAmong alternatives picks).1, stack, (pickAmong alternatives picks).2⟩, origin⟩
  -- An error of a computation on a stack of its own is none of this one.
  isolated body := fun stack origin picks => ⟨⟨.ok (body {} none picks).result, stack, (body {} none picks).left⟩, origin⟩
  outside := fun stack origin picks => ⟨⟨.ok (), stack, picks⟩, origin⟩
  refuse := fun stack origin picks => ⟨⟨.error .unfinished, stack, picks⟩, origin⟩

end Located

/-- Whether an error about an expression tells the template that was innermost where it was raised, or, while it has no place
    yet, has been raised in the innermost template. -/
def TemplateError.IsFrom (error : TemplateError) (origin : Option CallStack) (now : CallStack) : Prop :=
  -- Nothing is asked of other errors.
  match error with
  | .expression none _ => ∃ raised, origin = some raised ∧ raised.current? = now.current?
  | .expression (some place) _ => ∃ raised name, origin = some raised ∧ raised.current? = some name ∧ place.template = some name
  | _ => True

/-- The innermost running template is the first that is named. -/
theorem CallStack.current?_eq (stack : CallStack) : stack.current? = stack.names.head? := by
  rw [current?, names, List.head?_map]

/-- An error is accounted for from every stack with the same templates. -/
theorem TemplateError.IsFrom.of_names {error : TemplateError} {origin : Option CallStack} {now later : CallStack}
    (found : error.IsFrom origin now) (names : later.names = now.names) : error.IsFrom origin later := by
  unfold IsFrom at *
  rw [CallStack.current?_eq later, names, ← CallStack.current?_eq now]
  exact found

/-- What a located run comes to is what a plain one does, and its error is accounted for where this is asked for. -/
structure Tracks {α β : Type} (asked : Prop) (bare : Cause → Prop) (Agree : α → β → Prop) (start : CallStack)
    (located : LocatedEnding α) (plain : Ending β) : Prop where
  /-- The results agree. -/
  agree : ResultsAgree Agree located.result plain.result
  /-- The same stack is left behind. -/
  stack : plain.stack = located.stack
  /-- The same picks are left over. -/
  left : plain.left = located.left
  /-- The same templates are running as at the start. -/
  names : located.stack.names = start.names
  /-- An error without a place has a cause that may lack one. -/
  bare : ∀ cause, located.result = .error (.expression none cause) → bare cause
  /-- The error is accounted for. -/
  found : asked → ∀ error, located.result = .error error → error.IsFrom located.origin start

/-- What follows with equal values comes to the same. -/
theorem Tracks.ending_eq {α : Type} {asked : Prop} {bare : Cause → Prop} {start : CallStack} {located : LocatedEnding α}
    {plain : Ending α} (follows : Tracks asked bare (· = ·) start located plain) : located.toEnding = plain := by
  obtain ⟨agree, stack, left, _, _, _⟩ := follows
  obtain ⟨⟨result, now, rest⟩, raised⟩ := located
  obtain ⟨result', _, _⟩ := plain
  cases stack
  cases left
  cases agree.eq
  rfl

section Tracks

variable {α β γ δ : Type} {asked : Prop} {bare : Cause → Prop} {start : CallStack} {origin : Option CallStack}
  {picks : List Nat}

/-- A value is given at once. -/
theorem tracks_pure {Agree : α → β → Prop} {value₁ : α} {value₂ : β} (agree : Agree value₁ value₂) :
    Tracks asked bare Agree start ((pure value₁ : Located α) start origin picks)
      ((pure value₂ : Evaluation β).ending start picks) := by
  refine ⟨.ok agree, rfl, rfl, rfl, ?_, ?_⟩
  · intro cause failed
    cases failed
  · intro _ error failed
    cases failed

/-- A failure is accounted for if it is from where it says. -/
theorem tracks_fail {Agree : α → β → Prop} {error : TemplateError}
    (unplaced : ∀ cause, error = .expression none cause → bare cause)
    (found : asked → error.IsFrom (some (Located.originOf error start origin)) start) :
    Tracks asked bare Agree start ((Evaluating.fail error : Located α) start origin picks)
      ((Evaluating.fail error : Evaluation β).ending start picks) := by
  refine ⟨.error error, rfl, rfl, rfl, ?_, ?_⟩
  · rintro cause ⟨⟩
    exact unplaced cause rfl
  · rintro asks _ ⟨⟩
    exact found asks

/-- A failure that is not about an expression needs no account. -/
theorem tracks_fail_other {Agree : α → β → Prop} {error : TemplateError}
    (other : ∀ place cause, error ≠ .expression place cause) :
    Tracks asked bare Agree start ((Evaluating.fail error : Located α) start origin picks)
      ((Evaluating.fail error : Evaluation β).ending start picks) := by
  refine tracks_fail (fun cause same => absurd same (other none cause)) fun _ => ?_
  unfold TemplateError.IsFrom
  split
  · exact absurd rfl (other none _)
  · exact absurd rfl (other _ _)
  · trivial

/-- An expression error without a place is raised in the innermost template. -/
theorem tracks_raise {Agree : α → β → Prop} {cause : Cause} (unplaced : bare cause) :
    Tracks asked bare Agree start ((Evaluating.fail (.expression none cause) : Located α) start origin picks)
      ((Evaluating.fail (.expression none cause) : Evaluation β).ending start picks) := by
  refine tracks_fail ?_ fun _ => ⟨start, rfl, rfl⟩
  rintro _ ⟨⟩
  exact unplaced

/-- Whatever is accounted for is so if less is asked for. -/
theorem Tracks.weaken {asked' : Prop} {bare' : Cause → Prop} {Agree : α → β → Prop} {located : LocatedEnding α} {plain : Ending β}
    (follows : Tracks asked bare Agree start located plain) (asks : asked' → asked) (wider : ∀ cause, bare cause → bare' cause) :
    Tracks asked' bare' Agree start located plain :=
  ⟨follows.agree, follows.stack, follows.left, follows.names, fun cause failed => wider cause (follows.bare cause failed),
    fun asks' => follows.found (asks asks')⟩

/-- What follows from a stack follows from every one with the same running templates. -/
theorem Tracks.of_names {now : CallStack} {Agree : α → β → Prop} {located : LocatedEnding α} {plain : Ending β}
    (follows : Tracks asked bare Agree now located plain) (names : now.names = start.names) :
    Tracks asked bare Agree start located plain :=
  ⟨follows.agree, follows.stack, follows.left, follows.names.trans names, follows.bare,
    fun asks error failed => (follows.found asks error failed).of_names names.symm⟩

/-- Runs that follow each other one after another do so together. -/
theorem tracks_bind {Agree : α → β → Prop} {Goal : γ → δ → Prop} {first₁ : Located α} {first₂ : Evaluation β}
    {next₁ : α → Located γ} {next₂ : β → Evaluation δ}
    (first : Tracks asked bare Agree start (first₁ start origin picks) (first₂.ending start picks))
    (next : ∀ now value₁ value₂ origin picks, now.names = start.names → Agree value₁ value₂ →
      Tracks asked bare Goal now (next₁ value₁ now origin picks) ((next₂ value₂).ending now picks)) :
    Tracks asked bare Goal start ((first₁ >>= next₁) start origin picks) ((first₂ >>= next₂).ending start picks) := by
  change Tracks asked bare Goal start (first₁.andThen next₁ start origin picks) _
  rw [Evaluation.ending_bind, Located.andThen]
  obtain ⟨agree, stack, left, names, unplaced, found⟩ := first
  cases run₁ : first₁ start origin picks with | mk ending₁ raised =>
  cases run₂ : first₂.ending start picks with | mk result₂ now rest =>
  obtain ⟨result₁, _, _⟩ := ending₁
  rw [run₁] at agree stack left names unplaced found
  rw [run₂] at agree stack left
  cases stack
  cases left
  cases agree with
  | error error =>
    refine ⟨.error error, rfl, rfl, names, ?_, ?_⟩
    · rintro cause ⟨⟩
      exact unplaced cause rfl
    · rintro asks _ ⟨⟩
      exact found asks error rfl
  | ok agree => exact (next now _ _ raised rest names agree).of_names names

/-- A failure that is handed on as a value is handled on both sides, and is then still accounted for. -/
theorem tracks_attempt {earlier : Prop} {bare' : Cause → Prop} {Goal : β → γ → Prop} {body₁ : Located α} {body₂ : Evaluation α}
    {next₁ : Except TemplateError α → Located β} {next₂ : Except TemplateError α → Evaluation γ}
    (body : Tracks earlier bare' (· = ·) start (body₁ start origin picks) (body₂.ending start picks))
    (fine : ∀ now value picks, now.names = start.names →
      Tracks asked bare Goal now (next₁ (.ok value) now none picks) ((next₂ (.ok value)).ending now picks))
    (failed : ∀ now error origin picks, now.names = start.names → (earlier → error.IsFrom origin now) →
      Tracks asked bare Goal now (next₁ (.error error) now origin picks) ((next₂ (.error error)).ending now picks)) :
    Tracks asked bare Goal start ((Evaluating.attempt body₁ >>= next₁) start origin picks)
      ((Evaluating.attempt body₂ >>= next₂).ending start picks) := by
  change Tracks asked bare Goal start ((Evaluating.attempt body₁ : Located _).andThen next₁ start origin picks) _
  rw [Evaluation.ending_bind, Evaluation.ending_attempt, Located.andThen]
  obtain ⟨agree, stack, left, names, _, found⟩ := body
  simp only [Evaluating.attempt]
  cases run₁ : body₁ start origin picks with | mk ending₁ raised =>
  cases run₂ : body₂.ending start picks with | mk result₂ now rest =>
  obtain ⟨result₁, _, _⟩ := ending₁
  rw [run₁] at agree stack left names found
  rw [run₂] at agree stack left
  cases stack
  cases left
  cases agree with
  | error error =>
    exact (failed now error raised rest names fun asks => (found asks error rfl).of_names names).of_names names
  | ok same =>
    cases same
    exact (fine now _ rest names).of_names names

/-- Both sides name the same place. -/
theorem tracks_placeOf {site : Site} {Goal : α → β → Prop} {next₁ : Place → Located α} {next₂ : Place → Evaluation β}
    (next : Tracks asked bare Goal start (next₁ ⟨start.current?, site⟩ start origin picks)
      ((next₂ ⟨start.current?, site⟩).ending start picks)) :
    Tracks asked bare Goal start ((Evaluating.placeOf site >>= next₁) start origin picks)
      ((Evaluating.placeOf site >>= next₂).ending start picks) := by
  simp only [Evaluation.ending_bind, Evaluating.placeOf, Evaluation.ending_stack, Evaluation.ending_pure]
  exact next

/-- A result is taken over, and its error needs no account if it is not about an expression. -/
theorem tracks_ofExcept (result : Except TemplateError α) (other : ∀ place cause, result ≠ .error (.expression place cause)) :
    Tracks asked bare (· = ·) start ((Evaluating.ofExcept result : Located α) start origin picks)
      ((Evaluating.ofExcept result : Evaluation α).ending start picks) := by
  cases result with
  | ok value => exact tracks_pure rfl
  | error error => exact tracks_fail_other fun place cause same => other place cause (by rw [same])

/-- Looking at the stack shows where a run stands. -/
theorem tracks_stack : Tracks asked bare (fun stack₁ stack₂ => stack₁ = start ∧ stack₂ = start) start
    ((Evaluating.stack : Located CallStack) start origin picks) ((Evaluating.stack : Evaluation CallStack).ending start picks) := by
  refine ⟨.ok ⟨rfl, rfl⟩, rfl, rfl, rfl, ?_, ?_⟩
  · intro cause failed
    cases failed
  · intro _ error failed
    cases failed

/-- A pick takes one of the alternatives. -/
theorem tracks_pickOne (alternatives : List α) : Tracks asked bare
    (fun pick₁ pick₂ => pick₁ = pick₂ ∧ ∀ alternative, pick₁ = some alternative → alternative ∈ alternatives) start
    ((Evaluating.pickOne alternatives : Located _) start origin picks)
    ((Evaluating.pickOne alternatives : Evaluation _).ending start picks) := by
  rw [Evaluation.ending_pickOne]
  refine ⟨.ok ⟨rfl, fun _ => mem_of_pickAmong⟩, rfl, rfl, rfl, ?_, ?_⟩
  · intro cause failed
    cases failed
  · intro _ error failed
    cases failed

/-- A run on a stack of its own only shows in its result. -/
theorem tracks_isolated {body₁ : Located α} {body₂ : Evaluation α}
    (body : Tracks False (fun _ => True) (· = ·) {} (body₁ {} none picks) (body₂.ending {} picks)) :
    Tracks asked bare (· = ·) start ((Evaluating.isolated body₁ : Located _) start origin picks)
      ((Evaluating.isolated body₂).ending start picks) := by
  rw [Evaluation.ending_isolated]
  refine ⟨.ok body.agree.eq, rfl, body.left, rfl, ?_, ?_⟩
  · intro cause failed
    cases failed
  · intro _ error failed
    cases failed

/-- A refused call is no error about an expression. -/
theorem tracks_refuse {Agree : α → β → Prop} : Tracks asked bare Agree start
    ((Evaluating.refuse : Located α) start origin picks) ((Evaluating.refuse : Evaluation β).ending start picks) := by
  refine ⟨.error _, rfl, rfl, rfl, ?_, ?_⟩
  · intro cause failed
    cases failed
  · rintro _ _ ⟨⟩
    trivial

/-- A result is kept, and the same templates go on running. -/
theorem tracks_store (key : MemoKey) (value : Value) : Tracks asked bare (fun _ _ => True) start
    ((Evaluating.change (·.store key value) : Located Unit) start origin picks)
    ((Evaluating.change (·.store key value) : Evaluation Unit).ending start picks) := by
  refine ⟨.ok trivial, rfl, rfl, CallStack.names_store start key value, ?_, ?_⟩
  · intro cause failed
    cases failed
  · intro _ error failed
    cases failed

/-- A template that is running already is reported. -/
theorem tracks_checkLoop (name : String) : Tracks asked bare (fun _ _ => True) start
    ((Evaluating.checkLoop name : Located Unit) start origin picks)
    ((Evaluating.checkLoop name : Evaluation Unit).ending start picks) := by
  refine tracks_bind tracks_stack ?_
  rintro now _ seen origin picks names ⟨rfl, rfl⟩
  split
  · refine tracks_fail_other ?_
    simp
  · exact tracks_pure trivial

/-- Some template is the innermost one if any is running. -/
theorem CallStack.exists_current (running : start.names ≠ []) : ∃ name, start.current? = some name := by
  obtain ⟨name, rest, names⟩ := List.exists_cons_of_ne_nil running
  exact ⟨name, by rw [current?_eq, names, List.head?_cons]⟩

/-- A failure with a place is accounted for in the innermost template, if no earlier error is at hand. -/
theorem tracks_fail_new {Agree : α → β → Prop} (running : start.names ≠ []) (site : Site) (cause : Cause) :
    Tracks asked bare Agree start
      ((Evaluating.fail (.expression (some ⟨start.current?, site⟩) cause) : Located α) start none picks)
      ((Evaluating.fail (.expression (some ⟨start.current?, site⟩) cause) : Evaluation β).ending start picks) := by
  obtain ⟨name, current⟩ := CallStack.exists_current running
  refine tracks_fail ?_ fun _ => ⟨start, name, rfl, current, current⟩
  rintro _ ⟨⟩

/-- An error that is raised once more, now with a place, stays accounted for. -/
theorem tracks_fail_again {Agree : α → β → Prop} (running : start.names ≠ []) (site : Site) {error : TemplateError}
    (found : asked → error.IsFrom origin start) :
    Tracks asked bare Agree start
      ((Evaluating.fail (error.withPlace ⟨start.current?, site⟩) : Located α) start origin picks)
      ((Evaluating.fail (error.withPlace ⟨start.current?, site⟩) : Evaluation β).ending start picks) := by
  obtain ⟨name, current⟩ := CallStack.exists_current running
  unfold TemplateError.withPlace
  split
  · -- The place is that of the template in which the error has been raised.
    refine tracks_fail ?_ fun asks => ?_
    · rintro _ ⟨⟩
    · obtain ⟨raised, rfl, same⟩ := found asks
      exact ⟨raised, name, rfl, same.trans current, current⟩
  · rename_i placed
    refine tracks_fail (fun cause same => absurd same (placed cause)) fun asks => ?_
    have found := found asks
    unfold TemplateError.IsFrom at found ⊢
    split
    · exact absurd rfl (placed _)
    · obtain ⟨raised, other, rfl, same, here⟩ := found
      exact ⟨raised, other, rfl, same, here⟩
    · trivial

/-- An error that leaves a frame stays accounted for. -/
theorem TemplateError.IsFrom.popped {error : TemplateError} {now : CallStack} (found : error.IsFrom origin now)
    {back : CallStack} (names : back.names = start.names) :
    error.IsFrom (some (Located.originOf error back origin)) start := by
  unfold TemplateError.IsFrom at *
  split
  · exact ⟨back, rfl, by rw [CallStack.current?_eq, names, ← CallStack.current?_eq]⟩
  · obtain ⟨raised, name, rfl, current, place⟩ := found
    exact ⟨raised, name, rfl, current, place⟩
  · trivial

/-- A frame is gone after the run inside it. -/
theorem tracks_withFrame {name : String} {body₁ : Located α} {body₂ : Evaluation α}
    (body : Tracks asked bare (· = ·) (start.push name) (body₁ (start.push name) origin picks)
      (body₂.ending (start.push name) picks)) :
    Tracks asked bare (· = ·) start ((Evaluating.withFrame name body₁ : Located α) start origin picks)
      ((Evaluating.withFrame name body₂).ending start picks) := by
  have entered : (Evaluating.withFrame name body₁ : Located α) start origin picks =
      ((Evaluating.attempt body₁ : Located _).andThen fun result => Evaluating.change CallStack.pop >>= fun _ =>
        Evaluating.ofExcept result) (start.push name) origin picks := rfl
  rw [entered, Evaluation.ending_withFrame, Located.andThen]
  obtain ⟨agree, stack, left, names, unplaced, found⟩ := body
  simp only [Evaluating.attempt]
  cases run₁ : body₁ (start.push name) origin picks with | mk ending₁ raised =>
  cases run₂ : body₂.ending (start.push name) picks with | mk result₂ now rest =>
  obtain ⟨result₁, _, _⟩ := ending₁
  rw [run₁] at agree stack left names unplaced found
  rw [run₂] at agree stack left
  cases stack
  cases left
  have back : now.pop.names = start.names := by
    have same := congrArg List.tail names
    rwa [CallStack.names_push, List.tail_cons, CallStack.names, ← List.map_tail] at same
  cases agree with
  | ok same =>
    cases same
    refine ⟨.ok rfl, rfl, rfl, back, ?_, ?_⟩
    · intro cause failed
      cases failed
    · intro _ error failed
      cases failed
  | error error =>
    refine ⟨.error error, rfl, rfl, back, ?_, ?_⟩
    · rintro cause ⟨⟩
      exact unplaced cause rfl
    · rintro asks _ ⟨⟩
      exact (found asks error rfl).popped back

end Tracks

end Phrasebook
