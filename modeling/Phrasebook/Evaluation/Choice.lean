/-! A random computation is a tree: every inner node picks one of finitely many branches. -/

namespace Phrasebook

/-- A computation that picks among alternatives; its leaves are its possible results. -/
inductive Choice (α : Type) where
  /-- The computation is over. -/
  | done (result : α)
  /-- One of several alternatives is picked, numbered from zero up to the last. -/
  | pick (last : Nat) (next : Fin (last + 1) → Choice α)

namespace Choice

/-- One computation after another. -/
def andThen {α β : Type} : Choice α → (α → Choice β) → Choice β
  -- The second computation grows on every leaf of the first.
  | .done result, next => next result
  | .pick last branch, next => .pick last fun index => andThen (branch index) next

instance : Monad Choice where
  pure := .done
  bind := andThen

/-- Doing nothing first changes nothing. -/
@[simp] theorem pure_andThen {α β : Type} (result : α) (next : α → Choice β) :
    (pure result : Choice α).andThen next = next result :=
  -- The second computation grows on the only leaf.
  rfl

/-- Doing nothing last changes nothing. -/
@[simp] theorem andThen_pure {α : Type} (choice : Choice α) : choice.andThen pure = choice := by
  -- Every leaf is replaced by itself.
  induction choice with
  | done => rfl
  | pick last branch grown => simp only [andThen, grown]

/-- The order in which three computations are put together does not matter. -/
theorem andThen_assoc {α β γ : Type} (choice : Choice α) (next : α → Choice β) (last : β → Choice γ) :
    (choice.andThen next).andThen last = choice.andThen fun result => (next result).andThen last := by
  -- At a leaf both sides are the second computation followed by the third.
  induction choice with
  | done => rfl
  | pick bound branch grown => simp only [andThen, grown]

instance : LawfulMonad Choice := LawfulMonad.mk' Choice
  -- Growing on leaves is all there is to the laws.
  (fun choice => andThen_pure choice)
  (fun _ _ => rfl)
  (fun choice next last => andThen_assoc choice next last)

/-- All possible results, earlier picks varying slowest. -/
def leaves {α : Type} : Choice α → List α
  -- A result may occur more than once.
  | .done result => [result]
  | .pick last branch => (List.finRange (last + 1)).flatMap fun index => leaves (branch index)

/-- The results of two computations in a row are those of the second after each result of the first. -/
theorem leaves_andThen {α β : Type} (choice : Choice α) (next : α → Choice β) :
    (choice.andThen next).leaves = choice.leaves.flatMap fun result => (next result).leaves := by
  -- Flattening twice is flattening once.
  induction choice with
  | done => simp [andThen, leaves]
  | pick last branch grown => simp [andThen, leaves, grown, List.flatMap_assoc]

/-- The result under a list of picks, and the picks left over; missing picks are zero. -/
def run {α : Type} : Choice α → List Nat → α × List Nat
  -- Too large a pick is taken modulo the number of alternatives.
  | .done result, picks => (result, picks)
  | .pick last branch, picks =>
    run (branch (Fin.ofNat (last + 1) (picks.headD 0))) picks.tail

/-- Two computations in a row share one list of picks. -/
theorem run_andThen {α β : Type} (choice : Choice α) (next : α → Choice β) (picks : List Nat) :
    (choice.andThen next).run picks = (next (choice.run picks).1).run (choice.run picks).2 := by
  -- Each pick is used up before the branch it leads to goes on.
  induction choice generalizing picks with
  | done => rfl
  | pick last branch grown => simp only [andThen, run, grown]

/-- What a list of picks leads to is a possible result. -/
theorem run_mem_leaves {α : Type} (choice : Choice α) (picks : List Nat) :
    (choice.run picks).1 ∈ choice.leaves := by
  -- The branch that is picked is one of those listed.
  induction choice generalizing picks with
  | done => simp [run, leaves]
  | pick last branch grown =>
    simp only [run, leaves, List.mem_flatMap]
    exact ⟨_, List.mem_finRange _, grown _ _⟩

/-- The result when the first alternative is picked every time. -/
def first {α : Type} (choice : Choice α) : α :=
  -- No picks at all are as good as zeros.
  (choice.run []).1

/-- The result when every alternative is picked by a generator of random numbers. -/
def sample {α : Type} : Choice α → StdGen → α
  -- Each pick goes on with the generator that the pick before left behind.
  | .done result, _ => result
  | .pick last branch, generator =>
    let (index, generator) := randNat generator 0 last
    sample (branch (Fin.ofNat (last + 1) index)) generator

/-- A computation on one of several alternatives, or a given one if there are none. -/
def among {α β : Type} (alternatives : List α) (none : Choice β) (next : α → Choice β) : Choice β :=
  -- A single alternative needs no pick.
  match alternatives with
  | [] => none
  | [only] => next only
  | head :: second :: rest =>
    .pick (rest.length + 1) fun index => next ((head :: second :: rest).get (index.cast (by simp)))

end Choice

end Phrasebook
