import Mathlib.Data.List.TakeWhile
import Phrasebook.Reading.Rule

/-! What a rule reads has the properties that its parts give it. -/

namespace Phrasebook

namespace Rule

variable {α β : Type}

/-- Whatever a rule reads has a property. -/
def Gives (rule : Rule α) (Good : α → Prop) : Prop :=
  -- Nothing is asked where the rule gives up.
  ∀ text value rest, rule text = .done value rest → Good value

/-- A rule that reads nothing gives what it is told to. -/
theorem gives_pure {Good : α → Prop} {value : α} (good : Good value) : (pure value : Rule α).Gives Good := by
  intro text read rest reads
  cases reads
  exact good

/-- Two rules in a row give what the second gives after what the first gives. -/
theorem gives_bind {Fair : α → Prop} {Good : β → Prop} {first : Rule α} {next : α → Rule β}
    (fair : first.Gives Fair) (good : ∀ value, Fair value → (next value).Gives Good) :
    (first >>= next).Gives Good := by
  intro text read rest reads
  change andThen first next text = _ at reads
  unfold andThen at reads
  split at reads
  · rename_i value left first
    exact good value (fair text value left first) left read rest reads
  · cases reads
  · cases reads

/-- Where nothing is known of what the first rule gives, the second must do. -/
theorem gives_of_next {Good : β → Prop} {first : Rule α} {next : α → Rule β}
    (good : ∀ value, (next value).Gives Good) : (first >>= next).Gives Good :=
  -- Every value will do.
  gives_bind (fun _ _ _ _ => trivial : first.Gives fun _ => True) fun value _ => good value

/-- An optional part that is there is one that the rule gives. -/
theorem gives_optional {Good : α → Prop} {rule : Rule α} (good : rule.Gives Good) :
    (Rule.optional rule).Gives fun found => ∀ value ∈ found, Good value := by
  intro text found rest reads
  unfold Rule.optional at reads
  split at reads
  · rename_i value left done
    cases reads
    rintro _ ⟨⟩
    exact good text value _ done
  · cases reads
    rintro _ ⟨⟩
  · cases reads

end Rule

/-- Whether a text is an identifier. -/
def IsIdentifier (name : String) : Prop :=
  -- The first character is held to more than the others.
  ∃ first rest, name.toList = first :: rest ∧ startsIdentifier first = true ∧
    ∀ c ∈ rest, continuesIdentifier c = true

/-- An identifier that is read is the front of the text up to the first character that cannot stand in one. -/
theorem exists_of_identifier {text rest : List Char} {name : String} (done : identifier text = .done name rest) :
    ∃ first more, text = first :: more ∧ startsIdentifier first = true ∧
      name = String.ofList (first :: more.takeWhile continuesIdentifier) ∧ rest = more.dropWhile continuesIdentifier := by
  unfold identifier at done
  split at done
  · rename_i first more
    split at done
    · rename_i starts
      cases done
      exact ⟨first, more, rfl, starts, rfl, rfl⟩
    · cases done
  · cases done

/-- An identifier is read as one. -/
theorem identifier_gives : identifier.Gives IsIdentifier := by
  intro text name rest done
  obtain ⟨first, more, rfl, starts, rfl, rfl⟩ := exists_of_identifier done
  exact ⟨first, _, String.toList_ofList, starts, fun c inside => List.mem_takeWhile_imp inside⟩

end Phrasebook
