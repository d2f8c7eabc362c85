/-! Names that are close to a misspelled one are suggested in its place. -/

namespace Phrasebook

/-- The next row of the table of distances, given the entry to the left in it. -/
def distanceRow (c : Char) (left : Nat) : List Char → List Nat → List Nat
  -- An entry is one more than its best neighbour, or the diagonal one if the characters agree.
  | d :: target, diagonal :: above :: row =>
    let entry := min (min (left + 1) (above + 1)) (diagonal + if c == d then 0 else 1)
    entry :: distanceRow c entry target (above :: row)
  | _, _ => []

/-- The rows of the table of distances, one for each character of the source; the last one is kept. -/
def distanceRows (target : List Char) : Nat → List Char → List Nat → List Nat
  -- The first entry of a row counts the characters deleted so far.
  | _, [], row => row
  | count, c :: source, row =>
    distanceRows target (count + 1) source ((count + 1) :: distanceRow c (count + 1) target row)

/-- The least number of insertions, deletions and changes of characters between two texts. -/
def editDistance (source target : String) : Nat :=
  -- The last entry of the last row is the distance of the whole texts.
  let columns := target.toList
  ((distanceRows columns 0 source.toList (List.range (columns.length + 1))).getLast?).getD 0

/-- Whether one candidate comes before another: by distance, then by name. -/
def closer (left right : Nat × String) : Bool :=
  -- Equal candidates count as ordered.
  left.1 < right.1 || (left.1 == right.1 && !(right.2 < left.2))

/-- At most three of the available names that are close to a target, closest first. -/
def suggestions (target : String) (available : List String) : List String :=
  -- Short names allow one edit and longer ones two.
  let limit := if target.length ≤ 3 then 1 else 2
  let candidates := (available.map fun name => (editDistance target name, name)).filter
    fun (distance, name) => distance ≤ limit && name != target
  ((candidates.mergeSort closer).take 3).map (·.2)

end Phrasebook
