import Phrasebook.Unicode.CaseTable
import Phrasebook.Unicode.CaseContext

/-! Texts change case by the full mappings, in which one character may become several. -/

namespace Phrasebook

/-- The code point that a run maps another one to, if it holds it. -/
def CaseRun.map? (run : CaseRun) (point : Nat) : Option Nat :=
  -- Only every so many characters of the run change.
  if run.first ≤ point && point ≤ run.last && (point - run.first) % run.step == 0 then
    some ((point : Int) + run.shift).toNat
  else none

/-- The characters that a code point maps to by sequences first and by runs then. -/
def mapCase (sequences : List (Nat × List Nat)) (runs : List CaseRun) (c : Char) : List Char :=
  -- A character in neither table keeps its case.
  match sequences.find? (·.1 == c.toNat) with
  | some found => found.2.map Char.ofNat
  | none =>
    match runs.findSome? (·.map? c.toNat) with
    | some point => [Char.ofNat point]
    | none => [c]

/-- The upper case of a character. -/
def upperChar (c : Char) : List Char :=
  -- The letters of ASCII are decided without the tables.
  if c.toNat < 0x80 then [c.toUpper] else mapCase upperSequences upperRuns c

/-- The lower case of a character outside any word. -/
def lowerChar (c : Char) : List Char :=
  -- The letters of ASCII are decided without the tables.
  if c.toNat < 0x80 then [c.toLower] else mapCase lowerSequences lowerRuns c

/-- Whether the first character that case rules do not look through has a case. -/
def casedAhead (text : List Char) : Bool :=
  -- Nothing left counts as no case.
  match text.dropWhile isCaseIgnorable with
  | [] => false
  | c :: _ => isCased c

/-- The lower case of the rest of a text, given the reversed text before it. -/
def lowerFrom (before : List Char) : List Char → List Char
  -- A sigma after a cased letter and before none is written in its final form.
  | [] => []
  | c :: rest =>
    let lowered :=
      if c == 'Σ' then (if casedAhead before && !casedAhead rest then ['ς'] else ['σ'])
      else lowerChar c
    lowered ++ lowerFrom (c :: before) rest

/-- A text in upper case. -/
def upperText (text : String) : String :=
  -- Upper case does not depend on the neighbours.
  String.ofList (text.toList.flatMap upperChar)

/-- A text in lower case. -/
def lowerText (text : String) : String :=
  -- Lower case looks at the letters around a sigma.
  String.ofList (lowerFrom [] text.toList)

/-- Whether two texts are equal up to the case of the letters of ASCII. -/
def sameIgnoringCase (left right : String) : Bool :=
  -- Other letters must agree exactly.
  left.toList.map Char.toLower == right.toList.map Char.toLower

end Phrasebook
