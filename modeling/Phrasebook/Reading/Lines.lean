import Phrasebook.Unicode.Blank

/-! Texts are cut into lines, words and pieces. -/

namespace Phrasebook

/-- Pieces of a text that end after each line feed; only the last may lack one. -/
def linesWithEnds : List Char → List (List Char)
  -- An empty text has no lines.
  | [] => []
  | '\n' :: rest => ['\n'] :: linesWithEnds rest
  | c :: rest =>
    match linesWithEnds rest with
    | line :: lines => (c :: line) :: lines
    | [] => [[c]]

/-- The pieces together are the text. -/
theorem flatten_linesWithEnds (text : List Char) : (linesWithEnds text).flatten = text := by
  -- Every character goes to the front of the first piece or of a new one.
  fun_induction linesWithEnds text <;> simp_all

/-- No piece is empty. -/
theorem ne_nil_of_mem_linesWithEnds {text line : List Char} (inside : line ∈ linesWithEnds text) : line ≠ [] := by
  -- A piece starts with the character that opens it.
  fun_induction linesWithEnds text <;> simp_all <;> grind

/-- A line without its line feed and a carriage return in front of it. -/
def withoutLineEnd (line : List Char) : List Char :=
  -- A carriage return without a line feed belongs to the line.
  match line.reverse with
  | '\n' :: '\r' :: rest => rest.reverse
  | '\n' :: rest => rest.reverse
  | _ => line

/-- The lines of a text, without their ends. -/
def linesOf (text : List Char) : List (List Char) :=
  -- A line feed at the end of the text starts no further line.
  (linesWithEnds text).map withoutLineEnd

/-- Split characters at every occurrence of a separator. -/
def splitAt (separator : Char) : List Char → List (List Char)
  -- There is always one part more than there are separators.
  | [] => [[]]
  | c :: rest =>
    match splitAt separator rest with
    | [] => [[]]
    | part :: parts => if c == separator then [] :: part :: parts else (c :: part) :: parts

/-- The words of a text, which white space divides; the first piece is the word being read. -/
def wordsFrom (word : List Char) : List Char → List (List Char)
  -- Empty words do not count.
  | [] => if word.isEmpty then [] else [word.reverse]
  | c :: rest =>
    if isBlank c then (if word.isEmpty then wordsFrom [] rest else word.reverse :: wordsFrom [] rest)
    else wordsFrom (c :: word) rest

/-- The words of a text. -/
def wordsOf (text : List Char) : List (List Char) :=
  -- No word has been started yet.
  wordsFrom [] text

/-- What stands before and after the first occurrence of a mark. -/
def cutAt (mark : List Char) : List Char → Option (List Char × List Char)
  -- The empty text holds no mark but the empty one.
  | [] => if mark.isEmpty then some ([], []) else none
  | c :: rest =>
    if mark.isPrefixOf (c :: rest) then some ([], (c :: rest).drop mark.length)
    else (cutAt mark rest).map fun (before, after) => (c :: before, after)

/-- The mark stood between the two parts. -/
theorem eq_append_of_cutAt {mark text before after : List Char} (cut : cutAt mark text = some (before, after)) :
    text = before ++ mark ++ after := by
  -- Where the mark is found, nothing stands before it; elsewhere one character more does.
  induction text generalizing before after with
  | nil => simp_all [cutAt]
  | cons c rest found =>
    simp only [cutAt] at cut
    split at cut
    · rename_i here
      obtain ⟨rfl, rfl⟩ := Prod.mk.inj (Option.some.inj cut)
      exact List.prefix_iff_eq_append.mp (List.isPrefixOf_iff_prefix.mp here) |>.symm
    · obtain ⟨⟨front, back⟩, later, equal⟩ := Option.map_eq_some_iff.mp cut
      obtain ⟨rfl, rfl⟩ := Prod.mk.inj equal
      simp [found later]

/-- What follows a mark at the start of a text. -/
def afterMark (mark text : List Char) : Option (List Char) :=
  -- Nothing is found elsewhere.
  if mark.isPrefixOf text then some (text.drop mark.length) else none

end Phrasebook
