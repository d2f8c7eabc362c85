/-! White space, and the operations on texts that depend on it. -/

namespace Phrasebook

/-- Whether a character is white space. -/
def isBlank (c : Char) : Bool :=
  -- The property has twenty-five members.
  let point := c.toNat
  (0x09 ≤ point && point ≤ 0x0D) || point == 0x20 || point == 0x85 || point == 0xA0 ||
    point == 0x1680 || (0x2000 ≤ point && point ≤ 0x200A) || point == 0x2028 || point == 0x2029 ||
    point == 0x202F || point == 0x205F || point == 0x3000

/-- Characters without the white space in front. -/
def trimFront (text : List Char) : List Char :=
  -- Only the leading run is dropped.
  text.dropWhile isBlank

/-- Characters without the white space at the end. -/
def trimBack (text : List Char) : List Char :=
  -- The end is the front of the reversed text.
  (text.reverse.dropWhile isBlank).reverse

/-- Characters without the white space at both ends. -/
def trimChars (text : List Char) : List Char :=
  -- White space inside the text stays.
  trimBack (trimFront text)

/-- A text without the white space at both ends. -/
def trimText (text : String) : String :=
  -- The work is done on characters.
  String.ofList (trimChars text.toList)

/-- Whether characters are white space only. -/
def isBlankLine (text : List Char) : Bool :=
  -- No characters at all count as well.
  text.all isBlank

end Phrasebook
