import Minigame.Text.Range

/-! White space: the characters that trimming removes at the ends of a text. -/

namespace Minigame.Text

/-- The code points with the Unicode property White_Space. -/
def blankRanges : List (Nat × Nat) :=
  [(0x09, 0x0D), (0x20, 0x20), (0x85, 0x85), (0xA0, 0xA0), (0x1680, 0x1680), (0x2000, 0x200A),
   (0x2028, 0x2029), (0x202F, 0x202F), (0x205F, 0x205F), (0x3000, 0x3000)]

/-- Whether a character is white space. -/
def isBlank (c : Char) : Bool :=
  inRanges blankRanges c.toNat

/-- A text without the white space in front of it. -/
def trimStartChars (text : List Char) : List Char :=
  text.dropWhile isBlank

/-- A text without the white space behind it. -/
def trimEndChars (text : List Char) : List Char :=
  (text.reverse.dropWhile isBlank).reverse

/-- A text without the white space at its ends. -/
def trimChars (text : List Char) : List Char :=
  trimEndChars (trimStartChars text)

/-- A string without the white space at its ends. -/
def trim (text : String) : String :=
  String.ofList (trimChars text.toList)

/-- Whether a text holds nothing but white space. -/
def isBlankText (text : String) : Bool :=
  text.toList.all isBlank

end Minigame.Text
