import Minigame.Power
import Minigame.Text.Range
import Minigame.Text.Case

/-! Numbers read from text. -/

namespace Minigame.Decimal

open Minigame.Text

/-- The value of an ASCII digit. -/
def digitValue (c : Char) : Nat :=
  c.toNat - 48

/-- The value of a run of ASCII digits. -/
def natOfDigits (digits : List Char) : Nat :=
  digits.foldl (fun value c => 10 * value + digitValue c) 0

/-- A text of one or more ASCII digits, read as a natural. -/
def readDigits? (text : List Char) : Option Nat :=
  if text ≠ [] ∧ text.all isAsciiDigit then some (natOfDigits text) else none

/-- The text behind an optional plus sign. -/
def dropPlus : List Char → List Char
  | '+' :: rest => rest
  | text => text

/-- An unsigned integer below `2 ^ bits`: an optional plus sign and digits, nothing else. -/
def readUnsigned? (bits : Nat) (text : List Char) : Option Nat :=
  (readDigits? (dropPlus text)).filter (· < 2 ^ bits)

/-- The double nearest to `digits * 10 ^ exponent`. -/
def toFloat (digits : Nat) (exponent : Int) : Float :=
  -- Beyond these exponents the value is out of range, whatever the digits are.
  let size : Int := (Nat.toDigits 10 digits).length + exponent
  if digits = 0 ∨ size < -330 then 0.0
  else if 330 < size then 1.0 / 0.0
  else Float.ofScientific digits (exponent < 0) exponent.natAbs

/-- Whether a text spells one of the words for values that no digits can give. -/
def specialValue? (text : List Char) : Option Float :=
  let word := text.map asciiLowerChar
  if word = "inf".toList ∨ word = "infinity".toList then some (1.0 / 0.0)
  else if word = "nan".toList then some (0.0 / 0.0)
  else none

/-- The exponent behind a mantissa: nothing, or `e`, an optional sign and digits. -/
def readExponent? : List Char → Option Int
  | [] => some 0
  | c :: rest =>
    if c = 'e' ∨ c = 'E' then
      match rest with
      | '-' :: digits => (readDigits? digits).map fun n => -(n : Int)
      | _ => (readDigits? (dropPlus rest)).map Int.ofNat
    else none

/-- An unsigned decimal: digits with an optional point, then an optional exponent. -/
def readDecimal? (text : List Char) : Option Float :=
  let whole := text.takeWhile isAsciiDigit
  let rest := text.dropWhile isAsciiDigit
  let (fraction, rest) :=
    match rest with
    | '.' :: rest => (rest.takeWhile isAsciiDigit, rest.dropWhile isAsciiDigit)
    | _ => ([], rest)
  -- A point needs a digit on one side at least.
  if whole = [] ∧ fraction = [] then none
  else (readExponent? rest).map fun exponent =>
    toFloat (natOfDigits (whole ++ fraction)) (exponent - fraction.length)

/-- A floating point literal: an optional sign, then a decimal or a word for a special value. -/
def readFloat? (text : List Char) : Option Float :=
  let unsigned? (text : List Char) := readDecimal? text <|> specialValue? text
  match text with
  | '-' :: rest => (unsigned? rest).map (- ·)
  | _ => unsigned? (dropPlus text)

end Minigame.Decimal
