import Minigame.Calendar
import Minigame.Json.Basic
import Minigame.Decimal.Reading
import Minigame.Text.Hex

/-! Numbers, truth values, dates and times of TOML text. -/

namespace Minigame.Toml

open Minigame.Text Minigame.Decimal Minigame.Calendar

/-- A character that can stand in a value without quotes. -/
def isScalarChar (c : Char) : Bool :=
  isAsciiLetter c || isAsciiDigit c || c ∈ ['+', '-', '_', '.', ':']

/-- Digits of a class, without the single underscores that may stand between two of them. -/
def grouped? (isDigit : Char → Bool) : List Char → Option (List Char)
  | [] => none
  | [c] => if isDigit c then some [c] else none
  | c :: '_' :: rest => if isDigit c then (grouped? isDigit rest).map (c :: ·) else none
  | c :: rest => if isDigit c then (grouped? isDigit rest).map (c :: ·) else none

/-- The value of digits in a base. -/
def valueInBase (base : Nat) (digits : List Char) : Nat :=
  digits.foldl (fun value c => base * value + (hexValue? c).getD 0) 0

/-- A whole number without a sign whose digits of a base stand behind a mark. -/
def basedInteger? : List Char → Option Nat
  | '0' :: 'x' :: rest =>
    (grouped? (fun c => (hexValue? c).isSome) rest).map (valueInBase 16)
  | '0' :: 'o' :: rest => (grouped? (fun c => '0' ≤ c && c ≤ '7') rest).map (valueInBase 8)
  | '0' :: 'b' :: rest => (grouped? (fun c => c = '0' || c = '1') rest).map (valueInBase 2)
  | _ => none

/-- The decimal digits of a whole number; only the number zero begins with one. -/
def wholeDigits? (text : List Char) : Option (List Char) := do
  let digits ← grouped? isAsciiDigit text
  if digits = ['0'] ∨ digits.head? ≠ some '0' then some digits else none

/-- A sign and what is behind it. -/
def splitSign : List Char → Bool × List Char
  | '-' :: rest => (true, rest)
  | '+' :: rest => (false, rest)
  | text => (false, text)

/-- A whole number of 64 bits with a sign. -/
def integer? (text : List Char) : Option Int := do
  let (negative, digits) := splitSign text
  let value : Int ←
    match basedInteger? text with
    | some n => some (n : Int)
    | none => (wholeDigits? digits).map fun digits =>
        if negative then -(natOfDigits digits : Int) else natOfDigits digits
  if -2 ^ 63 ≤ value ∧ value < 2 ^ 63 then some value else none

/-- An exponent behind its mark: an optional sign and digits. -/
def exponentDigits? (text : List Char) : Option Int := do
  let (negative, digits) := splitSign text
  let size : Int := natOfDigits (← grouped? isAsciiDigit digits)
  return if negative then -size else size

/-- The digits behind the point and the exponent; one of the two must be there. -/
def fractionAndExponent? (text : List Char) : Option (List Char × Int) :=
  let isMark (c : Char) := c = 'e' || c = 'E'
  match text with
  | '.' :: rest => do
    let fraction ← grouped? isAsciiDigit (rest.takeWhile (!isMark ·))
    match rest.dropWhile (!isMark ·) with
    | [] => return (fraction, 0)
    | _ :: exponent => return (fraction, ← exponentDigits? exponent)
  | c :: rest => if isMark c then (exponentDigits? rest).map fun exponent => ([], exponent) else none
  | [] => none

/-- A number with a fraction or an exponent; one too large to be finite must be negative. -/
def float? (text : List Char) : Option Float := do
  let (negative, text) := splitSign text
  let isPart (c : Char) := isAsciiDigit c || c = '_'
  let whole ← wholeDigits? (text.takeWhile isPart)
  let (fraction, exponent) ← fractionAndExponent? (text.dropWhile isPart)
  let size := toFloat (natOfDigits (whole ++ fraction)) (exponent - fraction.length)
  if negative then some (-size) else if size.isInf then none else some size

/-- Infinity, or no number at all, with an optional sign. -/
def specialFloat? (text : List Char) : Option Float :=
  let (negative, word) := splitSign text
  let size? : Option Float :=
    if word = ['i', 'n', 'f'] then some (1.0 / 0.0)
    else if word = ['n', 'a', 'n'] then some (0.0 / 0.0)
    else none
  size?.map fun size => if negative then -size else size

/-- A number of a fixed count of digits in a range. -/
def field? (count low high : Nat) (text : List Char) : Option Nat := do
  let value ← readDigits? text
  if text.length = count ∧ low ≤ value ∧ value ≤ high then some value else none

/-- Whether a text is a date: four, two and two digits. -/
def isDate (text : List Char) : Bool :=
  let fields? : Option Bool := do
    let year ← field? 4 0 9999 (text.take 4)
    let month ← field? 2 1 12 ((text.drop 5).take 2)
    let day ← field? 2 1 31 ((text.drop 8).take 2)
    return day ≤ daysInMonth year month
  text.length = 10 && text[4]? = some '-' && text[7]? = some '-' && fields? = some true

/-- Whether a text is an hour and a minute. -/
def isHourMinute (text : List Char) : Bool :=
  text.length = 5 && (field? 2 0 23 (text.take 2)).isSome && text[2]? = some ':'
    && (field? 2 0 59 (text.drop 3)).isSome

/-- Whether a text is a time: hour, minute and second, and maybe a fraction of a second. -/
def isTime (text : List Char) : Bool :=
  let fraction := text.drop 8
  isHourMinute (text.take 5) && text[5]? = some ':'
    && (field? 2 0 60 ((text.drop 6).take 2)).isSome
    && (fraction = [] || (fraction.head? = some '.' && (readDigits? (fraction.drop 1)).isSome))

/-- Whether a text is the distance from universal time. -/
def isOffset (text : List Char) : Bool :=
  text = ['Z'] || text = ['z']
    || ((text.head? = some '+' || text.head? = some '-') && isHourMinute (text.drop 1))

/-- Whether a text is a time with an optional distance from universal time. -/
def isTimeWithOffset (text : List Char) : Bool :=
  let isTimeChar (c : Char) := isAsciiDigit c || c = ':' || c = '.'
  let rest := text.dropWhile isTimeChar
  isTime (text.takeWhile isTimeChar) && (rest = [] || isOffset rest)

/-- Whether a text is a date and a time with a mark between them. -/
def isDateTime (text : List Char) : Bool :=
  isDate (text.take 10) && text[10]?.any (fun c => c = 'T' || c = 't' || c = ' ')
    && isTimeWithOffset (text.drop 11)

/-- A date or a time as a mapping with its text, since it is no string. -/
def moment (text : List Char) : Json :=
  .obj [("datetime", .str (String.ofList text))]

/-- The value of a text without quotes. -/
def word? (text : List Char) : Option Json :=
  if text = ['t', 'r', 'u', 'e'] then some (.bool true)
  else if text = ['f', 'a', 'l', 's', 'e'] then some (.bool false)
  else if isDate text || isTime text || isDateTime text then some (moment text)
  else
    ((float? text <|> specialFloat? text).map fun value => .num (.double value))
      <|> (integer? text).map fun value => .num (.int value)

/-- Reads a value without quotes; a date may have its time behind one space. -/
def scalar? (text : List Char) : Option (Json × List Char) :=
  let word := text.takeWhile isScalarChar
  let rest := text.dropWhile isScalarChar
  let time := (rest.drop 1).takeWhile isScalarChar
  -- The space behind a date is part of the value only if a digit follows it.
  if isDate word ∧ rest.head? = some ' ' ∧ time.head?.any isAsciiDigit then
    let whole := word ++ ' ' :: time
    if isDateTime whole then some (moment whole, (rest.drop 1).dropWhile isScalarChar) else none
  else (word? word).map fun value => (value, rest)

end Minigame.Toml
