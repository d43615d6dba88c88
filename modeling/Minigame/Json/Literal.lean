import Minigame.Json.Basic
import Minigame.Decimal.Reading

/-! Number literals and the values they stand for. -/

namespace Minigame

open Minigame.Text Minigame.Decimal

/-- A power of ten as the nearest double. -/
def powerOfTen (n : Nat) : Float :=
  Float.ofScientific 1 false n

/--
Appends digits to a significand as long as it stays below `2 ^ 64`.

The digits from the first one that does not fit are handed back.
-/
def extendSignificand (significand : Nat) : List Char → Nat × List Char
  | [] => (significand, [])
  | c :: rest =>
    let extended := 10 * significand + digitValue c
    if extended < 2 ^ 64 then extendSignificand extended rest else (significand, c :: rest)

/--
The double `significand * 10 ^ exponent`, scaled by powers of ten up to the largest finite one.

A value too large for a double is refused and one too small is zero.
-/
def scaledDouble? (significand : Nat) (exponent : Int) : Option Float :=
  let base := significand.toUInt64.toFloat
  let size := exponent.natAbs
  if significand = 0 then some base
  else if 0 ≤ exponent then
    if size ≤ 308 then some (base * powerOfTen size) |>.filter (!·.isInf) else none
  else if size ≤ 308 then some (base / powerOfTen size)
  -- One power of ten is not enough here, so the division is made in two steps.
  else if size ≤ 616 then some (base / powerOfTen 308 / powerOfTen (size - 308))
  else some 0.0

/-- The exponent part of a literal: nothing, or `e`, an optional sign and digits. -/
def literalExponent? : List Char → Option Int
  | [] => some 0
  | c :: rest =>
    if c = 'e' ∨ c = 'E' then
      match rest with
      | '-' :: digits => (readDigits? digits).map fun n => -(n : Int)
      | '+' :: digits => (readDigits? digits).map Int.ofNat
      | digits => (readDigits? digits).map Int.ofNat
    else none

/-- The fraction part of a literal: its digits behind the point, if it has one, and the rest. -/
def literalFraction? : List Char → Option (List Char × List Char)
  | '.' :: rest =>
    let digits := rest.takeWhile isAsciiDigit
    if digits = [] then none else some (digits, rest.dropWhile isAsciiDigit)
  | rest => some ([], rest)

/-- Whether digits can stand in front of the point: a zero only by itself. -/
def isWholePart (digits : List Char) : Bool :=
  digits = ['0'] || (digits ≠ [] && digits.head? ≠ some '0')

/-- The value of an unsigned whole literal behind an optional minus sign. -/
def wholeNumber (negative : Bool) (n : Nat) : Number :=
  if negative then
    -- A negative zero and what lies below the least integer exist only as doubles.
    if n = 0 ∨ 2 ^ 63 < n then .double (-n.toUInt64.toFloat) else .int (-n)
  else .int n

/-- An unsigned literal behind an optional minus sign. -/
def unsignedLiteral? (negative : Bool) (text : List Char) : Option Number := do
  let whole := text.takeWhile isAsciiDigit
  let rest := text.dropWhile isAsciiDigit
  guard (isWholePart whole)
  let (significand, dropped) := extendSignificand 0 whole
  -- Digits alone are a whole number as long as they fit.
  if rest = [] ∧ dropped = [] then return wholeNumber negative significand
  let (fraction, tail) ← literalFraction? rest
  let exponent ← literalExponent? tail
  let (significand, beyond) := extendSignificand significand fraction
  -- Digits that were dropped scale the value up, those taken from the fraction scale it down.
  let shift : Int := dropped.length - (fraction.length - beyond.length : Nat)
  let value ← scaledDouble? significand (shift + exponent)
  return .double (if negative then -value else value)

/-- The value of a number literal. -/
def numberLiteral? : List Char → Option Number
  | '-' :: rest => unsignedLiteral? true rest
  | text => unsignedLiteral? false text

end Minigame
