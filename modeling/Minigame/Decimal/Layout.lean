import Minigame.Decimal.Shortest

/-! Decimal numbers laid out as text: plain or with an exponent, or with a fixed number of places. -/

namespace Minigame.Decimal

/-- A non-zero decimal as its digits without trailing zeros and the exponent of the first digit. -/
structure Digits where
  digits : List Char
  exponent : Int

/-- The digits of a decimal, zeros at the end dropped. -/
def Scaled.toDigits (d : Scaled) : Digits :=
  let digits := Nat.toDigits 10 d.digits
  ⟨(digits.reverse.dropWhile (· = '0')).reverse, d.exponent + digits.length - 1⟩

/-- The decisions of a number format. -/
structure Layout where
  /-- The least exponent of the first digit that is still written without an exponent. -/
  plainFrom : Int
  /-- The least exponent of the first digit that is written with an exponent again. -/
  plainBelow : Int
  /-- Whether a whole number ends in `.0`. -/
  pointZero : Bool

/-- A run of zeros. -/
def zeros (n : Nat) : List Char :=
  List.replicate n '0'

/-- Writes a decimal without an exponent. -/
def Layout.plain (layout : Layout) (d : Digits) : List Char :=
  if d.exponent < 0 then '0' :: '.' :: (zeros (-d.exponent - 1).toNat ++ d.digits)
  else
    let whole := d.exponent.toNat + 1
    if d.digits.length ≤ whole then
      d.digits ++ zeros (whole - d.digits.length) ++ (if layout.pointZero then ['.', '0'] else [])
    else d.digits.take whole ++ '.' :: d.digits.drop whole

/-- Writes a decimal with a signed exponent. -/
def Digits.scientific (d : Digits) : List Char :=
  let mantissa :=
    match d.digits with
    | first :: second :: rest => first :: '.' :: second :: rest
    | short => short
  let sign := if d.exponent < 0 then '-' else '+'
  mantissa ++ 'e' :: sign :: Nat.toDigits 10 d.exponent.natAbs

/-- Writes a non-zero decimal. -/
def Layout.write (layout : Layout) (d : Digits) : List Char :=
  if layout.plainFrom ≤ d.exponent ∧ d.exponent < layout.plainBelow then layout.plain d
  else d.scientific

/-- Writes the finite value behind the bits of a format with the fewest digits. -/
def Layout.writeBits (layout : Layout) (format : BinaryFormat) (bits : Nat) : List Char :=
  let magnitude := format.magnitude bits
  let text :=
    if magnitude.mantissa = 0 then (if layout.pointZero then ['0', '.', '0'] else ['0'])
    else layout.write magnitude.shortest.toDigits
  if format.isNegative bits then '-' :: text else text

/-- Writes a finite double with the fewest digits. -/
def Layout.writeFloat (layout : Layout) (value : Float) : List Char :=
  layout.writeBits binary64 value.toBits.toNat

/-- A finite double with a fixed number of decimal places, its exact value rounded half to even. -/
def fixedPlaces (places : Nat) (value : Float) : List Char :=
  let x := Binary.ofFloat value
  let digits := Nat.toDigits 10 (roundDiv (x.numerator * 10 ^ places) x.denominator .toEven)
  -- There is at least one digit in front of the point.
  let padded := zeros (places + 1 - digits.length) ++ digits
  let whole := padded.take (padded.length - places)
  let text := if places = 0 then whole else whole ++ '.' :: padded.drop (padded.length - places)
  if binary64.isNegative value.toBits.toNat then '-' :: text else text

end Minigame.Decimal
