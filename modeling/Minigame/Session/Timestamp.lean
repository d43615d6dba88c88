import Minigame.Calendar
import Minigame.Text.Blank
import Minigame.Decimal.Reading

/-! Moments in time and their text in UTC. -/

namespace Minigame

open Minigame.Text Minigame.Decimal Minigame.Calendar

/-- A moment: seconds since the start of 1970 and nanoseconds, of which a leap second has more. -/
structure Timestamp where
  seconds : Int
  nanos : Nat
  deriving DecidableEq

namespace Timestamp

/-- The digits of a number behind as many zeros as its width needs. -/
def padded (width n : Nat) : List Char :=
  let digits := Nat.toDigits 10 n
  List.replicate (width - digits.length) '0' ++ digits

/-- A year: four digits, and a sign where those do not do. -/
def yearChars (year : Int) : List Char :=
  if 0 ≤ year ∧ year ≤ 9999 then padded 4 year.toNat
  else (if year < 0 then '-' else '+') :: padded 4 year.natAbs

/-- A fraction of a second in three, six or nine digits, or nothing. -/
def fractionChars (nanos : Nat) : List Char :=
  if nanos = 0 then []
  else if nanos % 1000000 = 0 then '.' :: padded 3 (nanos / 1000000)
  else if nanos % 1000 = 0 then '.' :: padded 6 (nanos / 1000)
  else '.' :: padded 9 nanos

/-- The year that a moment lies in, in UTC. -/
def year (moment : Timestamp) : Int :=
  (dateOfDays (moment.seconds.fdiv 86400)).1

/-- The text of a moment, in UTC. -/
def text (moment : Timestamp) : String :=
  let days := moment.seconds.fdiv 86400
  let rest := (moment.seconds - 86400 * days).toNat
  let (year, month, day) := dateOfDays days
  -- A leap second shows as the second numbered 60.
  let second := rest % 60 + moment.nanos / 1000000000
  String.ofList
    (yearChars year ++ '-' :: padded 2 month ++ '-' :: padded 2 day ++ 'T' :: padded 2 (rest / 3600)
      ++ ':' :: padded 2 (rest / 60 % 60) ++ ':' :: padded 2 second
      ++ fractionChars (moment.nanos % 1000000000) ++ ['Z'])

/-- Reads a number of one digit or more, up to a width, with white space in front of it. -/
def readField? (width : Nat) (text : List Char) : Option (Nat × List Char) :=
  let text := trimStartChars text
  let digits := (text.take width).takeWhile isAsciiDigit
  if digits = [] then none else some (natOfDigits digits, text.drop digits.length)

/-- Reads a year: up to four digits, or any number of them behind a sign. -/
def readYear? (text : List Char) : Option (Int × List Char) :=
  match trimStartChars text with
  | '-' :: rest => (readField? rest.length rest).bind fun (n, tail) =>
    -- Behind a sign no white space may come before the digits.
    if rest.head?.any isAsciiDigit then some (-(n : Int), tail) else none
  | '+' :: rest => (readField? rest.length rest).bind fun (n, tail) =>
    if rest.head?.any isAsciiDigit then some ((n : Int), tail) else none
  | text => (readField? 4 text).map fun (n, tail) => ((n : Int), tail)

/-- Expects a mark, with white space in front of it. -/
def readMark? (mark : Char) (text : List Char) : Option (List Char) :=
  match trimStartChars text with
  | c :: rest => if c = mark then some rest else none
  | [] => none

/-- Reads a fraction of a second, if there is one; digits beyond the ninth are dropped. -/
def readFraction? : List Char → Option (Nat × List Char)
  | '.' :: rest =>
    let digits := rest.takeWhile isAsciiDigit
    let kept := digits.take 9
    if digits = [] then none
    else some (natOfDigits kept * 10 ^ (9 - kept.length), rest.dropWhile isAsciiDigit)
  | text => some (0, text)

/-- Two digits as a number. -/
def readPair? : List Char → Option (Nat × List Char)
  | a :: b :: rest =>
    if isAsciiDigit a ∧ isAsciiDigit b then some (natOfDigits [a, b], rest) else none
  | _ => none

/-- Reads an offset from UTC in seconds. -/
def readOffset? (text : List Char) : Option (Int × List Char) :=
  let signed (sign : Int) (rest : List Char) : Option (Int × List Char) := do
    let (hours, rest) ← readPair? rest
    let (minutes, rest) ← readPair? (rest.dropWhile fun c => c = ':' || isBlank c)
    -- The hours of an offset stay within a day.
    guard (minutes < 60 ∧ hours < 24)
    return (sign * (3600 * hours + 60 * minutes : Nat), rest)
  match text with
  | 'Z' :: rest => some (0, rest)
  | 'z' :: rest => some (0, rest)
  | '+' :: rest => signed 1 rest
  | '-' :: rest => signed (-1) rest
  | '−' :: rest => signed (-1) rest
  | a :: b :: c :: rest =>
    if [a, b, c].map asciiUpperChar = ['U', 'T', 'C'] then some (0, rest) else none
  | _ => none

/-- The years that a moment can lie in. -/
def yearInRange (year : Int) : Bool :=
  -262143 ≤ year && year ≤ 262142

/--
Reads a date, a time and an offset from UTC. The date and the time are separated by a T or by a
space; a second numbered 60 is a leap second.
-/
def parse? (text : String) : Option Timestamp := do
  let (year, rest) ← readYear? text.toList
  let (month, rest) ← readField? 2 (← readMark? '-' rest)
  let (day, rest) ← readField? 2 (← readMark? '-' rest)
  let (hour, rest) ←
    match rest with
    | c :: rest => if c = 'T' ∨ c = 't' ∨ c = ' ' then readField? 2 rest else none
    | [] => none
  let (minute, rest) ← readField? 2 (← readMark? ':' rest)
  let (second, rest) ← readField? 2 (← readMark? ':' rest)
  let (nanos, rest) ← readFraction? rest
  let (offset, rest) ← readOffset? (trimStartChars rest)
  guard (rest.all isBlank)
  guard (yearInRange year ∧ 1 ≤ month ∧ month ≤ 12 ∧ 1 ≤ day ∧ day ≤ daysInMonth year month)
  guard (hour < 24 ∧ minute < 60 ∧ second ≤ 60)
  -- A leap second is kept as the second before it with a second more of nanoseconds.
  let clock : Nat := 3600 * hour + 60 * minute + min second 59
  let leap := if second = 60 then 1000000000 else 0
  let moment : Timestamp := ⟨86400 * daysOfDate year month day + clock - offset, nanos + leap⟩
  -- The offset can carry the first and the last year over the edge.
  guard (yearInRange moment.year)
  return moment

/-- The second of its day that a moment lies in. -/
def secondOfDay (moment : Timestamp) : Int :=
  moment.seconds.fmod 86400

/-- Whether a moment lies in a leap second. -/
def isLeap (moment : Timestamp) : Bool :=
  1000000000 ≤ moment.nanos

/--
The leap second between two times of day, less than zero if it lies behind the second one.

The time of day that comes first is in it, and the clock has gone on at the other one.
-/
def leapBetween (earlier later : Timestamp) : Int :=
  if earlier.secondOfDay < later.secondOfDay then (if earlier.isLeap then 1 else 0)
  else if later.secondOfDay < earlier.secondOfDay then (if later.isLeap then -1 else 0)
  else 0

/-- The nanoseconds from one moment to another. -/
def nanosUntil (earlier later : Timestamp) : Int :=
  1000000000 * (later.seconds - earlier.seconds + leapBetween earlier later)
    + (later.nanos - earlier.nanos)

/-- The whole seconds from one moment to another, a part of a second left out. -/
def secondsUntil (earlier later : Timestamp) : Int :=
  (nanosUntil earlier later).tdiv 1000000000

/-- A moment some hours later, if it lies in a year that a moment can lie in. -/
def addHours? (moment : Timestamp) (hours : Int) : Option Timestamp :=
  let later : Timestamp := { moment with seconds := moment.seconds + 3600 * hours }
  if yearInRange later.year then some later else none

end Timestamp

end Minigame
