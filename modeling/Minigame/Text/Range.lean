/-! Classes of characters given as ascending tables of closed code point ranges. -/

namespace Minigame.Text

/-- Whether a code point lies in one of the ranges of an ascending table. -/
def inRanges : List (Nat × Nat) → Nat → Bool
  | [], _ => false
  | (low, high) :: rest, code =>
    -- The table ascends, so a code below a range is in none of the later ones either.
    if code < low then false
    else if code ≤ high then true
    else inRanges rest code

/-- The ASCII digits. -/
def isAsciiDigit (c : Char) : Bool :=
  '0' ≤ c && c ≤ '9'

/-- The ASCII letters, of either case. -/
def isAsciiLetter (c : Char) : Bool :=
  ('a' ≤ c && c ≤ 'z') || ('A' ≤ c && c ≤ 'Z')

end Minigame.Text
