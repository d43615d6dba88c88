import Minigame.Json.Basic
import Minigame.Decimal.Reading

/-! JSON pointers: slash separated paths that read a part of a value. -/

namespace Minigame

open Minigame.Text Minigame.Decimal

/-- The pieces of a text between the occurrences of a separator. -/
def splitChars (separator : Char) : List Char → List (List Char)
  | [] => [[]]
  | c :: rest =>
    -- A separator begins a new piece, also at the very end.
    if c = separator then [] :: splitChars separator rest
    else
      match splitChars separator rest with
      | piece :: pieces => (c :: piece) :: pieces
      | [] => [[c]]

namespace Json

/-- Replaces a tilde that stands in front of a mark by one character. -/
def replaceMark (mark replacement : Char) : List Char → List Char
  | [] => []
  | [c] => [c]
  | c :: d :: rest =>
    if c = '~' ∧ d = mark then replacement :: replaceMark mark replacement rest
    else c :: replaceMark mark replacement (d :: rest)

/-- The name a pointer token stands for: `~1` is a slash, and then `~0` is a tilde. -/
def pointerName (token : List Char) : List Char :=
  -- The slash goes first, so that `~01` stands for a tilde and a one.
  replaceMark '0' '~' (replaceMark '1' '/' token)

/-- The place in a sequence that a token names: an unsigned number without the sign or a zero in front. -/
def pointerIndex? (token : List Char) : Option Nat :=
  if token.head? = some '+' ∨ (token.head? = some '0' ∧ token.length ≠ 1) then none
  else readUnsigned? 64 token

/-- The part of a value one token below it. -/
def child? (token : List Char) : Json → Option Json
  | .obj fields => Fields.get? (String.ofList token) fields
  | .arr items => (pointerIndex? token).bind fun index => items[index]?
  | _ => none

/-- Follows pointer tokens into a value. -/
def descend? : List (List Char) → Json → Option Json
  | [], value => some value
  | token :: rest, value => (value.child? token).bind (descend? rest)

/-- Reads the part of a value a pointer names; the empty pointer names the whole value. -/
def pointer? (pointer : String) (value : Json) : Option Json :=
  match pointer.toList with
  | [] => some value
  | '/' :: rest => value.descend? ((splitChars '/' rest).map pointerName)
  | _ => none

end Json

end Minigame
