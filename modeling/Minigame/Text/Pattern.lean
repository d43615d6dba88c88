import Minigame.Text.Blank
import Minigame.Text.Case
import Minigame.Text.Word

/-! Patterns of words and numbers, found in a text at the leftmost place where they fit. -/

namespace Minigame.Text

/-- A place in a text, with what a pattern has captured on the way to it. -/
structure Place where
  /-- The character in front of the place. -/
  before : Option Char
  /-- The characters behind the place. -/
  rest : List Char
  captures : List (String × List Char)
  deriving DecidableEq

namespace Place

/-- The start of a text. -/
def start (text : List Char) : Place := ⟨none, text, []⟩

/-- Whether a word begins or ends here. -/
def isWordEdge (place : Place) : Bool :=
  place.before.any isWordChar != place.rest.head?.any isWordChar

/-- The text between this place and a later one. -/
def upTo (place later : Place) : List Char :=
  place.rest.take (place.rest.length - later.rest.length)

/-- What was captured under a name. -/
def captured? (name : String) (place : Place) : Option (List Char) :=
  place.captures.lookup name

end Place

/-- A pattern; where it can fit in several ways it says which it prefers. -/
inductive Pattern where
  /-- The empty text. -/
  | empty
  /-- The empty text where a word begins or ends. -/
  | edge
  /-- One character of a class. -/
  | one (accepts : Char → Bool)
  /-- Characters of a class, rather fewer than more. -/
  | fewest (accepts : Char → Bool)
  /-- Characters of a class, rather more than fewer. -/
  | most (accepts : Char → Bool)
  /-- One pattern behind another. -/
  | andThen (first second : Pattern)
  /-- One of two patterns, rather the first. -/
  | orElse (first second : Pattern)
  /-- A pattern whose text is captured under a name. -/
  | capture (name : String) (inner : Pattern)

namespace Pattern

/-- All places that a run of characters of a class leads to, the nearest first. -/
def runs (accepts : Char → Bool) (captures : List (String × List Char)) :
    Option Char → List Char → List Place
  | before, [] => [⟨before, [], captures⟩]
  | before, c :: rest =>
    ⟨before, c :: rest, captures⟩ :: (if accepts c then runs accepts captures (some c) rest else [])

/-- The places behind all the ways in which a pattern fits at a place, the preferred one first. -/
def ends : Pattern → Place → List Place
  | empty, place => [place]
  | edge, place => if place.isWordEdge then [place] else []
  | one accepts, place =>
    match place.rest with
    | [] => []
    | c :: rest => if accepts c then [{ place with before := some c, rest }] else []
  | fewest accepts, place => runs accepts place.captures place.before place.rest
  | most accepts, place => (runs accepts place.captures place.before place.rest).reverse
  | andThen first second, place => (first.ends place).flatMap second.ends
  | orElse first second, place => first.ends place ++ second.ends place
  | capture name inner, place =>
    (inner.ends place).map fun later =>
      { later with captures := (name, place.upTo later) :: later.captures }

/-- The end of the preferred fit at the leftmost place that has one. -/
def findFrom? (pattern : Pattern) : Option Char → List Char → Option Place
  | before, [] => (pattern.ends ⟨before, [], []⟩).head?
  | before, c :: rest =>
    (pattern.ends ⟨before, c :: rest, []⟩).head? <|> pattern.findFrom? (some c) rest

/-- The end of the leftmost fit in a text. -/
def find? (pattern : Pattern) (text : String) : Option Place :=
  pattern.findFrom? none text.toList

/-- Whether a pattern fits anywhere in a text. -/
def occursIn (pattern : Pattern) (text : String) : Bool :=
  (pattern.find? text).isSome

/-! ### Building patterns -/

/-- Patterns behind one another. -/
def sequence (patterns : List Pattern) : Pattern :=
  patterns.foldr andThen empty

/-- One of several patterns, rather an earlier one. -/
def choice : List Pattern → Pattern
  | [] => one fun _ => false
  | [pattern] => pattern
  | pattern :: rest => orElse pattern (choice rest)

/-- A pattern that need not be there. -/
def optional (pattern : Pattern) : Pattern :=
  orElse pattern empty

/--
The lower-case ASCII letter a character counts as where case does not matter.

The long s and the sign of the kelvin are among the forms of a letter.
-/
def foldLetter (c : Char) : Char :=
  if c = 'ſ' then 's' else if c = '\u212a' then 'k' else asciiLowerChar c

/-- A text in lower case, where case does not matter. -/
def word (text : String) : Pattern :=
  sequence (text.toList.map fun letter => one fun c => foldLetter c = letter)

/-- One of several words. -/
def words (texts : List String) : Pattern :=
  choice (texts.map word)

/-- A noun, in the singular or in the plural. -/
def noun (text : String) : Pattern :=
  andThen (word text) (optional (word "s"))

/-- White space that may be missing. -/
def spaces : Pattern := most isBlank

/-- At least one character of white space. -/
def gap : Pattern := andThen (one isBlank) spaces

/-- A whole number. -/
def digits : Pattern := andThen (one isDecimalDigit) (most isDecimalDigit)

/-- A whole number or one with decimal places. -/
def decimal : Pattern :=
  andThen digits (optional (andThen (word ".") digits))

/-- Anything on the same line, rather less than more. -/
def filler : Pattern := fewest fun c => c ≠ '\n'

/-- A pattern in front of which and behind which a word ends. -/
def whole (pattern : Pattern) : Pattern :=
  andThen edge (andThen pattern edge)

end Pattern

end Minigame.Text
