import Minigame.Text.Pattern
import Minigame.Design.Rules
import Minigame.Decimal.Binary
import Minigame.Decimal.Reading

/-! What prompts say in plain phrases: how objects spawn, what they look like and how many may live. -/

namespace Minigame.Phrase

open Minigame.Text Minigame.Text.Pattern Minigame.Decimal

/-- The unit of an interval. -/
def seconds : Pattern :=
  -- The longer units begin with the shorter ones, so the edge behind decides between them.
  andThen (choice [word "s", noun "sec", noun "second"]) edge

/-- An interval in seconds; without a number it is one second. -/
def interval : Pattern :=
  andThen (optional (andThen (capture "seconds" decimal) spaces)) seconds

/-- An interval that something happens in, such as `every 2 seconds`. -/
def period (connectors : List String) : Pattern :=
  sequence [edge, words connectors, gap, interval]

/-- A number of objects that come up, such as `add 3`. -/
def increment : Pattern :=
  sequence [edge, words ["add", "adds", "spawn", "spawns"], gap, capture "count" digits, edge]

/-- A number of objects that doubles with a period. -/
def doubling : Pattern :=
  sequence [edge, words ["double", "doubles", "doubling"], edge, filler, period ["every", "each"]]

/-- A number of objects and then a period. -/
def incrementThenPeriod : Pattern :=
  sequence [increment, filler, period ["every", "per", "each"]]

/-- A period and then a number of objects. -/
def periodThenIncrement : Pattern :=
  sequence [period ["every", "per", "each"], filler, increment]

/-- The word for a rate that stays the same. -/
def fixedRate : Pattern := whole (word "fixed")

/-- A noun for what the objects look like. -/
def skinNoun : Pattern :=
  whole (capture "noun" (choice (Skin.all.map fun skin => noun skin.name)))

/-- A request to change what the objects look like, with any noun. -/
def reskin : Pattern :=
  -- What is changed, what it is changed into, and the three ways to say so.
  let target := choice [word "them", word "it", sequence [word "the", gap, one isWordChar, most isWordChar]]
  let result := choice [word "into", sequence [word "look", gap, word "like"]]
  let request := choice
    [sequence [words ["make", "turn"], gap, target, gap, result, gap],
     sequence [word "skin", spaces, words ["to", ":", "="], spaces],
     sequence [word "reskin", gap, words ["as", "to", "into"], gap]]
  -- The noun itself is open, but it is one of ASCII letters in any case.
  let letter := fun c => isAsciiLetter (foldLetter c)
  sequence [edge, request, one letter, most letter, edge]

/-- A number of objects that must not be passed. -/
def limit : Pattern :=
  let phrase := choice
    [sequence [word "game", spaces, word "over", gap, word "at"],
     sequence [noun "end", gap, word "at"],
     andThen (word "limit") (optional (andThen gap (words ["of", "to", "at", "is"]))),
     sequence [word "max", optional (word "imum"), optional (andThen gap (word "of"))],
     sequence [word "up", gap, word "to"]]
  sequence [edge, phrase, gap, capture "count" digits, edge]

/-- The verbs for what a player does to a bubble. -/
def bubbleVerbs : List Pattern :=
  [andThen (word "prick") (optional (words ["s", "ing", "ed"])),
   andThen (word "pop") (optional (words ["s", "ping", "ped"]))]

/-- A word about bubbles and what is done to them. -/
def bubbleWord : Pattern :=
  whole (choice (noun "bubble" :: bubbleVerbs))

/-- A word about any of the objects that spawn with time, or about what is done to them. -/
def survivalWord : Pattern :=
  whole (choice (bubbleVerbs ++ Skin.all.map fun skin => noun skin.name))

/-- An interval in milliseconds, rounded; it must not be shorter than one. -/
def intervalMs? (seconds : Option (List Char)) : Option Nat := do
  let seconds ← match seconds with
    -- A period without a number is one second.
    | some text => readFloat? text
    | none => some 1.0
  let ms := seconds * 1000.0
  if binary64.isFinite ms.toBits.toNat then
    -- An interval does not pass the largest number of 64 bits.
    let whole := min (roundToInt ms) (2 ^ 64 - 1)
    if 1 ≤ whole then some whole.toNat else none
  else none

/-- The rule of a phrase that doubles. -/
def doublingRule? (prompt : String) : Option SpawnRule := do
  -- The first match decides; a number that does not convert leaves the prompt without this rule.
  let found ← doubling.find? prompt
  let ms ← intervalMs? (found.captured? "seconds")
  return .doubling ms

/-- The rule of a phrase with a number of objects and a period in either order. -/
def incrementRule? (prompt : String) : Option SpawnRule := do
  -- A number in front of a period is looked for in the whole prompt before the other order is.
  let found ← incrementThenPeriod.find? prompt <|> periodThenIncrement.find? prompt
  let count ← readUnsigned? 32 (← found.captured? "count")
  let ms ← intervalMs? (found.captured? "seconds")
  let mode := if fixedRate.occursIn prompt then SpawnMode.fixed else .linear
  return ⟨mode, ms, some count⟩

/-- The spawn rule a prompt states; one that doubles goes first. -/
def spawnRule? (prompt : String) : Option SpawnRule :=
  doublingRule? prompt <|> incrementRule? prompt

/-- The skin a prompt asks for; a request with an unknown noun gets the skin of the template. -/
def skin? (prompt : String) (template : Template) : Option Skin :=
  -- A noun that is recognized but spells no skin falls through to the request.
  ((skinNoun.find? prompt).bind fun found =>
      (found.captured? "noun").bind fun noun => Skin.ofNoun? (String.ofList noun))
    <|> if reskin.occursIn prompt then some template.baselineSkin else none

/-- The number of objects a prompt says must not be passed. -/
def limit? (prompt : String) : Option Nat := do
  -- A limit of nothing is no limit, and neither is a number that is too large.
  let found ← limit.find? prompt
  let count ← readUnsigned? 32 (← found.captured? "count")
  if 0 < count then some count else none

/-- Whether a prompt mentions bubbles, pricking or popping. -/
def mentionsBubbles (prompt : String) : Bool :=
  bubbleWord.occursIn prompt

/-- Whether a prompt describes a survival game. -/
def isSurvivalPrompt (prompt : String) : Bool :=
  survivalWord.occursIn prompt || (spawnRule? prompt).isSome

end Minigame.Phrase
