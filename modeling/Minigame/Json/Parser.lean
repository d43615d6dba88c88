import Minigame.Json.Lexer

/-! JSON text read as a value. -/

namespace Minigame.Json

/-- A container that is still open. -/
inductive Frame where
  /-- The items so far, last one first. -/
  | items (done : List Json)
  /-- The fields so far and the name that waits for its value. -/
  | fields (done : List (String × Json)) (name : String)

/-- What has been read of a value and what may come next; the innermost container is first. -/
inductive Builder where
  | expectValue (outer : List Frame)
  | firstItem (outer : List Frame)
  | firstName (outer : List Frame)
  | expectName (done : List (String × Json)) (outer : List Frame)
  | expectColon (done : List (String × Json)) (name : String) (outer : List Frame)
  | afterItem (done : List Json) (outer : List Frame)
  | afterField (done : List (String × Json)) (outer : List Frame)
  | complete (value : Json)

/-- The number of containers that may be open at once. -/
def maxDepth : Nat := 127

namespace Builder

/-- Hands a complete value to the container around it. -/
def deliver (value : Json) : List Frame → Builder
  | [] => .complete value
  | .items done :: outer => .afterItem (value :: done) outer
  -- A name that comes again takes the place of its first value.
  | .fields done name :: outer => .afterField (Fields.set name value done) outer

/-- Begins a value with its first token. -/
def begin (outer : List Frame) : Token → Option Builder
  | .scalar value => some (deliver value outer)
  | .text value => some (deliver (.str value) outer)
  | .openArray => if outer.length < maxDepth then some (.firstItem outer) else none
  | .openObject => if outer.length < maxDepth then some (.firstName outer) else none
  | _ => none

/-- Takes in one token. -/
def push : Builder → Token → Option Builder
  | .expectValue outer, token => begin outer token
  | .firstItem outer, .closeArray => some (deliver (.arr []) outer)
  -- Only an empty sequence may end here; behind a comma an item must follow.
  | .firstItem outer, token => begin (.items [] :: outer) token
  | .firstName outer, .closeObject => some (deliver (.obj []) outer)
  -- The same holds of the names of a mapping.
  | .firstName outer, .text name => some (.expectColon [] name outer)
  | .expectName done outer, .text name => some (.expectColon done name outer)
  | .expectColon done name outer, .colon => some (.expectValue (.fields done name :: outer))
  | .afterItem done outer, .comma => some (.expectValue (.items done :: outer))
  | .afterItem done outer, .closeArray => some (deliver (.arr done.reverse) outer)
  | .afterField done outer, .comma => some (.expectName done outer)
  | .afterField done outer, .closeObject => some (deliver (.obj done) outer)
  | _, _ => none

end Builder

/-- The state of reading a text. -/
structure Reader where
  lexer : Lexer
  builder : Builder

/-- The state in front of a text. -/
def Reader.initial : Reader := ⟨.between, .expectValue []⟩

/-- Reads one character. -/
def Reader.step (reader : Reader) (c : Char) : Option Reader := do
  let (tokens, lexer) ← reader.lexer.step c
  let builder ← tokens.foldlM Builder.push reader.builder
  return ⟨lexer, builder⟩

/-- The value at the end of a text. -/
def Reader.finish (reader : Reader) : Option Json := do
  let tokens ← reader.lexer.pending
  -- A word or number at the end of the text has not been handed on yet.
  match ← tokens.foldlM Builder.push reader.builder with
  | .complete value => some value
  | _ => none

/-- The value a text stands for, if it is JSON text. -/
def parseChars (text : List Char) : Option Json :=
  (text.foldlM Reader.step Reader.initial).bind Reader.finish

/-- The value a string stands for, if it is JSON text. -/
def parse (text : String) : Option Json :=
  parseChars text.toList

end Minigame.Json
