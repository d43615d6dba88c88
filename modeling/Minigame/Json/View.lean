import Minigame.Json.Pointer
import Minigame.Json.Record
import Minigame.Text.Blank

/-! Lenient reads: a part of a document that is missing or of the wrong kind reads as nothing. -/

namespace Minigame.Json

open Minigame.Text Minigame.Decimal

/-- The string at a pointer, unless it is blank. -/
def textAt? (pointer : String) (doc : Json) : Option String :=
  ((doc.pointer? pointer).bind asString?).filter (!isBlankText ·)

/-- A number, or a numeric text with white space around it. -/
def asNumber? : Json → Option Float
  -- Numbers typed into a text field come as strings.
  | .str text => readFloat? (trimChars text.toList)
  | value => value.asFloat?

/-- The finite number at a pointer. -/
def numberAt? (pointer : String) (doc : Json) : Option Float :=
  ((doc.pointer? pointer).bind asNumber?).filter (·.isFinite)

/-- The truth value at a pointer. -/
def boolAt? (pointer : String) (doc : Json) : Option Bool :=
  (doc.pointer? pointer).bind asBool?

/-- The strings of the sequence at a pointer, or the one string there. -/
def stringsAt (pointer : String) (doc : Json) : List String :=
  match doc.pointer? pointer with
  | some (.arr items) => items.filterMap asString?
  | some (.str text) => [text]
  | _ => []

end Minigame.Json
