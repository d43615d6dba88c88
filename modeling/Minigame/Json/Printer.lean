import Minigame.Json.Basic
import Minigame.Decimal.Layout
import Minigame.Text.Hex

/-! JSON text of a value, compact or indented. -/

namespace Minigame

open Minigame.Text Minigame.Decimal

/--
Doubles are written with the fewest digits that identify them: without an exponent from
`0.00001` up to sixteen whole digits, and always with a point or an exponent.
-/
def documentLayout : Layout where
  plainFrom := -5
  plainBelow := 16
  pointZero := true

/-- The decimal digits of an integer. -/
def intChars : Int → List Char
  | .ofNat n => Nat.toDigits 10 n
  | .negSucc n => '-' :: Nat.toDigits 10 (n + 1)

/-- The text of a number. -/
def Number.chars : Number → List Char
  | .int value => intChars value
  | .double value => documentLayout.writeFloat value

namespace Json

/-- The letter behind a backslash for a character that has a short escape. -/
def shortEscape? : Char → Option Char
  | '"' => some '"'
  | '\\' => some '\\'
  | '\x08' => some 'b'
  | '\x0c' => some 'f'
  | '\n' => some 'n'
  | '\r' => some 'r'
  | '\t' => some 't'
  | _ => none

/-- A character inside a string literal. -/
def escapedChar (c : Char) : List Char :=
  match shortEscape? c with
  | some letter => ['\\', letter]
  | none =>
    -- Other control characters have no letter of their own.
    if c.toNat < 0x20 then
      '\\' :: 'u' :: hexDigits 4 c.toNat
    else [c]

/-- A string literal. -/
def stringChars (text : String) : List Char :=
  '"' :: (text.toList.flatMap escapedChar ++ ['"'])

mutual

/-- The compact text of a value. -/
def chars : Json → List Char
  | .null => ['n', 'u', 'l', 'l']
  | .bool true => ['t', 'r', 'u', 'e']
  | .bool false => ['f', 'a', 'l', 's', 'e']
  | .num value => value.chars
  | .str text => stringChars text
  | .arr [] => ['[', ']']
  | .arr (item :: rest) => '[' :: (chars item ++ itemsChars rest)
  | .obj [] => ['{', '}']
  | .obj ((name, value) :: rest) =>
    '{' :: (stringChars name ++ ':' :: (chars value ++ fieldsChars rest))

/-- The items behind the first one, each led by a comma, and the closing bracket. -/
def itemsChars : List Json → List Char
  | [] => [']']
  | item :: rest => ',' :: (chars item ++ itemsChars rest)

/-- The fields behind the first one, each led by a comma, and the closing brace. -/
def fieldsChars : List (String × Json) → List Char
  | [] => ['}']
  | (name, value) :: rest =>
    ',' :: (stringChars name ++ ':' :: (chars value ++ fieldsChars rest))

end

/-- The compact text of a value. -/
def compact (value : Json) : String :=
  String.ofList value.chars

/-- The compact text of one field whose value is written already. -/
def fieldChars (field : String × List Char) : List Char :=
  stringChars field.1 ++ ':' :: field.2

/-- The compact text of a mapping whose values are written already, in the order of the list. -/
def mappingChars (fields : List (String × List Char)) : List Char :=
  -- Unlike the fields of a value, these keep the order of the list.
  '{' :: (List.intercalate [','] (fields.map fieldChars) ++ ['}'])

/-- A new line indented by two spaces for each level. -/
def newLine (level : Nat) : List Char :=
  '\n' :: List.replicate (2 * level) ' '

mutual

/-- The text of a value with one item or field a line, at a level of indentation. -/
def prettyChars (level : Nat) : Json → List Char
  | .arr [] => ['[', ']']
  | .arr (item :: rest) =>
    '[' :: (newLine (level + 1) ++ prettyChars (level + 1) item ++ prettyItems level rest)
  | .obj [] => ['{', '}']
  | .obj ((name, value) :: rest) =>
    '{' :: (newLine (level + 1) ++ stringChars name ++ ':' :: ' ' :: prettyChars (level + 1) value
      ++ prettyFields level rest)
  | .null => ['n', 'u', 'l', 'l']
  | .bool true => ['t', 'r', 'u', 'e']
  | .bool false => ['f', 'a', 'l', 's', 'e']
  | .num value => value.chars
  | .str text => stringChars text

/-- The items behind the first one and the closing bracket on a line of its own. -/
def prettyItems (level : Nat) : List Json → List Char
  | [] => newLine level ++ [']']
  | item :: rest =>
    ',' :: (newLine (level + 1) ++ prettyChars (level + 1) item ++ prettyItems level rest)

/-- The fields behind the first one and the closing brace on a line of its own. -/
def prettyFields (level : Nat) : List (String × Json) → List Char
  | [] => newLine level ++ ['}']
  | (name, value) :: rest =>
    ',' :: (newLine (level + 1) ++ stringChars name ++ ':' :: ' ' :: prettyChars (level + 1) value
      ++ prettyFields level rest)

end

/-- The indented text of a value. -/
def pretty (value : Json) : String :=
  String.ofList (value.prettyChars 0)

end Json

end Minigame
