import Minigame.Text.Range
import Minigame.Text.CaseTable

/-! Upper and lower case of whole texts. -/

namespace Minigame.Text

/-- The character a run maps a code point to, if the run holds it. -/
def CaseRun.image? (run : CaseRun) (code : Nat) : Option Nat :=
  let (first, last, step, image) := run
  if first ≤ code ∧ code ≤ last ∧ (code - first) % step = 0 then some (image + (code - first))
  else none

/-- Reads a code point through expansions and runs; a code point in neither stays as it is. -/
def mapCase (expansions : List (Nat × List Nat)) (runs : List CaseRun) (c : Char) : List Char :=
  -- A character that becomes several ones is in the first table only.
  match expansions.lookup c.toNat with
  | some codes => codes.map Char.ofNat
  | none =>
    match runs.findSome? fun run => run.image? c.toNat with
    | some code => [Char.ofNat code]
    | none => [c]

/-- The ASCII letters in lower case, everything else unchanged. -/
def asciiLowerChar (c : Char) : Char :=
  if 'A' ≤ c ∧ c ≤ 'Z' then Char.ofNat (c.toNat + 32) else c

/-- The ASCII letters in upper case, everything else unchanged. -/
def asciiUpperChar (c : Char) : Char :=
  if 'a' ≤ c ∧ c ≤ 'z' then Char.ofNat (c.toNat - 32) else c

/-- A string with its ASCII letters in lower case. -/
def asciiLower (text : String) : String :=
  String.ofList (text.toList.map asciiLowerChar)

/-- Whether two strings are equal but for the case of ASCII letters. -/
def eqIgnoringAsciiCase (a b : String) : Bool :=
  asciiLower a == asciiLower b

/-- The lower-case form of a character by itself. -/
def lowerChar (c : Char) : List Char :=
  if c.toNat < 0x80 then [asciiLowerChar c] else mapCase lowerExpansions lowerRuns c

/-- The upper-case form of a character. -/
def upperChar (c : Char) : List Char :=
  if c.toNat < 0x80 then [asciiUpperChar c] else mapCase upperExpansions upperRuns c

/-- Whether the first character that is not ignorable for case is a cased one. -/
def startsCased (text : List Char) : Bool :=
  match text.dropWhile fun c => inRanges caseIgnorableRanges c.toNat with
  | c :: _ => inRanges casedRanges c.toNat
  | [] => false

/--
Lower case with the final sigma: a capital sigma that ends a word becomes `ς`.

The characters in front are handed over nearest first.
-/
def lowerAfter : List Char → List Char → List Char
  | _, [] => []
  | before, c :: rest =>
    if c = 'Σ' then
      -- Only a sigma with a letter in front and none behind ends a word.
      (if startsCased before && !startsCased rest then 'ς' else 'σ') :: lowerAfter (c :: before) rest
    else lowerChar c ++ lowerAfter (c :: before) rest

/-- A text in lower case. -/
def lowerChars (text : List Char) : List Char :=
  lowerAfter [] text

/-- A string in lower case. -/
def lower (text : String) : String :=
  String.ofList (lowerChars text.toList)

/-- A string in upper case. -/
def upper (text : String) : String :=
  String.ofList (text.toList.flatMap upperChar)

end Minigame.Text
