import Minigame.Json.Basic
import Minigame.Text.Case
import Minigame.Text.Hex

/-! The identifiers of games. -/

namespace Minigame

open Minigame.Text

/-- An identifier of 128 bits. -/
structure GameId where
  value : BitVec 128
  deriving DecidableEq

namespace GameId

/-- The text of an identifier: 32 digits in groups of 8, 4, 4, 4 and 12. -/
def text (id : GameId) : String :=
  let group (count shift : Nat) := hexDigits count (id.value.toNat / 16 ^ shift)
  String.ofList
    (group 8 24 ++ '-' :: group 4 20 ++ '-' :: group 4 16 ++ '-' :: group 4 12 ++ '-' :: group 12 0)

/-- Identifiers with the same text are the same. -/
theorem text_inj {id other : GameId} (same : id.text = other.text) : id = other := by
  have chars := String.ofList_injective same
  -- Behind one another stand five groups of the same lengths.
  obtain ⟨chars, fifth⟩ := List.append_inj chars (by simp)
  obtain ⟨chars, fourth⟩ := List.append_inj chars (by simp)
  obtain ⟨chars, third⟩ := List.append_inj chars (by simp)
  obtain ⟨first, second⟩ := List.append_inj chars (by simp)
  have first := mod_eq_of_hexDigits first
  have second := mod_eq_of_hexDigits (List.cons.inj second).2
  have third := mod_eq_of_hexDigits (List.cons.inj third).2
  have fourth := mod_eq_of_hexDigits (List.cons.inj fourth).2
  have fifth := mod_eq_of_hexDigits (List.cons.inj fifth).2
  -- Together the groups give all 32 digits, and an identifier has no more.
  have value : id.value.toNat = other.value.toNat := by
    have := id.value.isLt
    have := other.value.isLt
    omega
  cases id
  cases other
  exact congrArg GameId.mk (BitVec.eq_of_toNat_eq value)

/-- The identifier with these hexadecimal digits of either case. -/
def ofHex? (digits : List Char) : Option GameId :=
  (digits.foldlM (fun value c => (hexValue? c).map (16 * value + ·)) 0).map fun value =>
    ⟨BitVec.ofNat 128 value⟩

/-- Reads 32 digits in groups separated by hyphens. -/
def readGrouped? (text : List Char) : Option GameId :=
  let hyphens := [8, 13, 18, 23]
  if text.length = 36 ∧ hyphens.all (fun i => text[i]? = some '-') then
    let digits := text.zipIdx.filterMap fun (c, i) => if i ∈ hyphens then none else some c
    ofHex? digits
  else none

/-- The mark in front of an identifier written as a resource name. -/
def resourceMark : List Char := "urn:uuid:".toList

/--
Reads an identifier: 32 digits, the same in groups, or the groups inside braces or behind the mark
of a resource name.
-/
def parse? (text : String) : Option GameId :=
  let text := text.toList
  -- The length tells the forms apart, so no form is tried twice.
  if text.length = 32 then ofHex? text
  else if text.length = 38 ∧ text.head? = some '\x7b' ∧ text.getLast? = some '\x7d' then
    readGrouped? (text.drop 1).dropLast
  else if text.length = 45 ∧ (text.take 9).map asciiLowerChar = resourceMark then
    readGrouped? (text.drop 9)
  else readGrouped? text

/-- Reads an identifier from a string value. -/
def ofJson? (value : Json) : Option GameId :=
  value.asString?.bind parse?

end GameId

end Minigame
