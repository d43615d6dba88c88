import Minigame.Hash.Blake3
import Minigame.Json.Printer
import Minigame.Text.Hex
import Minigame.Text.Utf8

/-! Digests of texts and documents, and their hexadecimal form. -/

namespace Minigame

open Minigame.Text

/-- A hash of 32 bytes. -/
structure Digest where
  bytes : List UInt8
  length_eq : bytes.length = 32
  deriving DecidableEq

/-- Why a text or a byte string is no digest. -/
inductive DigestError where
  | oddLength
  | invalidCharacter (byte : UInt8) (position : Nat)
  | invalidLength (actual : Nat)
  deriving DecidableEq

/-- The two hexadecimal digits of a byte. -/
def hexPair (byte : UInt8) : List Char :=
  hexDigits 2 byte.toNat

/-- A byte read as the character of the same number, quoted as a character literal. -/
def quotedByte (byte : UInt8) : String :=
  let c := Char.ofNat byte.toNat
  let printable := (0x20 ≤ byte && byte < 0x7F) || (0xA1 ≤ byte && byte ≠ 0xAD)
  let body : List Char :=
    match c with
    | '\x00' => ['\\', '0']
    | '\t' => ['\\', 't']
    | '\n' => ['\\', 'n']
    | '\r' => ['\\', 'r']
    | '\'' => ['\\', '\'']
    | '\\' => ['\\', '\\']
    | c =>
      if printable then [c]
      else ['\\', 'u', '\x7b'] ++ Nat.toDigits 16 byte.toNat ++ ['\x7d']
  String.ofList ('\'' :: (body ++ ['\'']))

/-- The text of a digest error. -/
def DigestError.message : DigestError → String
  | .oddLength => "hex decode error: Odd number of digits"
  | .invalidCharacter byte position =>
    "hex decode error: Invalid character " ++ quotedByte byte ++ " at position "
      ++ toString position
  | .invalidLength actual => "invalid digest length: expected 32, got " ++ toString actual

namespace Json

mutual

/-- The document with the names of all its mappings in ascending order. -/
def canonical : Json → Json
  | .arr items => .arr (canonicalItems items)
  | .obj fields => .obj (canonicalFields fields)
  | value => value

/-- The values of a sequence, each with the names of its mappings in ascending order. -/
def canonicalItems : List Json → List Json
  | [] => []
  | item :: rest => canonical item :: canonicalItems rest

/-- The fields of a mapping in ascending order, each with the names of its mappings so too. -/
def canonicalFields : List (String × Json) → Fields Json
  | [] => []
  -- Each name is put where it belongs among those behind it.
  | (name, value) :: rest => Fields.set name (canonical value) (canonicalFields rest)

end

end Json

namespace Digest

/-- The digest with the given bytes. -/
def ofBytes (bytes : List UInt8) : Except DigestError Digest :=
  if h : bytes.length = 32 then .ok ⟨bytes, h⟩ else .error (.invalidLength bytes.length)

/-- The digest of a byte string. -/
def compute (data : List UInt8) : Digest :=
  ⟨Hash.Blake3.hash data, Hash.Blake3.length_hash data⟩

/-- The bytes that stand for a document: its compact text with the names in order. -/
def documentBytes (value : Json) : List UInt8 :=
  utf8 value.canonical.compact

/-- The digest of a document. -/
def ofJson (value : Json) : Digest :=
  compute (documentBytes value)

/-- The eight bytes of a length below `2 ^ 64`, the lowest first. -/
def lengthBytes (n : Nat) : List UInt8 :=
  (List.range 8).map fun i => (n / 256 ^ i).toUInt8

/-- The bytes that stand for a list of parts: each part behind its length. -/
def partsBytes (parts : List (List UInt8)) : List UInt8 :=
  parts.flatMap fun part => lengthBytes part.length ++ part

/-- The digest of a list of parts. -/
def ofParts (parts : List (List UInt8)) : Digest :=
  compute (partsBytes parts)

/-- The digest in lower-case hexadecimal digits. -/
def hex (digest : Digest) : String :=
  String.ofList (digest.bytes.flatMap hexPair)

/-- The first eight bytes in hexadecimal digits. -/
def short (digest : Digest) : String :=
  String.ofList ((digest.bytes.take 8).flatMap hexPair)

/-- The value of a byte that is a hexadecimal digit. -/
def digitOf (byte : UInt8) (position : Nat) : Except DigestError Nat :=
  match hexValue? (Char.ofNat byte.toNat) with
  | some value => .ok value
  | none => .error (.invalidCharacter byte position)

/-- Reads pairs of digits from a position on. -/
def readPairs (position : Nat) : List UInt8 → Except DigestError (List UInt8)
  | [] => .ok []
  | [_] => .error .oddLength
  | high :: low :: rest => do
    let high ← digitOf high position
    let low ← digitOf low (position + 1)
    let bytes ← readPairs (position + 2) rest
    return (16 * high + low).toUInt8 :: bytes

/-- Reads the hexadecimal form of a digest; an odd length is found before any bad digit. -/
def parse (text : String) : Except DigestError Digest := do
  let digits := utf8 text
  if digits.length % 2 = 1 then throw .oddLength
  let bytes ← readPairs 0 digits
  ofBytes bytes

end Digest

end Minigame
