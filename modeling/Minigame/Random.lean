import Minigame.Hash.Lanes

/-! Random numbers: the ChaCha stream with twelve rounds, keyed by a seed of 64 bits. -/

namespace Minigame

open Minigame.Hash

namespace ChaCha

/-- The constant first row of a block. -/
def constants : Lanes := ⟨0x61707865, 0x3320646E, 0x79622D32, 0x6B206574⟩

/-- Mixes each column. -/
def mixColumns (s : Rows) : Rows :=
  let a := s.a + s.b
  let d := (s.d ^^^ a).map (rotateLeft 16)
  let c := s.c + d
  let b := (s.b ^^^ c).map (rotateLeft 12)
  let a := a + b
  let d := (d ^^^ a).map (rotateLeft 8)
  let c := c + d
  let b := (b ^^^ c).map (rotateLeft 7)
  ⟨a, b, c, d⟩

/-- Mixes the columns and then the diagonals, a number of times. -/
def doubleRounds : Nat → Rows → Rows
  | 0, s => s
  | n + 1, s => doubleRounds n (mixColumns (mixColumns s).diagonalize).undiagonalize

/-- The words of one block of the stream. -/
def block (key : Lanes × Lanes) (counter : Nat) : List UInt32 :=
  let count := counter.toUInt64
  let s : Rows := ⟨constants, key.1, key.2, ⟨count.toUInt32, (count >>> 32).toUInt32, 0, 0⟩⟩
  let mixed := doubleRounds 6 s
  Rows.toList ⟨mixed.a + s.a, mixed.b + s.b, mixed.c + s.c, mixed.d + s.d⟩

end ChaCha

/-- A place in a stream of random words. -/
structure Generator where
  key : Lanes × Lanes
  /-- The number of the block behind the pending words. -/
  nextBlock : Nat
  /-- The words of the current block that have not been drawn. -/
  pending : List UInt32
  deriving DecidableEq

namespace Generator

/-- The next state of the sequence that spreads a seed over a key. -/
def spread (state : UInt64) : UInt64 :=
  state * 6364136223846793005 + 11634580027462260723

/-- The key word that a state gives. -/
def keyWord (state : UInt64) : UInt32 :=
  rotateRight (state >>> 59).toUInt32 (((state >>> 18) ^^^ state) >>> 27).toUInt32

/-- The first key words of a seed. -/
def keyWords : Nat → UInt64 → List UInt32
  | 0, _ => []
  | n + 1, state =>
    let state := spread state
    keyWord state :: keyWords n state

/-- The start of the stream of a seed. -/
def ofSeed (seed : UInt64) : Generator :=
  match keyWords 8 seed with
  | [a, b, c, d, e, f, g, h] => ⟨(⟨a, b, c, d⟩, ⟨e, f, g, h⟩), 0, []⟩
  | _ => ⟨(⟨0, 0, 0, 0⟩, ⟨0, 0, 0, 0⟩), 0, []⟩

/-- Draws a word. -/
def word (g : Generator) : UInt32 × Generator :=
  match g.pending with
  | w :: rest => (w, { g with pending := rest })
  | [] =>
    match ChaCha.block g.key g.nextBlock with
    | w :: rest => (w, { g with nextBlock := g.nextBlock + 1, pending := rest })
    | [] => (0, g)

/-- Draws two words as one of 64 bits, the lower half first. -/
def longWord (g : Generator) : UInt64 × Generator :=
  let (low, g) := g.word
  let (high, g) := g.word
  ((high.toUInt64 <<< 32) ||| low.toUInt64, g)

/-- Draws a number between two bounds. -/
def between (low high : Float) (g : Generator) : Float × Generator :=
  let (bits, g) := g.longWord
  -- The upper 52 bits are the fraction of a number from one up to two.
  let unit := Float.ofBits ((0x3FF0000000000000 : UInt64) ||| (bits >>> 12)) - 1.0
  (unit * (high - low) + low, g)

/-- Draws one of eight numbers from zero up. -/
def belowEight (g : Generator) : Nat × Generator :=
  let (w, g) := g.word
  ((w >>> 29).toNat, g)

end Generator

end Minigame
