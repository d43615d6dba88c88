import Minigame.Hash.Lanes

/-! The BLAKE3 hash of a byte string, with the default output of 32 bytes. -/

namespace Minigame.Hash.Blake3

/-- The initial chaining value. -/
def initialRows : Lanes × Lanes :=
  (⟨0x6A09E667, 0xBB67AE85, 0x3C6EF372, 0xA54FF53A⟩, ⟨0x510E527F, 0x9B05688C, 0x1F83D9AB, 0x5BE0CD19⟩)

/-- Where each message word of the next round comes from. -/
def messageOrder : List Nat :=
  [2, 6, 3, 10, 7, 0, 4, 13, 1, 11, 12, 5, 9, 14, 15, 8]

/-- The flag of the first block of a chunk. -/
def chunkStart : UInt32 := 1

/-- The flag of the last block of a chunk. -/
def chunkEnd : UInt32 := 2

/-- The flag of a node that joins two others. -/
def parent : UInt32 := 4

/-- The flag of the node that gives the output. -/
def root : UInt32 := 8

/-- Mixes two message words into each column. -/
def mixColumns (s : Rows) (x y : Lanes) : Rows :=
  let a := s.a + s.b + x
  let d := (s.d ^^^ a).map (rotateRight 16)
  let c := s.c + d
  let b := (s.b ^^^ c).map (rotateRight 12)
  let a := a + b + y
  let d := (d ^^^ a).map (rotateRight 8)
  let c := c + d
  let b := (b ^^^ c).map (rotateRight 7)
  ⟨a, b, c, d⟩

/-- The message words at four places. -/
def pick (message : Array UInt32) (i j k l : Nat) : Lanes :=
  ⟨message.getD i 0, message.getD j 0, message.getD k 0, message.getD l 0⟩

/-- One round: the columns take the first eight message words and the diagonals the others. -/
def round (s : Rows) (message : Array UInt32) : Rows :=
  let s := mixColumns s (pick message 0 2 4 6) (pick message 1 3 5 7)
  (mixColumns s.diagonalize (pick message 8 10 12 14) (pick message 9 11 13 15)).undiagonalize

/-- Rounds with the message words put into a new order before each but the first. -/
def rounds : Nat → Rows → Array UInt32 → Rows
  | 0, s, _ => s
  | n + 1, s, message =>
    rounds n (round s message) (messageOrder.map (message.getD · 0)).toArray

/-- A chaining value: eight words that stand for everything below a node. -/
structure Chaining where
  left : Lanes
  right : Lanes
  deriving DecidableEq

/-- The chaining value of one block of sixteen words. -/
def compress (chaining : Chaining) (message : List UInt32) (counter : Nat) (length flags : UInt32) :
    Chaining :=
  let count := counter.toUInt64
  let s : Rows :=
    ⟨chaining.left, chaining.right, initialRows.1, ⟨count.toUInt32, (count >>> 32).toUInt32, length, flags⟩⟩
  let s := rounds 7 s message.toArray
  ⟨s.a ^^^ s.c, s.b ^^^ s.d⟩

/-- The chaining value in front of everything. -/
def initial : Chaining := ⟨initialRows.1, initialRows.2⟩

/-- Sixteen little-endian words of a block of up to 64 bytes, zeros behind its end. -/
def words : Nat → List UInt8 → List UInt32
  | 0, _ => []
  | n + 1, bytes =>
    let value : UInt32 := (bytes.take 4).foldr (fun byte word => (word <<< 8) ||| byte.toUInt32) 0
    value :: words n (bytes.drop 4)

/-- The chaining value of a chunk; the flags given apply to its last block. -/
def chunkBlocks (counter : Nat) (last : UInt32) (fuel : Nat) (chaining : Chaining)
    (flags : UInt32) (bytes : List UInt8) : Chaining :=
  match fuel with
  | 0 => chaining
  | fuel + 1 =>
    let block := bytes.take 64
    let rest := bytes.drop 64
    let length := block.length.toUInt32
    if rest.isEmpty then
      compress chaining (words 16 block) counter length (flags ||| chunkEnd ||| last)
    else
      chunkBlocks counter last fuel (compress chaining (words 16 block) counter length flags) 0 rest

/-- The chaining value of a chunk of up to 1024 bytes. -/
def chunk (counter : Nat) (last : UInt32) (bytes : List UInt8) : Chaining :=
  -- A chunk has at most sixteen blocks.
  chunkBlocks counter last 16 initial chunkStart bytes

/-- Joins two nodes. -/
def join (flags : UInt32) (a b : Chaining) : Chaining :=
  compress initial (a.left.toList ++ a.right.toList ++ b.left.toList ++ b.right.toList) 0 64
    (parent ||| flags)

/-- Joins neighbours in pairs; a node without a neighbour moves up as it is. -/
def joinPairs : List Chaining → List Chaining
  | a :: b :: rest => join 0 a b :: joinPairs rest
  | short => short

/-- Joining pairs never makes a list longer. -/
theorem length_joinPairs_le : (nodes : List Chaining) → (joinPairs nodes).length ≤ nodes.length
  | [] => by simp [joinPairs]
  | [_] => by simp [joinPairs]
  | a :: b :: rest => by
    have := length_joinPairs_le rest
    simp only [joinPairs, List.length_cons]
    omega

/-- Joins nodes layer by layer; the last join gives the output. -/
def joinAll : List Chaining → Chaining
  | [] => initial
  | [only] => only
  | [a, b] => join root a b
  | a :: b :: c :: rest =>
    have := length_joinPairs_le rest
    joinAll (join 0 a b :: joinPairs (c :: rest))
termination_by nodes => nodes.length
decreasing_by
  have := length_joinPairs_le (c :: rest)
  simp only [List.length_cons] at *
  omega

/-- Splits bytes into chunks of 1024. -/
def chunks : Nat → List UInt8 → List (List UInt8)
  | 0, _ => []
  | n + 1, bytes => bytes.take 1024 :: chunks n (bytes.drop 1024)

/-- The output node of a byte string. -/
def outputNode (bytes : List UInt8) : Chaining :=
  if bytes.length ≤ 1024 then chunk 0 root bytes
  else
    let parts := chunks ((bytes.length + 1023) / 1024) bytes
    joinAll (parts.zipIdx.map fun (part, counter) => chunk counter 0 part)

/-- The four bytes of a word, the lowest first. -/
def wordBytes (word : UInt32) : List UInt8 :=
  [word.toUInt8, (word >>> 8).toUInt8, (word >>> 16).toUInt8, (word >>> 24).toUInt8]

/-- The 32 byte hash of a byte string. -/
def hash (bytes : List UInt8) : List UInt8 :=
  let node := outputNode bytes
  (node.left.toList ++ node.right.toList).flatMap wordBytes

/-- A hash has 32 bytes. -/
theorem length_hash (bytes : List UInt8) : (hash bytes).length = 32 := by
  simp [hash, Lanes.toList, wordBytes]

end Minigame.Hash.Blake3
