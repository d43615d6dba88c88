/-! Four words worked on side by side, a row of a mixing state. -/

namespace Minigame.Hash

/-- Four 32-bit words. -/
structure Lanes where
  w0 : UInt32
  w1 : UInt32
  w2 : UInt32
  w3 : UInt32
  deriving DecidableEq

namespace Lanes

/-- Applies an operation to the words at the same place. -/
def zip (f : UInt32 → UInt32 → UInt32) (a b : Lanes) : Lanes :=
  ⟨f a.w0 b.w0, f a.w1 b.w1, f a.w2 b.w2, f a.w3 b.w3⟩

/-- Applies an operation to each word. -/
def map (f : UInt32 → UInt32) (a : Lanes) : Lanes :=
  ⟨f a.w0, f a.w1, f a.w2, f a.w3⟩

instance : Add Lanes := ⟨zip (· + ·)⟩

instance : XorOp Lanes := ⟨zip (· ^^^ ·)⟩

/-- Moves the words one place to the front. -/
def rotate (a : Lanes) : Lanes :=
  ⟨a.w1, a.w2, a.w3, a.w0⟩

/-- The words in order. -/
def toList (a : Lanes) : List UInt32 :=
  [a.w0, a.w1, a.w2, a.w3]

end Lanes

/-- A word with its bits rotated to the left; the amount is less than 32. -/
def rotateLeft (amount : UInt32) (word : UInt32) : UInt32 :=
  if amount = 0 then word else (word <<< amount) ||| (word >>> (32 - amount))

/-- A word with its bits rotated to the right; the amount is less than 32. -/
def rotateRight (amount : UInt32) (word : UInt32) : UInt32 :=
  if amount = 0 then word else (word >>> amount) ||| (word <<< (32 - amount))

/-- A mixing state of sixteen words in four rows. -/
structure Rows where
  a : Lanes
  b : Lanes
  c : Lanes
  d : Lanes
  deriving DecidableEq

namespace Rows

/-- The sixteen words in order. -/
def toList (s : Rows) : List UInt32 :=
  s.a.toList ++ s.b.toList ++ s.c.toList ++ s.d.toList

/-- Turns the diagonals of the state into its columns. -/
def diagonalize (s : Rows) : Rows :=
  ⟨s.a, s.b.rotate, s.c.rotate.rotate, s.d.rotate.rotate.rotate⟩

/-- Turns the columns back into the diagonals they came from. -/
def undiagonalize (s : Rows) : Rows :=
  ⟨s.a, s.b.rotate.rotate.rotate, s.c.rotate.rotate, s.d.rotate⟩

end Rows

end Minigame.Hash
