import Minigame.Json.Pointer

/-!
Paths into a document: the names and places on the way to a part of it.

Written segments hold no slash and are read back, so the slashes of a text part the segments.
-/

namespace Minigame

/-- The segments of a path; the root has none. -/
structure Path where
  segments : List String
  deriving DecidableEq

/-- Why a text is no path. -/
inductive PathError where
  /-- A tilde in this segment is followed neither by 0 nor by 1. -/
  | invalidEscape (segment : String)
  deriving DecidableEq

/-- The text of a path error. -/
def PathError.message : PathError → String
  | .invalidEscape segment => "invalid escape in path segment: " ++ segment

namespace Path

/-- The path of the whole document. -/
def root : Path := ⟨[]⟩

/-- A path one segment longer. -/
def child (path : Path) (segment : String) : Path :=
  ⟨path.segments ++ [segment]⟩

/-- Whether a path begins with the segments of another one. -/
def startsWith (path start : Path) : Bool :=
  start.segments.isPrefixOf path.segments

/-- A path begins with another one if its segments do. -/
@[simp] theorem startsWith_iff (path start : Path) :
    path.startsWith start = true ↔ start.segments <+: path.segments := by
  simp [startsWith]

/-- The written form of a character inside a segment. -/
def escapeChar (c : Char) : List Char :=
  -- The tilde marks an escape, so it needs one itself.
  if c = '~' then ['~', '0'] else if c = '/' then ['~', '1'] else [c]

/-- The written form of a segment. -/
def escape (segment : List Char) : List Char :=
  segment.flatMap escapeChar

/-- Reads the written form of a segment. -/
def unescape? : List Char → Option (List Char)
  | [] => some []
  | '~' :: '0' :: rest => (unescape? rest).map ('~' :: ·)
  | '~' :: '1' :: rest => (unescape? rest).map ('/' :: ·)
  | c :: rest => if c = '~' then none else (unescape? rest).map (c :: ·)

/-- A written segment is read back. -/
@[simp] theorem unescape?_escape (segment : List Char) :
    unescape? (escape segment) = some segment := by
  -- Each character is written so that its first sign tells which of the three forms it has.
  induction segment with
  | nil => rfl
  | cons c rest ih =>
    simp only [escape] at ih
    by_cases tilde : c = '~'
    · simp [escape, escapeChar, tilde, unescape?, ih]
    · by_cases slash : c = '/'
      · simp [escape, escapeChar, slash, unescape?, ih]
      · simp [escape, escapeChar, tilde, slash, unescape?, ih]

/-- No written segment holds a slash. -/
theorem slash_notMem_escape (segment : List Char) : '/' ∉ escape segment := by
  -- The one character whose plain form has a slash is written without it.
  simp only [escape, List.mem_flatMap, not_exists, not_and]
  intro c _
  unfold escapeChar
  split
  · decide
  · split
    · decide
    · next _ slash => simpa using Ne.symm slash

/-- The characters of a path: each segment behind a slash. -/
def chars (path : Path) : List Char :=
  path.segments.flatMap fun segment => '/' :: escape segment.toList

/-- The text of a path. -/
def text (path : Path) : String :=
  String.ofList path.chars

/-- Reads one written segment. -/
def readSegment (written : List Char) : Except PathError String :=
  match unescape? written with
  | some segment => .ok (String.ofList segment)
  | none => .error (.invalidEscape (String.ofList written))

/-- A text without the slash in front of it. -/
def dropSlash : List Char → List Char
  | '/' :: rest => rest
  | text => text

/-- Reads a path; the slash in front may be missing, and nothing else is the root. -/
def parseChars (text : List Char) : Except PathError Path :=
  match dropSlash text with
  | [] => .ok root
  -- The text is split before any segment is read, so a segment can hold a slash again.
  | body => (splitChars '/' body).mapM readSegment |>.map Path.mk

/-- Reads the text of a path. -/
def parse (text : String) : Except PathError Path :=
  parseChars text.toList

end Path

end Minigame
