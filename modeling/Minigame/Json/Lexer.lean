import Minigame.Json.Literal
import Minigame.Text.Hex

/-! The tokens of JSON text, found one character at a time. -/

namespace Minigame.Json

open Minigame.Text

/-- A token of JSON text. -/
inductive Token where
  | openArray
  | closeArray
  | openObject
  | closeObject
  | comma
  | colon
  | text (value : String)
  /-- Null, a truth value or a number. -/
  | scalar (value : Json)

/-- What has been read of the current token; characters are kept last one first. -/
inductive Lexer where
  | between
  | word (letters : List Char)
  | number (characters : List Char)
  | text (done : List Char)
  /-- Behind a backslash. -/
  | escape (done : List Char)
  /-- Inside the four digits of a code, behind a high surrogate if there was one. -/
  | code (done : List Char) (high : Option Nat) (count value : Nat)
  /-- A high surrogate needs a second code: first its backslash, then its mark. -/
  | pairEscape (done : List Char) (high : Nat)
  | pairMark (done : List Char) (high : Nat)

/-- The white space allowed between tokens. -/
def isSpace (c : Char) : Bool :=
  c = ' ' || c = '\n' || c = '\t' || c = '\r'

/-- The token of a punctuation mark. -/
def punctuation? : Char → Option Token
  | '[' => some .openArray
  | ']' => some .closeArray
  | '\x7b' => some .openObject
  | '\x7d' => some .closeObject
  | ',' => some .comma
  | ':' => some .colon
  | _ => none

/-- The character a one-letter escape stands for. -/
def unescaped? : Char → Option Char
  | '"' => some '"'
  | '\\' => some '\\'
  | '/' => some '/'
  | 'b' => some '\x08'
  | 'f' => some '\x0c'
  | 'n' => some '\n'
  | 'r' => some '\r'
  | 't' => some '\t'
  | _ => none

/-- The value a word stands for. -/
def wordValue? (letters : List Char) : Option Json :=
  if letters = ['n', 'u', 'l', 'l'] then some .null
  else if letters = ['t', 'r', 'u', 'e'] then some (.bool true)
  else if letters = ['f', 'a', 'l', 's', 'e'] then some (.bool false)
  else none

namespace Lexer

/-- Reads a character between two tokens. -/
def start (c : Char) : Option (List Token × Lexer) :=
  if isSpace c then some ([], .between)
  else if c = '"' then some ([], .text [])
  else if c = '-' ∨ isAsciiDigit c then some ([], .number [c])
  else if isAsciiLetter c then some ([], .word [c])
  else (punctuation? c).map fun token => ([token], .between)

/-- The token of a word or number that ends here, if one does. -/
def pending : Lexer → Option (List Token)
  | .between => some []
  | .word letters => (wordValue? letters.reverse).map fun value => [.scalar value]
  | .number characters =>
    (numberLiteral? characters.reverse).map fun value => [.scalar (.num value)]
  | _ => none

/-- Ends the current word or number and reads the next character. -/
def restart (lexer : Lexer) (c : Char) : Option (List Token × Lexer) := do
  -- This character ends the token before it and may begin the next one.
  let ended ← lexer.pending
  let (begun, next) ← start c
  return (ended ++ begun, next)

/-- Takes in a complete four-digit code. -/
def finishCode (done : List Char) (high : Option Nat) (value : Nat) : Option Lexer :=
  match high with
  | none =>
    -- A high surrogate waits for its partner; a low one by itself comes too early.
    if 0xD800 ≤ value ∧ value < 0xDC00 then some (.pairEscape done value)
    else if 0xDC00 ≤ value ∧ value < 0xE000 then none
    else some (.text (Char.ofNat value :: done))
  | some high =>
    if 0xDC00 ≤ value ∧ value < 0xE000 then
      -- Each half of a pair carries ten bits of what lies above the first plane.
      let code := 0x10000 + (high - 0xD800) * 0x400 + (value - 0xDC00)
      some (.text (Char.ofNat code :: done))
    else none

/-- Reads one character: the tokens that it completes and the state behind it. -/
def step (lexer : Lexer) (c : Char) : Option (List Token × Lexer) :=
  match lexer with
  | .between => start c
  | .word letters =>
    if isAsciiLetter c then some ([], .word (c :: letters)) else lexer.restart c
  | .number characters =>
    -- Anything that can stand in a number is taken in; whether it is one shows at its end.
    if isAsciiDigit c ∨ c ∈ ['+', '-', '.', 'e', 'E'] then some ([], .number (c :: characters))
    else lexer.restart c
  | .text done =>
    if c = '"' then some ([.text (String.ofList done.reverse)], .between)
    else if c = '\\' then some ([], .escape done)
    -- Control characters must be escaped.
    else if c.toNat < 0x20 then none
    else some ([], .text (c :: done))
  | .escape done =>
    if c = 'u' then some ([], .code done none 0 0)
    else (unescaped? c).map fun plain => ([], .text (plain :: done))
  | .code done high count value =>
    (hexValue? c).bind fun digit =>
      if count < 3 then some ([], .code done high (count + 1) (16 * value + digit))
      else (finishCode done high (16 * value + digit)).map fun next => ([], next)
  | .pairEscape done high => if c = '\\' then some ([], .pairMark done high) else none
  | .pairMark done high => if c = 'u' then some ([], .code done (some high) 0 0) else none

end Lexer

end Minigame.Json
