import Minigame.Text.Hex

/-! Blanks, comments, strings and keys of TOML text. -/

namespace Minigame.Toml

open Minigame.Text

/-- White space within a line. -/
def isBlank (c : Char) : Bool :=
  c = ' ' || c = '\t'

/-- A character that may stand in a comment: a tab, or anything that is no control character. -/
def isPlain (c : Char) : Bool :=
  c = '\t' || (' ' ≤ c && c ≤ '~') || '\u0080' ≤ c

/-- A text without the white space in front of it. -/
def skipBlanks (text : List Char) : List Char :=
  text.dropWhile isBlank

/-- The text behind the end of a line. -/
def newline? : List Char → Option (List Char)
  | '\n' :: rest => some rest
  | '\r' :: '\n' :: rest => some rest
  | _ => none

/-- The text behind the rest of a line, which holds nothing but a comment. -/
def lineEnd? (text : List Char) : Option (List Char) :=
  let rest :=
    match skipBlanks text with
    | '#' :: rest => rest.dropWhile isPlain
    | rest => rest
  if rest = [] then some [] else newline? rest

/-- The text behind white space, comments and ends of lines; every comment ends with its line. -/
def skipLinesFrom? : Nat → List Char → Option (List Char)
  | 0, _ => none
  | fuel + 1, text =>
    match skipBlanks text with
    -- A comment at the very end has no line to end, so it is refused.
    | '#' :: rest => (newline? (rest.dropWhile isPlain)).bind (skipLinesFrom? fuel)
    | '\n' :: rest => skipLinesFrom? fuel rest
    | '\r' :: rest => (newline? ('\r' :: rest)).bind (skipLinesFrom? fuel)
    | rest => some rest

/-- The text behind white space, comments and ends of lines. -/
def skipLines? (text : List Char) : Option (List Char) :=
  skipLinesFrom? (text.length + 1) text

/-- A text without the white space and the ends of lines in front of it. -/
def skipBlankLines : List Char → List Char
  | ' ' :: rest => skipBlankLines rest
  | '\t' :: rest => skipBlankLines rest
  | '\n' :: rest => skipBlankLines rest
  | '\r' :: '\n' :: rest => skipBlankLines rest
  | text => text

/-- A text without one end of a line in front of it. -/
def skipNewline (text : List Char) : List Char :=
  (newline? text).getD text

/-- The character of a code with a fixed number of hexadecimal digits, and the text behind it. -/
def code? (count : Nat) (text : List Char) : Option (Char × List Char) := do
  let digits ← (text.take count).mapM hexValue?
  let code := digits.foldl (fun value digit => 16 * value + digit) 0
  if digits.length = count ∧ code.isValidChar then some (Char.ofNat code, text.drop count) else none

/-- The character an escape stands for, and the text behind it. -/
def escape? : List Char → Option (Char × List Char)
  | '"' :: rest => some ('"', rest)
  | '\\' :: rest => some ('\\', rest)
  | 'b' :: rest => some ('\x08', rest)
  | 'f' :: rest => some ('\x0c', rest)
  | 'n' :: rest => some ('\n', rest)
  | 'r' :: rest => some ('\r', rest)
  | 't' :: rest => some ('\t', rest)
  | 'u' :: rest => code? 4 rest
  | 'U' :: rest => code? 8 rest
  | _ => none

/-- The text in front of a double quote, with its escapes read; characters are last one first. -/
def basicText? : Nat → List Char → List Char → Option (String × List Char)
  | 0, _, _ => none
  | fuel + 1, done, text =>
    match text with
    | [] => none
    | '"' :: rest => some (String.ofList done.reverse, rest)
    | '\\' :: rest => do
      let (c, rest) ← escape? rest
      basicText? fuel (c :: done) rest
    | c :: rest => if isPlain c then basicText? fuel (c :: done) rest else none

/-- The text in front of a single quote, as it is. -/
def literalText? (text : List Char) : Option (String × List Char) :=
  match text.dropWhile fun c => isPlain c && c ≠ '\'' with
  | '\'' :: rest => some (String.ofList (text.takeWhile fun c => isPlain c && c ≠ '\''), rest)
  | _ => none

/--
What a run of quotes means inside a text that three of them end.

Fewer than three belong to the text, and so do up to two in front of the last three.
-/
def quoteRun (quote : Char) (text : List Char) : Option (Nat × Bool) :=
  let count := (text.takeWhile (· = quote)).length
  if count < 3 then some (count, false) else if count ≤ 5 then some (count - 3, true) else none

/--
The text in front of three quotes, over any number of lines; characters are last one first.

Only in a text between double quotes are there escapes, and one of them leaves out the end of a
line and the white space behind it.
-/
def linesText? (quote : Char) : Nat → List Char → List Char → Option (String × List Char)
  | 0, _, _ => none
  | fuel + 1, done, text =>
    match text with
    | [] => none
    | '\n' :: rest => linesText? quote fuel ('\n' :: done) rest
    -- Whichever way a line ends, the text gets the same end of a line.
    | '\r' :: rest => do linesText? quote fuel ('\n' :: done) (← newline? ('\r' :: rest))
    | c :: rest =>
      if c = quote then do
        let (count, ended) ← quoteRun quote text
        let done := List.replicate count quote ++ done
        let rest := text.dropWhile (· = quote)
        -- Quotes in front of the last three belong to the text already.
        if ended then some (String.ofList done.reverse, rest) else linesText? quote fuel done rest
      -- Between single quotes a backslash is a character like any other.
      else if c = '\\' ∧ quote = '"' then
        match newline? (skipBlanks rest) with
        | some rest => linesText? quote fuel done (skipBlankLines rest)
        | none => do
          let (c, rest) ← escape? rest
          linesText? quote fuel (c :: done) rest
      else if isPlain c then linesText? quote fuel (c :: done) rest
      else none

/-- Reads a string of any of the four kinds. -/
def string? : List Char → Option (String × List Char)
  | '"' :: '"' :: '"' :: rest => linesText? '"' (rest.length + 1) [] (skipNewline rest)
  | '\'' :: '\'' :: '\'' :: rest => linesText? '\'' (rest.length + 1) [] (skipNewline rest)
  | '"' :: rest => basicText? (rest.length + 1) [] rest
  | '\'' :: rest => literalText? rest
  | _ => none

/-- A character of a key without quotes. -/
def isKeyChar (c : Char) : Bool :=
  isAsciiLetter c || isAsciiDigit c || c = '-' || c = '_'

/-- Reads one part of a key. -/
def keyPart? (text : List Char) : Option (String × List Char) :=
  match text with
  | '"' :: rest => basicText? (rest.length + 1) [] rest
  | '\'' :: rest => literalText? rest
  | _ =>
    let name := text.takeWhile isKeyChar
    if name = [] then none else some (String.ofList name, text.dropWhile isKeyChar)

/-- The number of parts of a key, and of values inside one another, stays below this one. -/
def maxDepth : Nat := 79

/-- Reads a key of at most so many parts with points between them. -/
def keyUpTo? : Nat → List Char → Option (List String × List Char)
  | 0, _ => none
  | parts + 1, text => do
    let (name, rest) ← keyPart? (skipBlanks text)
    match skipBlanks rest with
    | '.' :: rest =>
      let (names, rest) ← keyUpTo? parts rest
      return (name :: names, rest)
    | rest => return ([name], rest)

/-- Reads a key. -/
def key? (text : List Char) : Option (List String × List Char) :=
  keyUpTo? maxDepth text

end Minigame.Toml
