import Minigame.Toml.Text
import Minigame.Toml.Scalar
import Minigame.Toml.Table

/-! TOML text read as a value. -/

namespace Minigame.Toml

/-- A way to read a value at the front of a text. -/
abbrev ValueReader := List Char → Option (Json × List Char)

/-- Reads the items of an array behind its opening bracket; a comma may stand behind the last. -/
def items? (read : ValueReader) : Nat → List Char → Option (List Json × List Char)
  | 0, _ => none
  | fuel + 1, text => do
    match ← skipLines? text with
    | ']' :: rest => return ([], rest)
    | text =>
      let (item, rest) ← read text
      match ← skipLines? rest with
      | ',' :: rest =>
        let (items, rest) ← items? read fuel rest
        return (item :: items, rest)
      | ']' :: rest => return ([item], rest)
      | _ => none

/-- Reads a key, an equals sign and a value. -/
def entry? (read : ValueReader) (text : List Char) : Option ((List String × Json) × List Char) := do
  match ← key? text with
  | (key, '=' :: rest) =>
    let (content, rest) ← read (skipBlanks rest)
    return ((key, content), rest)
  | _ => none

/-- Reads the entries of a table in braces behind its first entry or its opening brace. -/
def entries? (read : ValueReader) : Nat → List Char → Option (List (List String × Json) × List Char)
  | 0, _ => none
  | fuel + 1, text => do
    let (entry, rest) ← entry? read text
    match skipBlanks rest with
    | ',' :: rest =>
      let (entries, rest) ← entries? read fuel rest
      return (entry :: entries, rest)
    | '\x7d' :: rest => return ([entry], rest)
    | _ => none

/-- Reads a table in braces behind the opening one, all in one line. -/
def inlineTable? (read : ValueReader) (text : List Char) : Option (Json × List Char) :=
  match skipBlanks text with
  | '\x7d' :: rest => some (.obj [], rest)
  | text => do
    let (entries, rest) ← entries? read (text.length + 1) text
    let table ← Table.ofEntries? entries
    return (table.toJson, rest)

/-- Reads a string or a value without quotes. -/
def simpleValue? (text : List Char) : Option (Json × List Char) :=
  match text with
  | '"' :: _ => (string? text).map fun (value, rest) => (.str value, rest)
  | '\'' :: _ => (string? text).map fun (value, rest) => (.str value, rest)
  | _ => scalar? text

/-- Reads a value with at most so many arrays and tables inside one another. -/
def value? : Nat → ValueReader
  | 0, text => simpleValue? text
  | depth + 1, text =>
    match text with
    | '[' :: rest =>
      (items? (value? depth) (rest.length + 1) rest).map fun (items, rest) => (.arr items, rest)
    | '\x7b' :: rest => inlineTable? (value? depth) rest
    | _ => simpleValue? text

/-- What has been read of a document and the table that the next key belongs to. -/
structure Reader where
  root : Table
  current : List String

/-- Begins the table, or the next of a sequence of tables, that a header names. -/
def Reader.open? (reader : Reader) (begin : String → Table → Option Table) (path : List String) :
    Option Reader := do
  let name ← path.getLast?
  -- All of the path but its last name is walked through, and made where it is missing.
  let root ← Table.editAt (begin name) path.dropLast reader.root
  return ⟨root, path⟩

/-- Reads the rest of a header behind its path. -/
def headerEnd? (closing text : List Char) : Option (List Char) :=
  if closing.isPrefixOf text then lineEnd? (text.drop closing.length) else none

/-- Reads one line, which may go on over more lines inside a value. -/
def line? (reader : Reader) (text : List Char) : Option (Reader × List Char) :=
  match text with
  | '[' :: '[' :: rest => do
    let (path, rest) ← key? rest
    let rest ← headerEnd? [']', ']'] rest
    return (← reader.open? Table.openItem path, rest)
  | '[' :: rest => do
    let (path, rest) ← key? rest
    let rest ← headerEnd? [']'] rest
    return (← reader.open? Table.openTable path, rest)
  | _ => do
    let ((key, content), rest) ← entry? (value? maxDepth) text
    let rest ← lineEnd? rest
    let root ← Table.editAt (Table.put content key) reader.current reader.root
    return ({ reader with root }, rest)

/-- Reads all lines. -/
def lines? : Nat → Reader → List Char → Option Reader
  | 0, _, _ => none
  | fuel + 1, reader, text =>
    match skipBlanks text with
    | [] => some reader
    | '#' :: rest => (lineEnd? ('#' :: rest)).bind (lines? fuel reader)
    | '\n' :: rest => lines? fuel reader rest
    | '\r' :: rest => (newline? ('\r' :: rest)).bind (lines? fuel reader)
    | text => (line? reader text).bind fun (reader, rest) => lines? fuel reader rest

/-- A text without the mark of its byte order. -/
def dropMark : List Char → List Char
  | '\ufeff' :: rest => rest
  | text => text

/-- The value a text stands for, if it is TOML text. -/
def parse (text : String) : Option Json :=
  let text := dropMark text.toList
  (lines? (text.length + 1) ⟨[], []⟩ text).map fun reader => reader.root.toJson

end Minigame.Toml
