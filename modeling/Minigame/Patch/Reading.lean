import Minigame.Patch.Operation
import Minigame.Json.Parser
import Minigame.Text.Blank

/-! Patches read from untrusted values and texts. -/

namespace Minigame

open Minigame.Text

/-- Why no patch could be read. -/
inductive PatchError where
  | noArray
  | invalidJson
  deriving DecidableEq

/-- The text of a patch error. -/
def PatchError.message : PatchError → String
  | .noArray => "no patch array found"
  | .invalidJson => "invalid patch json"

/-- What is left of a text behind a given start. -/
def dropStart? : List Char → List Char → Option (List Char)
  | [], text => some text
  | c :: rest, d :: text => if c = d then dropStart? rest text else none
  | _ :: _, [] => none

/-- What is left of a text in front of a given end. -/
def dropEnd? (ending text : List Char) : Option (List Char) :=
  (dropStart? ending.reverse text.reverse).map List.reverse

namespace Patch

/-- The operations among the entries of a value; entries that are none are dropped. -/
def ofEntries (entries : List Json) : Patch :=
  entries.filterMap Operation.ofJson?

/--
Reads a patch from a sequence of operations, from a single operation, or from a mapping that holds
the sequence as `patch` or, without a field of that name, as `ops`.
-/
def ofJson : Json → Except PatchError Patch
  | .arr entries => .ok (ofEntries entries)
  | .obj fields =>
    if Fields.contains "op" fields then .ok (ofEntries [.obj fields])
    else
      match Fields.get? "patch" fields <|> Fields.get? "ops" fields with
      | some (.arr entries) => .ok (ofEntries entries)
      | _ => .error .noArray
  | _ => .error .noArray

/-- The mark of a code fence. -/
def fence : List Char := ['\x60', '\x60', '\x60']

/-- The text inside a code fence, if the text begins with one. -/
def stripFences (text : List Char) : List Char :=
  match dropStart? fence text with
  | none => text
  | some rest =>
    let rest := (dropStart? ['j', 's', 'o', 'n'] rest).getD rest
    trimChars ((dropEnd? fence rest).getD rest)

/-- The part of a text from its first opening to its last closing bracket. -/
def outermostArray? (text : List Char) : Option (List Char) :=
  let fromOpening := text.dropWhile (· ≠ '[')
  match fromOpening.reverse.dropWhile (· ≠ ']') with
  | [] => none
  | toClosing => some toClosing.reverse

/--
Reads a patch from a reply in prose: the whole text as a value, and failing that the part of it
that looks like a sequence.
-/
def ofText (text : String) : Except PatchError Patch :=
  let body := stripFences (trimChars text.toList)
  match Json.parseChars body with
  | some value => ofJson value
  | none =>
    match outermostArray? body with
    | none => .error .noArray
    | some array =>
      match Json.parseChars array with
      | some value => ofJson value
      | none => .error .invalidJson

end Patch

end Minigame
