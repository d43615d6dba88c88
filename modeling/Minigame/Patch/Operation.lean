import Minigame.Path

/-! Operations on a document and the patches that list them. -/

namespace Minigame

/-- One change of a document. -/
inductive Operation where
  /-- Puts a value at a path; mappings missing on the way are made. -/
  | add (path : Path) (value : Json)
  /-- Puts a value at a path whose container is there. -/
  | replace (path : Path) (value : Json)
  /-- Takes out what is at a path. -/
  | remove (path : Path)
  deriving DecidableEq

namespace Operation

/-- The path an operation works at. -/
def path : Operation → Path
  | .add path _ => path
  | .replace path _ => path
  | .remove path => path

/-- The value an operation puts into the document. -/
def value? : Operation → Option Json
  | .add _ value => some value
  | .replace _ value => some value
  | .remove _ => none

/-- The name of the kind of an operation. -/
def kind : Operation → String
  | .add .. => "add"
  | .replace .. => "replace"
  | .remove _ => "remove"

/-- A one-line description. -/
def describe (operation : Operation) : String :=
  operation.kind ++ " " ++ operation.path.text

/-- The written form: a mapping with the kind, the path and the value if there is one. -/
def toJson (operation : Operation) : Json :=
  let common := [("op", Json.str operation.kind), ("path", .str operation.path.text)]
  match operation.value? with
  | some value => Json.ofFields (common ++ [("value", value)])
  | none => Json.ofFields common

/-- Reads a path from a string value. -/
def readPath? (value : Json) : Option Path := do
  match Path.parse (← value.asString?) with
  | .ok path => some path
  | .error _ => none

/-- An operation from its kind, its path and its value; only removing needs no value. -/
def ofParts? (kind : String) (path : Option Json) (value : Option Json) : Option Operation := do
  let path ← path.bind readPath?
  match kind with
  | "add" => return .add path (← value)
  | "replace" => return .replace path (← value)
  | "remove" => return .remove path
  | _ => none

/--
Reads an operation from a mapping, whose other fields are ignored, or from a sequence of exactly
its kind, path and value.
-/
def ofJson? : Json → Option Operation
  | .obj fields => do
    let kind ← (← Fields.get? "op" fields).asString?
    ofParts? kind (Fields.get? "path" fields) (Fields.get? "value" fields)
  | .arr [kind, path] => do
    match ← kind.asString? with
    | "remove" => ofParts? "remove" (some path) none
    | _ => none
  | .arr [kind, path, value] => do
    match ← kind.asString? with
    | "remove" => none
    | kind => ofParts? kind (some path) (some value)
  | _ => none

end Operation

/-- Operations to be applied in order. -/
abbrev Patch := List Operation

namespace Patch

/-- Whether an operation works at or below a path. -/
def touches (patch : Patch) (start : Path) : Bool :=
  patch.any fun operation => operation.path.startsWith start

/-- The written form: the sequence of the operations. -/
def toJson (patch : Patch) : Json :=
  .arr (patch.map Operation.toJson)

/-- Reads a sequence of operations; one that cannot be read spoils the whole patch. -/
def ofJsonStrict? : Json → Option Patch
  | .arr items => items.mapM Operation.ofJson?
  | _ => none

end Patch

end Minigame
