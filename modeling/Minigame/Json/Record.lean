import Minigame.Json.Basic

/-! Records read from values, strictly: every field must have the kind that is asked for. -/

namespace Minigame

namespace Json

/-- The truth value of a value that is one. -/
def asBool? : Json → Option Bool
  | .bool value => some value
  | _ => none

/-- A whole number that fits an unsigned width; doubles are refused even when they are whole. -/
def asUnsigned? (bits : Nat) : Json → Option Nat
  | .num (.int (.ofNat n)) => if n < 2 ^ bits then some n else none
  | _ => none

/-- A whole number that fits 64 bits with a sign. -/
def asSigned? : Json → Option Int
  | .num (.int n) => if -2 ^ 63 ≤ n ∧ n < 2 ^ 63 then some n else none
  | _ => none

/-- A number as the nearest double. -/
def asFloat? : Json → Option Float
  | .num (.int (.ofNat n)) => some n.toUInt64.toFloat
  | .num (.int (.negSucc n)) => some (-(n + 1).toUInt64.toFloat)
  | .num (.double value) => some value
  | _ => none

/-- A number as the nearest number of 32 bits. -/
def asFloat32? : Json → Option Float32
  | .num (.int (.ofNat n)) => some n.toUInt64.toFloat32
  | .num (.int (.negSucc n)) => some (-(n + 1).toUInt64.toFloat32)
  | .num (.double value) => some value.toFloat32
  | _ => none

/-- The items of a sequence. -/
def asItems? : Json → Option (List Json)
  | .arr items => some items
  | _ => none

/-- The fields of a mapping. -/
def asFields? : Json → Option (List (String × Json))
  | .obj fields => some fields
  | _ => none

/-- A name out of a fixed set, written as a string or as a mapping from the name to null. -/
def asTag? : Json → Option String
  | .str name => some name
  -- A name without contents may be written in the form of one with contents.
  | .obj [(name, .null)] => some name
  | _ => none

end Json

/-- The fields of a record, under their names or in the order of their declaration. -/
inductive Record where
  | named (fields : List (String × Json))
  | listed (items : List Json)

namespace Record

/-- The fields in a value, for a record of the given size. -/
def ofJson? (size : Nat) : Json → Option Record
  | .obj fields => some (.named fields)
  | .arr items => if items.length ≤ size then some (.listed items) else none
  | _ => none

/-- The fields in a value; items of a sequence beyond those of the record are not looked at. -/
def ofLongJson? : Json → Option Record
  | .obj fields => some (.named fields)
  | .arr items => some (.listed items)
  | _ => none

/-- The value of the field with a position and a name. -/
def get? (record : Record) (position : Nat) (name : String) : Option Json :=
  match record with
  -- A named field is found wherever it stands.
  | .named fields => Fields.get? name fields
  | .listed items => items[position]?

variable {α : Type}

/-- A field that must be there. -/
def required (record : Record) (position : Nat) (name : String) (read : Json → Option α) : Option α :=
  (record.get? position name).bind read

/-- A value that is null or can be read. -/
def orNull (read : Json → Option α) : Json → Option (Option α)
  | .null => some none
  | value => (read value).map some

/-- A field that may be missing or null. -/
def optional (record : Record) (position : Nat) (name : String) (read : Json → Option α) :
    Option (Option α) :=
  match record.get? position name with
  | none => some none
  | some value => orNull read value

/-- A field that may be null, and missing only where fields have names. -/
def nullable (record : Record) (position : Nat) (name : String) (read : Json → Option α) :
    Option (Option α) :=
  match record, record.get? position name with
  -- A sequence that is too short says nothing about its last fields.
  | .listed _, none => none
  | _, none => some none
  | _, some value => orNull read value

/-- A field with a default for when it is missing. -/
def withDefault (record : Record) (position : Nat) (name : String) (default : α)
    (read : Json → Option α) : Option α :=
  match record.get? position name with
  | none => some default
  | some value => read value

end Record

end Minigame
