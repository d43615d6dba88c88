import Minigame.Json.Basic

/-! Tables of a TOML document while it is read: which of them may still be extended, and how. -/

namespace Minigame.Toml

/-- How a table came to be. -/
inductive Origin where
  /-- By a header of its own. -/
  | header
  /-- On the way to the table of a header. -/
  | inner
  /-- On the way to the value of a key with points. -/
  | dotted
  deriving DecidableEq

/-- What is under a name. -/
inductive Node where
  | value (content : Json)
  | table (origin : Origin) (fields : List (String × Node))
  /-- A sequence of tables, of which only the last one may still be extended. -/
  | tables (done : List Json) (last : List (String × Node))

namespace Node

mutual

/-- A node as a value. -/
def toJson : Node → Json
  | .value content => content
  | .table _ fields => .obj (fieldsJson fields)
  | .tables done last => .arr (done ++ [.obj (fieldsJson last)])

/-- The fields of a table as values. -/
def fieldsJson : List (String × Node) → List (String × Json)
  | [] => []
  | (name, node) :: rest => (name, node.toJson) :: fieldsJson rest

end

end Node

/-- The fields of a table. -/
abbrev Table := List (String × Node)

namespace Table

/--
Puts a value under a key.

The table that holds it must come from keys with points unless it is the one the key starts from,
and no table with a header of its own lies on the way.
-/
def put (content : Json) : List String → Table → Option Table
  | [], _ => none
  | [name], table =>
    if Fields.contains name table then none else some (Fields.set name (.value content) table)
  | name :: rest, table =>
    match Fields.get? name table with
    | none => (put content rest []).map fun inner => Fields.set name (.table .dotted inner) table
    | some (.table .dotted inner) =>
      (put content rest inner).map fun inner => Fields.set name (.table .dotted inner) table
    | some (.table .inner inner) =>
      if rest.length = 1 then none
      else (put content rest inner).map fun inner => Fields.set name (.table .inner inner) table
    | some (.tables done last) =>
      if rest.length = 1 then none
      else (put content rest last).map fun last => Fields.set name (.tables done last) table
    | some _ => none

/-- Changes the table at the path of a header; tables missing on the way are made. -/
def editAt (edit : Table → Option Table) : List String → Table → Option Table
  | [], table => edit table
  | name :: rest, table =>
    match Fields.get? name table with
    | none => (editAt edit rest []).map fun inner => Fields.set name (.table .inner inner) table
    | some (.table origin inner) =>
      (editAt edit rest inner).map fun inner => Fields.set name (.table origin inner) table
    | some (.tables done last) =>
      (editAt edit rest last).map fun last => Fields.set name (.tables done last) table
    | some (.value _) => none

/-- Begins the table of a header, which must not have had one before. -/
def openTable (name : String) (table : Table) : Option Table :=
  match Fields.get? name table with
  | none => some (Fields.set name (.table .header []) table)
  -- A table that was only passed through may still get its header, once.
  | some (.table .inner fields) => some (Fields.set name (.table .header fields) table)
  | some _ => none

/-- Begins the next table of a sequence of tables. -/
def openItem (name : String) (table : Table) : Option Table :=
  match Fields.get? name table with
  | none => some (Fields.set name (.tables [] []) table)
  | some (.tables done last) =>
    some (Fields.set name (.tables (done ++ [.obj (Node.fieldsJson last)]) []) table)
  | some _ => none

/-- The table with the listed keys. -/
def ofEntries? (entries : List (List String × Json)) : Option Table :=
  entries.foldlM (fun table (key, content) => table.put content key) []

/-- A table as a value. -/
def toJson (table : Table) : Json :=
  .obj (Node.fieldsJson table)

end Table

end Minigame.Toml
