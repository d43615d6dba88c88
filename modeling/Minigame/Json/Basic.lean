import Minigame.Power
import Minigame.Json.Fields

/-! JSON values, the form in which game documents are stored and exchanged. -/

namespace Minigame

/-- A number keeps the kind it was written in: a whole number of 64 bits or a double. -/
inductive Number where
  | int (value : Int)
  | double (value : Float)
  deriving DecidableEq

/-- A JSON value. -/
inductive Json where
  | null
  | bool (value : Bool)
  | num (value : Number)
  | str (value : String)
  | arr (items : List Json)
  | obj (fields : List (String × Json))

namespace Json

instance : Inhabited Json := ⟨.null⟩

/-- The mapping with the listed fields. -/
def ofFields (entries : List (String × Json)) : Json :=
  .obj (Fields.ofList entries)

/-- A natural number as a value. -/
def nat (n : Nat) : Json :=
  .num (.int n)

/-- A list of strings as a value. -/
def strings (texts : List String) : Json :=
  .arr (texts.map .str)

/-- A value that may be absent, absent as null. -/
def orNull (value : Option Json) : Json :=
  value.getD .null

/-- The value under a name, if this is a mapping that has it. -/
def field? (name : String) : Json → Option Json
  | .obj fields => Fields.get? name fields
  | _ => none

/-- The text of a string value. -/
def asString? : Json → Option String
  | .str text => some text
  | _ => none

/-- Whether this is a mapping. -/
def isObject : Json → Bool
  | .obj _ => true
  | _ => false

mutual

/-- Whether two values are the same. -/
def same : Json → Json → Bool
  | .null, .null => true
  | .bool a, .bool b => a = b
  | .num a, .num b => a = b
  | .str a, .str b => a = b
  | .arr a, .arr b => sameItems a b
  | .obj a, .obj b => sameFields a b
  | _, _ => false

/-- Whether two sequences hold the same values. -/
def sameItems : List Json → List Json → Bool
  | [], [] => true
  | a :: restA, b :: restB => same a b && sameItems restA restB
  | _, _ => false

/-- Whether two mappings hold the same values under the same names. -/
def sameFields : List (String × Json) → List (String × Json) → Bool
  | [], [] => true
  | (nameA, a) :: restA, (nameB, b) :: restB =>
    nameA = nameB && same a b && sameFields restA restB
  | _, _ => false

end

mutual

/-- Values that compare as the same are equal, and only those. -/
theorem same_iff : (a b : Json) → (same a b = true ↔ a = b)
  | .arr a, b => by
    cases b <;> simp [same, sameItems_iff a]
  | .obj a, b => by
    cases b <;> simp [same, sameFields_iff a]
  | .null, b => by cases b <;> simp [same]
  | .bool _, b => by cases b <;> simp [same]
  | .num _, b => by cases b <;> simp [same]
  | .str _, b => by cases b <;> simp [same]

/-- The comparison of sequences decides their equality. -/
theorem sameItems_iff : (a b : List Json) → (sameItems a b = true ↔ a = b)
  | [], b => by cases b <;> simp [sameItems]
  | a :: rest, b => by
    cases b with
    | nil => simp [sameItems]
    | cons b restB => simp [sameItems, same_iff a b, sameItems_iff rest restB]

/-- The comparison of fields decides their equality. -/
theorem sameFields_iff : (a b : List (String × Json)) → (sameFields a b = true ↔ a = b)
  | [], b => by cases b <;> simp [sameFields]
  | (name, a) :: rest, b => by
    cases b with
    | nil => simp [sameFields]
    | cons b restB =>
      obtain ⟨nameB, b⟩ := b
      simp [sameFields, same_iff a b, sameFields_iff rest restB, and_assoc]

end

instance : DecidableEq Json := fun a b =>
  decidable_of_iff (same a b = true) (same_iff a b)

end Json

end Minigame
