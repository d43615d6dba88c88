import Minigame.Patch.Operation

/-! Patches applied to documents; an operation that does not fit is skipped and reported. -/

namespace Minigame

open Minigame.Text Minigame.Decimal

/-- Why an operation was skipped. -/
inductive SkipReason where
  | rootPath
  | missingParent
  | notAContainer
  | invalidIndex
  | indexOutOfRange
  deriving DecidableEq

/-- An operation that was skipped, by its place in the patch. -/
structure Skipped where
  index : Nat
  path : String
  reason : SkipReason
  deriving DecidableEq

/-- What became of the operations of a patch. -/
structure Report where
  applied : Nat
  skipped : List Skipped
  deriving DecidableEq

/-- Whether nothing was skipped. -/
def Report.isComplete (report : Report) : Bool :=
  report.skipped.isEmpty

/-- What an edit in place leaves behind, and the reason why it stopped, if it did. -/
structure Edited (α : Type) where
  value : α
  stop : Option SkipReason

namespace Edited

variable {α β : Type}

/-- The whole after one part of it was edited in place. -/
def map (whole : α → β) (part : Edited α) : Edited β :=
  ⟨whole part.value, part.stop⟩

@[simp] theorem map_value (whole : α → β) (part : Edited α) :
    (part.map whole).value = whole part.value := rfl

@[simp] theorem map_stop (whole : α → β) (part : Edited α) : (part.map whole).stop = part.stop := rfl

end Edited

namespace Json

/-- The place in a sequence that a segment names: digits alone, so that each place has one spelling. -/
def segmentIndex? (segment : String) : Option Nat :=
  -- A sign or a zero in front would give a place a second spelling.
  let digits := segment.toList
  if digits.isEmpty ∨ ¬ digits.all isAsciiDigit ∨ (1 < digits.length ∧ digits.head? = some '0') then
    none
  else readUnsigned? 64 digits

/-- Puts a value under the last segment of a path. -/
def setLeaf (create : Bool) (value : Json) (leaf : String) : Json → Edited Json
  | .obj fields => ⟨.obj (Fields.set leaf value fields), none⟩
  | .arr items =>
    -- A sequence grows by one entry at most, at its end, and only if missing parts are made.
    if leaf = "-" then
      if create then ⟨.arr (items ++ [value]), none⟩ else ⟨.arr items, some .invalidIndex⟩
    else
      match segmentIndex? leaf with
      | none => ⟨.arr items, some .invalidIndex⟩
      | some index =>
        if index < items.length then ⟨.arr (items.set index value), none⟩
        else if index = items.length ∧ create then ⟨.arr (items ++ [value]), none⟩
        else ⟨.arr items, some .indexOutOfRange⟩
  | scalar => ⟨scalar, some .notAContainer⟩

/-- Takes out what is under the last segment of a path; nothing there is no failure. -/
def removeLeaf (leaf : String) : Json → Edited Json
  | .obj fields => ⟨.obj (Fields.erase leaf fields), none⟩
  | .arr items =>
    match segmentIndex? leaf with
    | some index => ⟨.arr (items.eraseIdx index), none⟩
    | none => ⟨.arr items, none⟩
  | scalar => ⟨scalar, some .notAContainer⟩

/-- The value an edit walks into where it finds one; creating makes a mapping of null. -/
def entered (create : Bool) (value : Json) : Json :=
  if create ∧ value = .null then .obj [] else value

/--
Edits the container of the last segment of a path where it stands.

A mapping that is made on the way stays in the document, whatever becomes of the edit farther on.
-/
def editAt (create : Bool) (edit : String → Json → Edited Json) : List String → Json → Edited Json
  | [], doc => ⟨doc, some .rootPath⟩
  | [leaf], doc => edit leaf doc
  | segment :: rest, .obj fields =>
    -- A part that is there keeps its place among the names; one that is made gets its own.
    match Fields.get? segment fields with
    | some value =>
      (editAt create edit rest (entered create value)).map fun inner =>
        .obj (Fields.replace segment inner fields)
    | none =>
      if create then
        (editAt create edit rest (.obj [])).map fun inner => .obj (Fields.set segment inner fields)
      else ⟨.obj fields, some .missingParent⟩
  | segment :: rest, .arr items =>
    -- No entry is made on the way, and null is not taken for a mapping here.
    match segmentIndex? segment with
    | none => ⟨.arr items, some .invalidIndex⟩
    | some index =>
      match items[index]? with
      | some value => (editAt create edit rest value).map fun inner => .arr (items.set index inner)
      | none => ⟨.arr items, some .indexOutOfRange⟩
  | _ :: _, scalar => ⟨scalar, some .notAContainer⟩

end Json

namespace Operation

/-- Whether an operation makes the mappings that are missing on its way. -/
def creates : Operation → Bool
  | .add .. => true
  | .replace .. => false
  | .remove _ => false

/-- What an operation does to the container of the last segment of its path. -/
def editLeaf : Operation → String → Json → Edited Json
  | .add _ value => Json.setLeaf true value
  | .replace _ value => Json.setLeaf false value
  | .remove _ => Json.removeLeaf

/-- Applies an operation to a document in place. -/
def apply (operation : Operation) (doc : Json) : Edited Json :=
  doc.editAt operation.creates operation.editLeaf operation.path.segments

/-- An operation with a value puts it under its last segment. -/
theorem editLeaf_of_value? {operation : Operation} {value : Json}
    (puts : operation.value? = some value) :
    operation.editLeaf = Json.setLeaf operation.creates value := by
  cases operation <;> simp_all [value?, editLeaf, creates]

/-- An operation without a value takes out what is under its last segment. -/
theorem editLeaf_of_value?_eq_none {operation : Operation} (removes : operation.value? = none) :
    operation.editLeaf = Json.removeLeaf := by
  cases operation <;> simp_all [value?, editLeaf]

/-- An operation without a value makes nothing on its way. -/
theorem creates_of_value?_eq_none {operation : Operation} (removes : operation.value? = none) :
    operation.creates = false := by
  cases operation <;> simp_all [value?, creates]

end Operation

namespace Patch

/-- The document a patch starts from: a value that is no mapping counts as an empty one. -/
def base : Json → Json
  | .obj fields => .obj fields
  | _ => .obj []

/-- Applies operations counted from an index, each to what the one before left behind. -/
def applyFrom (index : Nat) : List Operation → Json → Json × Report
  | [], doc => (doc, ⟨0, []⟩)
  | operation :: rest, doc =>
    -- Where an operation stops, the next one goes on from what was left behind.
    let edited := operation.apply doc
    let (result, report) := applyFrom (index + 1) rest edited.value
    match edited.stop with
    | none => (result, { report with applied := report.applied + 1 })
    | some reason =>
      (result, { report with skipped := ⟨index, operation.path.text, reason⟩ :: report.skipped })

/-- Applies a patch and reports what became of its operations. -/
def applyWithReport (patch : Patch) (doc : Json) : Json × Report :=
  applyFrom 0 patch (base doc)

/-- The document with a patch applied. -/
def apply (patch : Patch) (doc : Json) : Json :=
  (patch.applyWithReport doc).1

end Patch

end Minigame
