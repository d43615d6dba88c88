import Minigame.Patch.Reading
import Minigame.Proofs.Path.Text

/-!
Patches in their written form.

A written operation is read back, so a written patch is too: as a whole, out of the two mappings that
may hold it, and operation by operation. Only the path of one empty segment has no text of its own.
-/

namespace Minigame

namespace Operation

/-- The path of an operation is read back from its text. -/
theorem readPath?_text {operation : Operation} (other : operation.path.segments ≠ [""]) :
    readPath? (.str operation.path.text) = some operation.path := by
  -- The one path that is not read back has been set aside.
  have read : Path.parse operation.path.text = .ok operation.path := by
    rw [Path.parse_text, if_neg other]
  simp [readPath?, Json.asString?, read]

/-- The fields of the written form, the value only where the operation has one. -/
def writtenFields (operation : Operation) : Fields Json :=
  [("op", .str operation.kind), ("path", .str operation.path.text)]
    ++ (operation.value?.map fun value => ("value", value)).toList

/-- The written form has the kind of the operation, the text of its path and its value, if it has one. -/
theorem toJson_fields (operation : Operation) :
    ∃ fields, operation.toJson = .obj fields
      ∧ Fields.get? "op" fields = some (.str operation.kind)
      ∧ Fields.get? "path" fields = some (.str operation.path.text)
      ∧ Fields.get? "value" fields = operation.value? := by
  have written : operation.toJson = .obj (Fields.union [] operation.writtenFields) := by
    cases operation <;> rfl
  -- The names are different, so each field is read as it was listed.
  have apart : (Fields.names operation.writtenFields).Nodup := by
    cases operation <;> simp [Fields.names, writtenFields, value?]
  refine ⟨_, written, Fields.get?_union_of_mem apart (by simp [writtenFields]) [],
    Fields.get?_union_of_mem apart (by simp [writtenFields]) [], ?_⟩
  cases value : operation.value? with
  | none => exact Fields.get?_union_of_notMem (by simp [Fields.names, writtenFields, value]) []
  | some content => exact Fields.get?_union_of_mem apart (by simp [writtenFields, value]) []

/-- A written operation is read back, whatever its value looks like. -/
theorem ofJson?_toJson {operation : Operation} (other : operation.path.segments ≠ [""]) :
    ofJson? operation.toJson = some operation := by
  obtain ⟨fields, written, kind, path, value⟩ := operation.toJson_fields
  have read := readPath?_text other
  rw [written]
  simp only [ofJson?, kind, path, value, Json.asString?, Option.bind_eq_bind, Option.bind_some,
    ofParts?, read]
  -- The kind that was written selects the branch that puts the operation together again.
  cases operation <;> rfl

/-- The written form of an operation is told from an envelope by its kind. -/
theorem contains_op_toJson (operation : Operation) :
    ∃ fields, operation.toJson = .obj fields ∧ Fields.contains "op" fields = true := by
  obtain ⟨fields, written, kind, -⟩ := operation.toJson_fields
  exact ⟨fields, written, by rw [Fields.contains, kind]; rfl⟩

end Operation

namespace Patch

variable {patch : Patch}

/-- A sequence of written operations has all of them as its entries. -/
theorem ofEntries_written (others : ∀ operation ∈ patch, operation.path.segments ≠ [""]) :
    ofEntries (patch.map Operation.toJson) = patch := by
  -- By induction on the operations, each of which is read back by itself.
  induction patch with
  | nil => rfl
  | cons operation rest ih =>
    rw [List.forall_mem_cons] at others
    have rest_read := ih others.2
    rw [ofEntries] at rest_read
    rw [ofEntries, List.map_cons,
      List.filterMap_cons_some (Operation.ofJson?_toJson others.1), rest_read]

/-- The strict reader takes every written operation. -/
theorem ofJsonStrict?_toJson (others : ∀ operation ∈ patch, operation.path.segments ≠ [""]) :
    ofJsonStrict? patch.toJson = some patch := by
  change (patch.map Operation.toJson).mapM Operation.ofJson? = some patch
  -- By induction on the operations, none of which spoils the whole.
  induction patch with
  | nil => rfl
  | cons operation rest ih =>
    rw [List.forall_mem_cons] at others
    rw [List.map_cons, List.mapM_cons, Operation.ofJson?_toJson others.1, ih others.2]
    rfl

/-- A mapping without a kind is read as the sequence that it holds, `patch` before `ops`. -/
theorem ofJson_envelope {fields : Fields Json} {entries : List Json}
    (plain : Fields.get? "op" fields = none)
    (held : (Fields.get? "patch" fields <|> Fields.get? "ops" fields) = some (.arr entries)) :
    ofJson (.obj fields) = .ok (ofEntries entries) := by
  rw [ofJson, if_neg (by simp [Fields.contains, plain]), held]

/--
A written patch is read back.

Its written form reads as the patch, strictly and leniently. So does a mapping without a kind that
holds the form as `patch`, or as `ops` and nothing as `patch`. Each of its operations, written by
itself, reads as the patch of this operation alone.
-/
theorem written_read (others : ∀ operation ∈ patch, operation.path.segments ≠ [""]) :
    ofJsonStrict? patch.toJson = some patch
      ∧ ofJson patch.toJson = .ok patch
      ∧ (∀ fields, Fields.get? "op" fields = none → Fields.get? "patch" fields = some patch.toJson →
        ofJson (.obj fields) = .ok patch)
      ∧ (∀ fields, Fields.get? "op" fields = none → Fields.get? "patch" fields = none →
        Fields.get? "ops" fields = some patch.toJson → ofJson (.obj fields) = .ok patch)
      ∧ ∀ operation ∈ patch, ofJson operation.toJson = .ok [operation] := by
  have entries := ofEntries_written others
  refine ⟨ofJsonStrict?_toJson others, ?sequence, ?asPatch, ?asOps, ?single⟩
  case sequence => exact congrArg Except.ok entries
  case asPatch =>
    intro fields plain held
    have sequence : (Fields.get? "patch" fields <|> Fields.get? "ops" fields)
        = some (.arr (patch.map Operation.toJson)) := by rw [held]; rfl
    rw [ofJson_envelope plain sequence, entries]
  case asOps =>
    intro fields plain absent held
    have sequence : (Fields.get? "patch" fields <|> Fields.get? "ops" fields)
        = some (.arr (patch.map Operation.toJson)) := by rw [absent, held]; rfl
    rw [ofJson_envelope plain sequence, entries]
  case single =>
    intro operation listed
    -- The kind makes it an operation, whatever other fields a value may bring along.
    obtain ⟨fields, written, kind⟩ := operation.contains_op_toJson
    have alone : ofEntries [operation.toJson] = [operation] := by
      rw [ofEntries, List.filterMap_cons_some (Operation.ofJson?_toJson (others _ listed)),
        List.filterMap_nil]
    rw [written] at alone ⊢
    rw [ofJson, if_pos kind, alone]

/-- Values that are null, or look like an operation or an envelope themselves, do not matter. -/
theorem written_read_lookalikes :
    let patch : Patch :=
      [.add ⟨["a/b", "~", ""]⟩ .null,
       .replace ⟨["rules"]⟩ (.obj [("op", .str "remove"), ("path", .str "/rules")]),
       .add ⟨["notes"]⟩ (.obj [("ops", .arr []), ("patch", .null)]),
       .remove ⟨[]⟩]
    (∀ operation ∈ patch, operation.path.segments ≠ [""])
      ∧ ofJsonStrict? patch.toJson = some patch
      ∧ ofJson (.obj [("notes", .null), ("ops", patch.toJson)]) = .ok patch
      ∧ ∀ operation ∈ patch, ofJson operation.toJson = .ok [operation] := by
  intro patch
  have others : ∀ operation ∈ patch, operation.path.segments ≠ [""] := by decide
  obtain ⟨strict, -, -, asOps, single⟩ := written_read others
  exact ⟨others, strict, asOps [("notes", .null), ("ops", patch.toJson)] rfl rfl rfl, single⟩

/-- The path of one empty segment is written as the root with a slash, and read as the root. -/
example : ofJsonStrict? (toJson [.remove ⟨[""]⟩]) = some [.remove ⟨[]⟩] := by decide

end Patch

end Minigame
