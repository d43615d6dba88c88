import Minigame.Proofs.Json.Order
import Minigame.Proofs.Patch.Report

/-! Patches keep documents ordered. -/

namespace Minigame

namespace Json

/-- A value that a walk enters is ordered. -/
theorem Ordered.entered {value : Json} (ordered : value.Ordered) (create : Bool) :
    (value.entered create).Ordered := by
  unfold Json.entered
  split
  · -- What gives way to a new mapping does not matter.
    exact .obj_nil
  · exact ordered

/-- The last step of an operation with an ordered value keeps its container ordered. -/
theorem editLeaf_ordered {operation : Operation}
    (fits : ∀ value, operation.value? = some value → value.Ordered) (leaf : String) {doc : Json}
    (ordered : doc.Ordered) : (operation.editLeaf leaf doc).value.Ordered := by
  -- The value that is put is the only new part.
  cases puts : operation.value? with
  | some value =>
    rw [Operation.editLeaf_of_value? puts]
    have valueOrdered := fits value puts
    cases doc with
    -- In a mapping the value is set under the name.
    | obj fields => exact ordered.set leaf valueOrdered
    | arr items =>
      -- In a sequence it is put behind the last entry or in the place of one, or the edit stops.
      simp only [setLeaf]
      repeat' split
      all_goals first
        | exact ordered
        | exact ordered.append valueOrdered
        | exact ordered.setItem _ valueOrdered
    | _ => exact ordered
  -- To take something out adds nothing.
  | none =>
    rw [Operation.editLeaf_of_value?_eq_none puts]
    cases doc with
    | obj fields => exact ordered.erase leaf
    | arr items =>
      simp only [removeLeaf]
      split
      · exact ordered.eraseItem _
      · exact ordered
    | _ => exact ordered

/-- An edit whose last step keeps containers ordered keeps the document ordered. -/
theorem editAt_ordered {create : Bool} {edit : String → Json → Edited Json}
    (kept : ∀ leaf container, container.Ordered → (edit leaf container).value.Ordered)
    (segments : List String) {doc : Json} (ordered : doc.Ordered) :
    (editAt create edit segments doc).value.Ordered := by
  -- The part that the edit walked into is put back into an ordered whole.
  induction segments generalizing doc with
  | nil => exact ordered
  | cons segment rest ih =>
    cases rest with
    | nil => exact kept segment doc ordered
    | cons next rest =>
      cases doc with
      | obj fields =>
        simp only [editAt]
        split
        · next value found =>
          -- The part that the walk goes into is a part of the document.
          exact ordered.replace segment (ih ((ordered.field found).entered create))
        · split
          · -- A mapping that is made on the way starts empty.
            exact ordered.set segment (ih .obj_nil)
          · exact ordered
      | arr items =>
        simp only [editAt]
        split
        · exact ordered
        · split
          · next value found => exact ordered.setItem _ (ih (ordered.item found))
          · exact ordered
      -- There is nothing to walk into, so nothing changes.
      | _ => exact ordered

end Json

namespace Patch

/-- The document a patch starts from is ordered if the document is. -/
theorem base_ordered {doc : Json} (ordered : doc.Ordered) : (base doc).Ordered := by
  cases doc with
  | obj fields => exact ordered
  -- What is not a mapping is given up for an empty one.
  | _ => exact .obj_nil

/-- Operations with ordered values leave an ordered document behind. -/
theorem run_ordered {patch : Patch} {doc : Json}
    (fits : ∀ operation ∈ patch, ∀ value, operation.value? = some value → value.Ordered)
    (ordered : doc.Ordered) : (run patch doc).Ordered := by
  induction patch generalizing doc with
  | nil => exact ordered
  | cons operation rest ih =>
    obtain ⟨here, later⟩ := List.forall_mem_cons.1 fits
    -- The later operations start from what the first one left, and this is ordered.
    exact ih later (Json.editAt_ordered (fun leaf _ => Json.editLeaf_ordered here leaf)
      operation.path.segments ordered)

/-- A patch with ordered values keeps a document ordered. -/
theorem apply_ordered {patch : Patch} {doc : Json}
    (fits : ∀ operation ∈ patch, ∀ value, operation.value? = some value → value.Ordered)
    (ordered : doc.Ordered) : (patch.apply doc).Ordered := by
  rw [apply_eq_run]
  exact run_ordered fits (base_ordered ordered)

end Patch

end Minigame
