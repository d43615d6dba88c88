import Minigame.Proofs.Patch.Frame

/-!
What is read after values were put into a document.

A part that no operation works in is read of the last value that was put above it, or it is the part
that was there before.
-/

namespace Minigame

namespace Operation

/-- Where a value was put, its parts are read, or what was there before if nothing came of it. -/
theorem at?_put {operation : Operation} {value : Json} (puts : operation.value? = some value)
    (named : ∀ segment ∈ operation.path.segments, Json.segmentIndex? segment = none)
    (tail : List String) (doc : Json) :
    let place := operation.path.segments ++ tail
    (operation.apply doc).value.at? place = value.at? tail ∨
      (operation.apply doc).value.at? place = doc.at? place := by
  by_cases finished : (operation.apply doc).stop = none
  · rcases List.eq_nil_or_concat operation.path.segments with root | ⟨parents, leaf, aimed⟩
    · rw [apply_root root] at finished
      cases finished
    rw [List.concat_eq_append] at aimed
    obtain ⟨container, _, done, after, before, _⟩ := apply_container aimed finished
    simp only [aimed, List.append_assoc, List.singleton_append]
    cases container with
    | obj fields =>
      -- The last step set the name in a mapping.
      left
      rw [after, editLeaf_of_value? puts, Json.at?_cons, Json.setLeaf, Json.under?,
        Fields.get?_set_self, Option.bind_some]
    | arr items =>
      -- A sequence has no place under the name, neither before nor afterwards.
      right
      obtain ⟨changed, same⟩ := editLeaf_arr operation leaf items
      have unnamed := named leaf (by simp [aimed])
      rw [after, before _ (by simp), same, Json.at?_cons, Json.at?_cons,
        Json.under?_arr_of_named unnamed, Json.under?_arr_of_named unnamed]
    | null => cases operation <;> cases done
    | bool truth => cases operation <;> cases done
    | num number => cases operation <;> cases done
    | str text => cases operation <;> cases done
  · right
    rw [apply_value_of_stop finished]

end Operation

namespace Patch

/-- Below the root, a patch starts from what is read in the document under names. -/
theorem at?_base {kept : List String} (below : kept ≠ [])
    (named : ∀ segment ∈ kept, Json.segmentIndex? segment = none) (doc : Json) :
    (base doc).at? kept = doc.at? kept := by
  obtain ⟨segment, rest, rfl⟩ := List.exists_cons_of_ne_nil below
  cases doc with
  | arr items =>
    -- A sequence counts as an empty mapping, and it has nothing under a name either.
    rw [Json.at?_cons, Json.at?_cons, Json.under?_arr_of_named (named segment (by simp))]
    rfl
  | _ => rfl

/-- A value of the patch that was put above a place or at it is what is read there. -/
def Added (patch : Patch) (kept : List String) (read : Option Json) : Prop :=
  ∃ operation ∈ patch, ∃ value tail, operation.value? = some value ∧
    operation.path.segments ++ tail = kept ∧ read = value.at? tail

variable {patch : Patch} {kept : List String}
  (puts : ∀ operation ∈ patch, operation.value?.isSome)
  (whole : ∀ operation ∈ patch,
    kept <+: operation.path.segments → operation.path.segments <+: kept)
  (named : ∀ segment ∈ kept, Json.segmentIndex? segment = none)
include puts whole named

/-- What values do to a place that none of them is put below: the last one counts. -/
theorem run_put (doc : Json) :
    (run patch doc).at? kept = doc.at? kept ∨ patch.Added kept ((run patch doc).at? kept) := by
  -- By induction on the operations: what the rest keeps is what the first one left.
  induction patch generalizing doc with
  | nil => exact .inl rfl
  | cons operation rest ih =>
    rw [List.forall_mem_cons] at puts whole
    rw [run_cons]
    rcases ih puts.2 whole.2 (operation.apply doc).value with same | ⟨other, listed, put⟩
    · rw [same]
      by_cases above : operation.path.segments <+: kept
      · -- The operation works above the place, so its value may be what is read.
        obtain ⟨tail, rfl⟩ := above
        obtain ⟨value, there⟩ := Option.isSome_iff_exists.1 puts.1
        have names : ∀ segment ∈ operation.path.segments, Json.segmentIndex? segment = none :=
          fun segment inside => named segment (List.mem_append_left _ inside)
        exact (Operation.at?_put there names tail doc).symm.imp_right fun read =>
          ⟨operation, List.mem_cons_self .., value, tail, there, rfl, read⟩
      · exact .inl (Operation.at?_apply_apart ⟨above, fun under => above (whole.1 under)⟩ named doc)
    · exact .inr ⟨other, List.mem_cons_of_mem _ listed, put⟩

/-- What a patch of values does to a place that none of them is put below. -/
theorem apply_put (below : kept ≠ []) (doc : Json) :
    (patch.apply doc).at? kept = doc.at? kept ∨ patch.Added kept ((patch.apply doc).at? kept) := by
  rw [apply_eq_run, ← at?_base below named doc]
  exact run_put puts whole named (base doc)

end Patch

end Minigame
