import Minigame.Proofs.Patch.Readings
import Minigame.Proofs.Patch.Sections

/-!
What a patch leaves alone.

What is read under names alone is not changed by operations that work neither there nor above, and
a section stays a mapping unless an operation works at the section as a whole.
-/

namespace Minigame

/-- A sequence has nothing under a name. -/
theorem Json.under?_arr_of_named {segment : String} (named : segmentIndex? segment = none)
    (items : List Json) : under? segment (.arr items) = none := by
  rw [under?, named, Option.bind_none]

namespace Operation

/-- An operation works neither on the way to a place of the document nor below the place. -/
def Apart (kept : List String) (operation : Operation) : Prop :=
  ¬ operation.path.segments <+: kept ∧ ¬ kept <+: operation.path.segments

instance (kept : List String) (operation : Operation) : Decidable (operation.Apart kept) :=
  inferInstanceAs (Decidable (_ ∧ _))

/-- The last step of an operation leaves a sequence a sequence. -/
theorem editLeaf_arr (operation : Operation) (leaf : String) (items : List Json) :
    ∃ changed, (operation.editLeaf leaf (.arr items)).value = .arr changed := by
  have whole := apply_arr_value (operation.withPath ⟨[leaf]⟩) items
  simpa only [apply, path_withPath, creates_withPath, editLeaf_withPath, Json.editAt] using whole

/-- The last step of an operation changes what is under no other name. -/
theorem editLeaf_under?_ne (operation : Operation) {leaf segment : String}
    (different : segment ≠ leaf) (named : Json.segmentIndex? segment = none) {container : Json}
    (finished : (operation.editLeaf leaf container).stop = none) :
    (operation.editLeaf leaf container).value.under? segment = container.under? segment := by
  cases container with
  | obj fields =>
    -- In a mapping the other names stay as they are.
    obtain ⟨changed, done, _, _, beside⟩ := editLeaf_obj operation leaf fields
    rw [done]
    exact beside segment different
  | arr items =>
    -- A sequence has no place under the name, neither before nor afterwards.
    obtain ⟨changed, same⟩ := editLeaf_arr operation leaf items
    rw [same, Json.under?_arr_of_named named, Json.under?_arr_of_named named]
  | null => cases operation <;> cases finished
  | bool value => cases operation <;> cases finished
  | num value => cases operation <;> cases finished
  | str value => cases operation <;> cases finished

/-- What is read under names alone stays, if an operation works apart from it. -/
theorem at?_apply_apart {operation : Operation} {kept : List String} (apart : operation.Apart kept)
    (named : ∀ segment ∈ kept, Json.segmentIndex? segment = none) (doc : Json) :
    (operation.apply doc).value.at? kept = doc.at? kept := by
  by_cases finished : (operation.apply doc).stop = none
  · rcases List.eq_nil_or_concat operation.path.segments with root | ⟨parents, leaf, aimed⟩
    · -- At the root an operation would work on the way to the place.
      exact absurd (by simp [root]) apart.1
    rw [List.concat_eq_append] at aimed
    have above : parents <+: operation.path.segments := ⟨[leaf], aimed.symm⟩
    obtain ⟨container, _, done, after, before, beside⟩ := apply_container aimed finished
    by_cases inside : parents <+: kept
    · -- The place lies in the container that the last step works in, under another name.
      obtain ⟨tail, rfl⟩ := inside
      cases tail with
      -- The place cannot be the container itself, since the operation works below that.
      | nil => exact absurd (by rwa [List.append_nil]) apart.2
      | cons segment rest =>
        have different : segment ≠ leaf := by
          rintro rfl
          exact apart.1 ⟨rest, by simp [aimed]⟩
        rw [after, before _ (by simp), Json.at?_cons, Json.at?_cons,
          editLeaf_under?_ne operation different (named segment (by simp)) done]
    · exact beside kept inside fun under => apart.2 (under.trans above)
  · -- An operation that stops on its way leaves the document as it is.
    rw [apply_value_of_stop finished]

end Operation

/-- A document has a mapping under a name. -/
def Json.HasSection (home : String) (doc : Json) : Prop :=
  ∃ named, doc.field? home = some (.obj named)

/-- Only a section that is a mapping has something under a name. -/
theorem Json.hasSection_of_at? {home leaf : String} {doc value : Json}
    (homeNamed : segmentIndex? home = none) (leafNamed : segmentIndex? leaf = none)
    (there : doc.at? [home, leaf] = some value) : doc.HasSection home := by
  obtain ⟨inner, found, further⟩ := Option.bind_eq_some_iff.1 there
  rw [at?_singleton] at further
  -- A sequence has nothing under a name, neither as the document nor as its section.
  cases doc with
  | obj fields =>
    cases inner with
    | obj named => exact ⟨named, found⟩
    | arr items =>
      rw [under?_arr_of_named leafNamed] at further
      cases further
    | _ => cases further
  | arr items =>
    rw [under?_arr_of_named homeNamed] at found
    cases found
  | _ => cases found

namespace Operation

/-- A section stays a mapping, if an operation does not work at the section as a whole. -/
theorem hasSection_apply {operation : Operation} {home : String} {doc : Json}
    (has : doc.HasSection home) (other : operation.path.segments ≠ [home]) :
    (operation.apply doc).value.HasSection home := by
  obtain ⟨named, there⟩ := has
  cases doc with
  | obj fields =>
    cases aimed : operation.path.segments with
    -- At the root an operation leaves the document as it is.
    | nil =>
      rw [apply_root aimed]
      exact ⟨named, there⟩
    | cons segment rest =>
      obtain ⟨changed, same, _, here, beside⟩ := apply_obj operation fields aimed
      rw [same]
      by_cases inside : home = segment
      · -- The operation goes on in the mapping and leaves one.
        subst inside
        have deeper : rest ≠ [] := fun none => other (by rw [aimed, none])
        obtain ⟨next, others, more⟩ := List.exists_cons_of_ne_nil deeper
        obtain ⟨inner, left, _⟩ := apply_obj (operation.withPath ⟨rest⟩) named
          ((congrArg Path.segments (path_withPath ..)).trans more)
        rw [Json.field?] at there
        rw [there, onField_some (by simpa using deeper) (by simp)] at here
        refine ⟨inner, ?_⟩
        -- What the operation leaves under the name is what it leaves of the mapping there.
        rw [Json.field?, ← left]
        exact (congrArg Edited.value here).symm
      · exact ⟨named, (beside home inside).trans there⟩
  | _ => cases there

/-- A value that is put in a section is read there. -/
theorem at?_put_section {home leaf : String} {value doc : Json} (has : doc.HasSection home) :
    ((Operation.add ⟨[home, leaf]⟩ value).apply doc).value.at? [home, leaf] = some value := by
  -- The section is a mapping before and afterwards, so the last step sets a name in it.
  have deeper : (Operation.add ⟨[home, leaf]⟩ value).path.segments ≠ [home] := by simp [path]
  obtain ⟨named, there⟩ := hasSection_apply has deeper
  obtain ⟨_, before⟩ := has
  cases doc with
  | obj fields =>
    obtain ⟨changed, same, _⟩ := apply_obj (.add ⟨[home, leaf]⟩ value) fields rfl
    have read := read_added there
    rw [same] at there ⊢
    rw [Json.at?_cons, Json.under?, show Fields.get? home changed = _ from there,
      Option.bind_some, Json.at?_singleton, Json.under?, read]
  | _ => cases before

end Operation

namespace Patch

variable {patch : Patch} {doc : Json} {home : String}

/-- A document with a section is a mapping, and a patch starts from the document itself. -/
theorem base_of_section (has : doc.HasSection home) : base doc = doc := by
  obtain ⟨_, there⟩ := has
  cases doc with
  | obj fields => rfl
  | _ => cases there

/-- Operations that work apart from what is read leave it as it is. -/
theorem run_apart {kept : List String} (apart : ∀ operation ∈ patch, operation.Apart kept)
    (named : ∀ segment ∈ kept, Json.segmentIndex? segment = none) :
    (run patch doc).at? kept = doc.at? kept := by
  -- By induction on the operations, for every document, since each one works on another.
  induction patch generalizing doc with
  | nil => rfl
  | cons operation rest ih =>
    rw [List.forall_mem_cons] at apart
    rw [run_cons, ih apart.2, Operation.at?_apply_apart apart.1 named]

/-- A section stays a mapping, if no operation works at the section as a whole. -/
theorem hasSection_run (has : doc.HasSection home)
    (others : ∀ operation ∈ patch, operation.path.segments ≠ [home]) :
    (run patch doc).HasSection home := by
  -- By induction on the operations, each of which keeps the section.
  induction patch generalizing doc with
  | nil => exact has
  | cons operation rest ih =>
    rw [List.forall_mem_cons] at others
    exact ih (Operation.hasSection_apply has others.1) others.2

section

variable (has : doc.HasSection home)
include has

/-- A section stays a mapping, if no operation of the patch works at the section as a whole. -/
theorem hasSection_apply (others : ∀ operation ∈ patch, operation.path.segments ≠ [home]) :
    (patch.apply doc).HasSection home := by
  rw [apply_eq_run, base_of_section has]
  exact hasSection_run has others

/-- What is read under names alone stays, if all operations of the patch work apart from it. -/
theorem at?_apply {kept : List String} (apart : ∀ operation ∈ patch, operation.Apart kept)
    (named : ∀ segment ∈ kept, Json.segmentIndex? segment = none) :
    (patch.apply doc).at? kept = doc.at? kept := by
  rw [apply_eq_run, base_of_section has, run_apart apart named]

/-- What is put in a section in front of operations that work apart from it is read there. -/
theorem at?_apply_put {leaf : String} {value : Json}
    (apart : ∀ operation ∈ patch, operation.Apart [home, leaf])
    (named : ∀ segment ∈ [home, leaf], Json.segmentIndex? segment = none) :
    (Patch.apply (.add ⟨[home, leaf]⟩ value :: patch) doc).at? [home, leaf] = some value := by
  rw [apply_eq_run, base_of_section has, run_cons, run_apart apart named]
  exact Operation.at?_put_section has

end

end Patch

end Minigame
