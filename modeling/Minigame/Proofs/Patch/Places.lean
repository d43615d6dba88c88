import Minigame.Proofs.Patch.Below

/-!
What the operations of a patch leave in one place of a container, and which of them stop there.

Operations that only go on into a value leave what they leave of the value. An operation that writes
the place as a whole makes it forget what it held.
-/

namespace Minigame

namespace Operation

/-- An operation that makes what is missing, at a path that names no place of a sequence. -/
structure Unplaced (operation : Operation) : Prop where
  creates : operation.creates = true
  names : ∀ segment ∈ operation.path.segments, Json.segmentIndex? segment = none

/-- One step below an operation still names no place of a sequence. -/
theorem Unplaced.below {enters : String → Bool} {operation lower : Operation}
    (unplaced : operation.Unplaced) (seen : lower ∈ operation.below? enters) : lower.Unplaced := by
  obtain ⟨segment, rest, aimed, _, rfl⟩ := below?_eq_some_iff.1 seen
  exact ⟨by simpa using unplaced.creates, fun other there => unplaced.names other (by simp_all)⟩

/-- The first segment of an operation that names no place of a sequence names none. -/
theorem Unplaced.place?_eq_none {operation : Operation} (unplaced : operation.Unplaced) :
    operation.place? = none := by
  rw [place?]
  cases aimed : operation.path.segments with
  | nil => rfl
  | cons segment rest => exact unplaced.names segment (by simp [aimed])

/-- An operation that is seen below a place of a sequence names the place. -/
theorem place?_of_below {operation lower : Operation} {index : Nat}
    (seen : lower ∈ operation.below? fun segment => Json.segmentIndex? segment = some index) :
    operation.place? = some index := by
  obtain ⟨segment, rest, aimed, named, _⟩ := below?_eq_some_iff.1 seen
  simpa [place?, aimed] using named

section

variable (operation : Operation) {doc : Json} (noMapping : ∀ fields, doc ≠ .obj fields)
  (noSequence : ∀ items, doc ≠ .arr items)
include noMapping noSequence

/-- An operation stops at a value that is no container. -/
theorem stop_of_scalar : (operation.apply doc).stop ≠ none := by
  -- The root stops as the root, and no step leads into a scalar or changes what is below it.
  rw [apply]
  -- The path ends at the root, ends below it in one step, or goes on in several.
  rcases operation.path.segments with _ | ⟨segment, _ | ⟨next, rest⟩⟩
  · simp [Json.editAt]
  · cases operation <;> cases doc <;>
      simp_all [Json.editAt, editLeaf, Json.setLeaf, Json.removeLeaf]
  · cases doc <;> simp_all [Json.editAt]

/-- An operation leaves a value that is no container as it is. -/
theorem apply_value_of_scalar : (operation.apply doc).value = doc :=
  apply_value_of_stop (stop_of_scalar operation noMapping noSequence)

end

/-- A sequence stays one, whatever an operation does to it. -/
theorem apply_arr_value (operation : Operation) (items : List Json) :
    ∃ changed, (operation.apply (.arr items)).value = .arr changed := by
  rw [apply]
  -- The last step may add, set or take out an item; the other steps change one item in its place.
  rcases operation.path.segments with _ | ⟨segment, _ | ⟨next, rest⟩⟩
  · exact ⟨items, rfl⟩
  · cases operation <;> simp only [Json.editAt, editLeaf, Json.setLeaf, Json.removeLeaf] <;>
      repeat' split
    all_goals exact ⟨_, rfl⟩
  · simp only [Json.editAt]
    split
    · exact ⟨items, rfl⟩
    · split <;> exact ⟨_, rfl⟩

/-- An operation never leaves null behind of another value. -/
theorem apply_value_ne_null (operation : Operation) {doc : Json} (full : doc ≠ .null) :
    (operation.apply doc).value ≠ .null := by
  -- Mappings and sequences keep their kind, and other values are left alone.
  cases doc with
  | obj fields =>
    cases aimed : operation.path.segments with
    | nil => simp [apply_root aimed]
    | cons segment rest =>
      obtain ⟨changed, same, _⟩ := apply_obj operation fields aimed
      simp [same]
  | arr items =>
    obtain ⟨changed, same⟩ := apply_arr_value operation items
    simp [same]
  | _ =>
    -- Any other value is no container.
    rw [apply_value_of_scalar operation] <;> simp_all

/-- An operation that goes on below a name changes the value there. -/
theorem onField_some {operation : Operation} (deeper : operation.path.segments ≠ []) {value : Json}
    (full : value ≠ .null) : operation.onField (some value) = (operation.apply value).map some := by
  obtain ⟨segment, rest, aimed⟩ := List.exists_cons_of_ne_nil deeper
  simp [onField, aimed, Json.entered, full]

/--
An operation that goes on below a name finds a value there or makes an empty mapping.

Only an operation that makes what is missing may stop.
-/
theorem onField_entered {operation : Operation} (deeper : operation.path.segments ≠ [])
    {place : Option Json} (ordered : ∀ value, place = some value → value.Ordered)
    (stops : (operation.onField place).stop ≠ none → operation.Unplaced) :
    ∃ value, value ≠ .null ∧ value.Ordered ∧
      operation.onField place = operation.onField (some value) := by
  obtain ⟨segment, rest, aimed⟩ := List.exists_cons_of_ne_nil deeper
  by_cases full : ∃ value, place = some value ∧ value ≠ .null
  · obtain ⟨value, rfl, notNull⟩ := full
    exact ⟨value, notNull, ordered value rfl, rfl⟩
  · -- Nothing and null stop all other operations, so this one makes an empty mapping of them.
    have creates : operation.creates = true := Decidable.byContradiction fun other => by
      refine other (stops ?_).creates
      cases place with
      | none => simp [onField, aimed, other]
      | some value =>
        obtain rfl : value = .null := by simpa using full
        have stopped : (operation.apply .null).stop ≠ none :=
          stop_of_scalar operation (by simp) (by simp)
        simpa [onField, aimed, Json.entered, other] using stopped
    refine ⟨.obj [], by simp, .obj_nil, ?_⟩
    cases place with
    | none => simp [onField, aimed, creates, Json.entered]
    | some value =>
      obtain rfl : value = .null := by simpa using full
      simp [onField, aimed, creates, Json.entered]

/-- An operation that goes on below a place of a sequence changes the value there. -/
theorem onItem_some {operation : Operation} (deeper : operation.path.segments ≠ [])
    (value : Json) : operation.onItem (some value) = (operation.apply value).map some := by
  obtain ⟨segment, rest, aimed⟩ := List.exists_cons_of_ne_nil deeper
  simp [onItem, aimed]

/-- An operation that ends at a place of a sequence writes it as a whole. -/
theorem onItem_root {operation : Operation} (aimed : operation.path.segments = [])
    {place : Option Json} (full : place.isSome) :
    (operation.onItem place).value = operation.value? := by
  obtain ⟨value, rfl⟩ := Option.isSome_iff_exists.1 full
  simp [onItem, aimed]

/-- A place in a sequence stays in it. -/
theorem onItem_isSome {operation : Operation} (puts : operation.Puts) (place : Option Json)
    (full : place.isSome) : (operation.onItem place).value.isSome := by
  by_cases aimed : operation.path.segments = []
  · rw [onItem_root aimed full]
    exact puts.value
  · obtain ⟨value, rfl⟩ := Option.isSome_iff_exists.1 full
    rw [onItem_some aimed, Edited.map_value, Option.isSome_some]

/--
An operation that does not stop in a place of a sequence finds a value there.

Or it writes the place as a whole, and then any value could have been there.
-/
theorem onItem_found {operation : Operation} {place : Option Json}
    (ordered : ∀ value, place = some value → value.Ordered)
    (stops : (operation.onItem place).stop ≠ none → False) :
    ∃ value, (value.Ordered ∨ operation.path.segments = []) ∧
      operation.onItem place = operation.onItem (some value) := by
  cases place with
  | some value => exact ⟨value, .inl (ordered value rfl), rfl⟩
  | none =>
    cases aimed : operation.path.segments with
    | nil =>
      -- What the place holds is overwritten, so null does as well as any other value.
      refine ⟨.null, .inr rfl, ?_⟩
      by_cases creates : operation.creates = true
      · simp [onItem, aimed, creates]
      · exact absurd (by simp [onItem, aimed, creates]) stops
    | cons segment rest => exact absurd (by simp [onItem, aimed]) stops

end Operation

namespace Patch

/-- A patch whose operations leave a document as it is leaves it as it is. -/
theorem run_eq_self {patch : Patch} {doc : Json}
    (idle : ∀ operation ∈ patch, (operation.apply doc).value = doc) : run patch doc = doc := by
  -- By induction on the operations, each of which finds the same document.
  induction patch with
  | nil => rfl
  | cons operation rest ih =>
    rw [run_cons, idle operation (List.mem_cons_self ..)]
    exact ih fun later there => idle later (List.mem_cons_of_mem _ there)

/-- More operations may be allowed to stop. -/
theorem StopsOnly.mono {σ : Type} {step : Operation → σ → Edited σ}
    {allowed others : Operation → Prop} {patch : Patch} {start : σ}
    (stops : patch.StopsOnly step allowed start)
    (more : ∀ operation, allowed operation → others operation) :
    patch.StopsOnly step others start := by
  -- The states on the way stay the same, so each entry is weakened by itself.
  induction patch generalizing start with
  | nil => trivial
  | cons operation rest ih => exact ⟨fun stopped => more _ (stops.1 stopped), ih stops.2⟩

/-- What stops below a name of a mapping stops in the mapping, too. -/
theorem StopsOnly.field {patch : Patch} {fields : Fields Json}
    (stops : patch.StopsOnly Operation.apply Operation.Unplaced (.obj fields)) (name : String) :
    (patch.below (· = name)).StopsOnly Operation.onField Operation.Unplaced
      (Fields.get? name fields) := by
  -- The operation that is seen below stops for the reason for which it stops in the mapping.
  induction patch generalizing fields with
  | nil => trivial
  | cons operation rest ih =>
    obtain ⟨here, later⟩ := stops
    obtain ⟨changed, same, _, tells⟩ := seen_obj operation fields
    rw [same] at later
    rw [below_cons]
    exact (tells name).stopsOnly (fun lower seen stopped => (here stopped).below seen) (ih later)

/-- A patch leaves a value that is no container as it is. -/
theorem run_of_scalar (patch : Patch) {doc : Json} (noMapping : ∀ fields, doc ≠ .obj fields)
    (noSequence : ∀ items, doc ≠ .arr items) : run patch doc = doc :=
  run_eq_self fun operation _ => operation.apply_value_of_scalar noMapping noSequence

section

variable {step : Operation → Option Json → Edited (Option Json)} {patch : Patch}

/-- Operations that change a place as they change the value in it leave what they leave of it. -/
theorem runPlace_some (valid : Json → Prop)
    (same : ∀ operation ∈ patch, ∀ value, valid value →
      step operation (some value) = (operation.apply value).map some)
    (kept : ∀ operation ∈ patch, ∀ value, valid value → valid (operation.apply value).value)
    {value : Json} (fits : valid value) :
    runPlace step patch (some value) = some (run patch value) ∧ valid (run patch value) ∧
      ∀ allowed, patch.StopsOnly step allowed (some value) →
        patch.StopsOnly Operation.apply allowed value := by
  -- Each operation leaves a valid value, and on that the next one works in the same way.
  induction patch generalizing value with
  | nil => exact ⟨rfl, fits, fun _ _ => trivial⟩
  | cons operation rest ih =>
    obtain ⟨sameHere, sameLater⟩ := List.forall_mem_cons.1 same
    obtain ⟨keptHere, keptLater⟩ := List.forall_mem_cons.1 kept
    obtain ⟨left, leftFits, stops⟩ := ih sameLater keptLater (keptHere value fits)
    rw [runPlace_cons, run_cons, sameHere value fits]
    refine ⟨left, leftFits, fun allowed stopsAll => ?_⟩
    rw [StopsOnly, sameHere value fits] at stopsAll
    exact ⟨stopsAll.1, stops allowed stopsAll.2⟩

/-- What holds of a place and is kept by every operation holds of what they leave. -/
theorem runPlace_valid (valid : Option Json → Prop)
    (kept : ∀ operation ∈ patch, ∀ place, valid place → valid (step operation place).value)
    {place : Option Json} (fits : valid place) : valid (runPlace step patch place) := by
  -- By induction on the operations, for every place.
  induction patch generalizing place with
  | nil => exact fits
  | cons operation rest ih =>
    obtain ⟨here, later⟩ := List.forall_mem_cons.1 kept
    exact ih later (here place fits)

end

/--
A patch on a sequence, seen in every place.

Either all the places it names lie in the sequence, or its operations in the sequence do not stop.
-/
theorem run_arr {patch : Patch} (puts : ∀ operation ∈ patch, operation.Puts) {items : List Json}
    (fits : (∀ operation ∈ patch, ∀ index, operation.place? = some index → index < items.length) ∨
      patch.StopsOnly Operation.apply Operation.Unplaced (.arr items)) :
    ∃ changed, run patch (.arr items) = .arr changed ∧ items.length ≤ changed.length ∧
      (∀ operation ∈ patch, ∀ index, operation.place? = some index → index < changed.length) ∧
      ∀ index, changed[index]? =
        runPlace Operation.onItem (patch.belowItem index) items[index]? := by
  -- A sequence never gets shorter, so a place that lies in it goes on to do so.
  induction patch generalizing items with
  | nil => exact ⟨items, rfl, Nat.le_refl _, by simp, fun index => rfl⟩
  | cons operation rest ih =>
    -- An operation in the sequence fits, since those that may stop name no place in it.
    have fitsHere : ∀ index, operation.place? = some index →
        index < items.length ∨ (operation.apply (.arr items)).stop = none := fun index named => by
      rcases fits with inside | stops
      · exact .inl (inside operation (List.mem_cons_self ..) index named)
      · exact .inr (Decidable.byContradiction fun stopped =>
          absurd (stops.1 stopped).place?_eq_none (by simp [named]))
    obtain ⟨middle, first, longer, reached, tells⟩ :=
      seen_arr (puts operation (List.mem_cons_self ..)) fitsHere
    have fitsLater : (∀ later ∈ rest, ∀ index, later.place? = some index → index < middle.length) ∨
        StopsOnly Operation.apply Operation.Unplaced rest (.arr middle) := by
      rcases fits with inside | stops
      · exact .inl fun later there index named =>
          Nat.lt_of_lt_of_le (inside later (List.mem_cons_of_mem _ there) index named) longer
      · exact .inr (first ▸ stops.2)
    obtain ⟨changed, last, longest, reachedLater, seen⟩ :=
      ih (fun later there => puts later (List.mem_cons_of_mem _ there)) fitsLater
    refine ⟨changed, by rw [run_cons, first, last], by omega, fun other there index named => ?_,
      fun index => ?_⟩
    · -- A place that an operation names lies in the sequence that this operation left.
      rcases List.mem_cons.1 there with rfl | there
      · exact Nat.lt_of_lt_of_le (reached index named) longest
      · exact reachedLater other there index named
    · rw [seen, belowItem_cons, (tells index).runPlace]

/-- In a place of a sequence no operation stops, if none stops that names a place of one. -/
theorem StopsOnly.item {patch : Patch} (puts : ∀ operation ∈ patch, operation.Puts)
    {items : List Json} (stops : patch.StopsOnly Operation.apply Operation.Unplaced (.arr items))
    (index : Nat) :
    (patch.belowItem index).StopsOnly Operation.onItem (fun _ => False) items[index]? := by
  -- An operation below a place names that place, and those that may stop name none.
  induction patch generalizing items with
  | nil => trivial
  | cons operation rest ih =>
    obtain ⟨here, later⟩ := stops
    have fits : ∀ index, operation.place? = some index →
        (operation.apply (.arr items)).stop = none := fun index named =>
      Decidable.byContradiction fun stopped =>
        absurd (here stopped).place?_eq_none (by simp [named])
    obtain ⟨middle, first, _, _, tells⟩ :=
      seen_arr (puts operation (List.mem_cons_self ..)) fun index named => .inr (fits index named)
    rw [first] at later
    rw [belowItem_cons]
    -- An operation below a place would stop in the sequence, but there it does not.
    refine (tells index).stopsOnly (fun lower seen stopped => ?_)
      (ih (fun other there => puts other (List.mem_cons_of_mem _ there)) later)
    exact stopped (fits index (Operation.place?_of_below seen))

/-- What is left of a place that some operation writes as a whole does not depend on what it held. -/
theorem runPlace_eq_of_root {step : Operation → Option Json → Edited (Option Json)}
    (valid : Option Json → Prop) {patch : Patch}
    (kept : ∀ operation ∈ patch, ∀ place, valid place → valid (step operation place).value)
    (whole : ∀ operation ∈ patch, operation.path.segments = [] → ∀ place, valid place →
      (step operation place).value = operation.value?)
    (root : ∃ operation ∈ patch, operation.path.segments = []) {place other : Option Json}
    (fits : valid place) (otherFits : valid other) :
    runPlace step patch place = runPlace step patch other := by
  -- The places may differ until the first operation that writes them as a whole.
  induction patch generalizing place other with
  | nil => simp at root
  | cons operation rest ih =>
    obtain ⟨keptHere, keptLater⟩ := List.forall_mem_cons.1 kept
    obtain ⟨wholeHere, wholeLater⟩ := List.forall_mem_cons.1 whole
    rw [runPlace_cons, runPlace_cons]
    by_cases aimed : operation.path.segments = []
    · rw [wholeHere aimed place fits, wholeHere aimed other otherFits]
    · -- This operation goes on below the place, so the writer is one of the later ones.
      refine ih keptLater wholeLater ?_ (keptHere place fits) (keptHere other otherFits)
      obtain ⟨writer, there, atRoot⟩ := root
      rcases List.mem_cons.1 there with rfl | there
      · exact absurd atRoot aimed
      · exact ⟨writer, there, atRoot⟩

end Patch

end Minigame
