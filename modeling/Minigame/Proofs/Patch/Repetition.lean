import Minigame.Proofs.Patch.Places

/-!
Applying a patch of values again changes nothing.

A place that some operation writes as a whole forgets what it held. In any other place the operations
of the first pass have made all that the second pass walks through.
-/

namespace Minigame

namespace Patch

/-- Patches with paths up to a length change nothing when they are applied again. -/
def SettlesUpTo (bound : Nat) : Prop :=
  ∀ (patch : Patch) (doc : Json), (∀ operation ∈ patch, operation.Puts) →
    (∀ operation ∈ patch, operation.path.segments.length ≤ bound) → doc.Ordered →
    patch.StopsOnly Operation.apply Operation.Unplaced doc → run patch (run patch doc) = run patch doc

section

variable {bound : Nat} (settles : SettlesUpTo bound) {patch : Patch}
  (puts : ∀ operation ∈ patch, operation.Puts)
  (short : ∀ operation ∈ patch, operation.path.segments.length ≤ bound)
include settles puts short

/-- A value that all operations go on into changes no more the second time. -/
theorem runPlace_again {step : Operation → Option Json → Edited (Option Json)}
    (valid : Json → Prop)
    (same : ∀ operation ∈ patch, ∀ value, valid value →
      step operation (some value) = (operation.apply value).map some)
    (kept : ∀ operation ∈ patch, ∀ value, valid value → valid (operation.apply value).value)
    {allowed : Operation → Prop} (spared : ∀ operation, allowed operation → operation.Unplaced)
    {value : Json} (fits : valid value) (ordered : value.Ordered)
    (stops : patch.StopsOnly step allowed (some value)) :
    runPlace step patch (runPlace step patch (some value)) = runPlace step patch (some value) := by
  -- Both passes are passes over the value, and there the patch settles.
  obtain ⟨left, leftFits, inside⟩ := runPlace_some valid same kept fits
  obtain ⟨leftAgain, _, _⟩ := runPlace_some valid same kept leftFits
  have settled : run patch (run patch value) = run patch value :=
    settles patch value puts short ordered ((inside allowed stops).mono spared)
  rw [left, leftAgain, settled]

variable {place : Option Json} (ordered : ∀ value, place = some value → value.Ordered)
include ordered

/-- What is under a name of a mapping changes no more the second time. -/
theorem runPlace_onField_again
    (stops : patch.StopsOnly Operation.onField Operation.Unplaced place) :
    runPlace Operation.onField patch (runPlace Operation.onField patch place) =
      runPlace Operation.onField patch place := by
  by_cases root : ∃ operation ∈ patch, operation.path.segments = []
  · -- An operation that writes the place as a whole makes the passes equal from there on.
    exact runPlace_eq_of_root (fun _ => True) (fun _ _ _ _ => trivial)
      (fun operation _ aimed place _ => by simp [Operation.onField, aimed]) root trivial trivial
  · -- Without such an operation the first one finds or makes a value that all go on into.
    have rootless : ∀ operation ∈ patch, operation.path.segments ≠ [] := fun operation there aimed =>
      root ⟨operation, there, aimed⟩
    cases patch with
    | nil => rfl
    | cons operation rest =>
      obtain ⟨value, full, sorted, same⟩ : ∃ value, value ≠ .null ∧ value.Ordered ∧
          operation.onField place = operation.onField (some value) :=
        Operation.onField_entered (rootless operation (List.mem_cons_self ..)) ordered stops.1
      have first : runPlace Operation.onField (operation :: rest) place =
          runPlace Operation.onField (operation :: rest) (some value) := by
        rw [runPlace_cons, runPlace_cons, same]
      have stopsThere : StopsOnly Operation.onField Operation.Unplaced (operation :: rest)
          (some value) := by
        rwa [StopsOnly, ← same]
      rw [first]
      exact runPlace_again settles puts short (· ≠ .null)
        (fun other there value full => Operation.onField_some (rootless other there) full)
        (fun other _ value full => other.apply_value_ne_null full) (fun _ unplaced => unplaced)
        full sorted stopsThere

/-- What is in a place of a sequence changes no more the second time. -/
theorem runPlace_onItem_again
    (stops : patch.StopsOnly Operation.onItem (fun _ => False) place) :
    runPlace Operation.onItem patch (runPlace Operation.onItem patch place) =
      runPlace Operation.onItem patch place := by
  cases patch with
  | nil => rfl
  | cons operation rest =>
    -- The first operation has found a value, or it writes the place as a whole.
    obtain ⟨value, sorted, same⟩ : ∃ value, (value.Ordered ∨ operation.path.segments = []) ∧
        operation.onItem place = operation.onItem (some value) :=
      Operation.onItem_found ordered stops.1
    have first : runPlace Operation.onItem (operation :: rest) place =
        runPlace Operation.onItem (operation :: rest) (some value) := by
      rw [runPlace_cons, runPlace_cons, same]
    have stopsThere : StopsOnly Operation.onItem (fun _ => False) (operation :: rest)
        (some value) := by
      rwa [StopsOnly, ← same]
    rw [first]
    by_cases root : ∃ other ∈ operation :: rest, other.path.segments = []
    · -- The second pass starts with a place in the sequence, as the first one did.
      have kept : ∀ other ∈ operation :: rest, ∀ place : Option Json, place.isSome →
          (other.onItem place).value.isSome := fun other there =>
        Operation.onItem_isSome (puts other there)
      refine runPlace_eq_of_root (fun place => place.isSome) kept
        (fun other _ aimed place full => Operation.onItem_root aimed full) root ?_ rfl
      exact runPlace_valid (fun place => place.isSome) kept rfl
    · -- All operations go on into the value, and none of them stops.
      have rootless : ∀ other ∈ operation :: rest, other.path.segments ≠ [] :=
        fun other there aimed => root ⟨other, there, aimed⟩
      have fits : value.Ordered := sorted.resolve_right (rootless operation (List.mem_cons_self ..))
      exact runPlace_again settles puts short (fun _ => True)
        (fun other there value _ => Operation.onItem_some (rootless other there) value)
        (fun _ _ _ _ => trivial) (fun _ never => never.elim) trivial fits stopsThere

end

/-- The operations below a place put their values at paths one segment shorter. -/
theorem below_short (enters : String → Bool) {patch : Patch} {bound : Nat}
    (puts : ∀ operation ∈ patch, operation.Puts)
    (short : ∀ operation ∈ patch, operation.path.segments.length ≤ bound + 1) :
    (∀ lower ∈ patch.below enters, lower.Puts) ∧
      ∀ lower ∈ patch.below enters, lower.path.segments.length ≤ bound := by
  constructor
  · intro lower there
    obtain ⟨operation, listed, seen⟩ := List.mem_filterMap.1 there
    exact (puts operation listed).below seen
  · intro lower there
    obtain ⟨operation, listed, seen⟩ := List.mem_filterMap.1 there
    obtain ⟨segment, rest, aimed, _, rfl⟩ := Operation.below?_eq_some_iff.1 seen
    have := short operation listed
    simp only [aimed, List.length_cons, Operation.path_withPath] at this ⊢
    omega

/-- A patch of values changes nothing when it is applied again to what it left. -/
theorem settlesUpTo (bound : Nat) : SettlesUpTo bound := by
  -- A container settles if every place in it does, and below a place the paths are shorter.
  induction bound with
  | zero =>
    intro patch doc _ short _ _
    -- Operations without a segment stop at the root.
    have idle : ∀ start, run patch start = start := fun start =>
      run_eq_self fun operation there => by
        rw [Operation.apply_root (List.length_eq_zero_iff.1 (Nat.le_zero.1 (short operation there)))]
    rw [idle, idle]
  | succ bound ih =>
    intro patch doc puts short ordered stops
    cases doc with
    | obj fields =>
      obtain ⟨once, first, keeps, seen⟩ := run_obj patch fields
      obtain ⟨twice, second, keepsAgain, seenAgain⟩ := run_obj patch once
      rw [first, second]
      -- Mappings in order are equal if they have the same under every name.
      have sorted := keeps ordered.fields
      refine congrArg Json.obj ((keepsAgain sorted).ext sorted fun name => ?_)
      obtain ⟨putsBelow, shortBelow⟩ := below_short (· = name) puts short
      rw [seenAgain, seen]
      exact runPlace_onField_again ih putsBelow shortBelow (fun value found => ordered.field found)
        (stops.field name)
    | arr items =>
      -- In the second pass an operation may stop, but never for want of its place.
      obtain ⟨once, first, _, reached, seen⟩ := run_arr puts (.inr stops)
      obtain ⟨twice, second, _, _, seenAgain⟩ := run_arr puts (.inl reached)
      rw [first, second]
      refine congrArg Json.arr (List.ext_getElem? fun index => ?_)
      obtain ⟨putsBelow, shortBelow⟩ :=
        below_short (fun segment => Json.segmentIndex? segment = some index) puts short
      rw [seenAgain, seen]
      exact runPlace_onItem_again ih putsBelow shortBelow (fun value found => ordered.item found)
        (stops.item puts index)
    | _ => simp [run_of_scalar]

/-- What may stop is told by what each operation meets after those in front of it. -/
theorem stopsOnly_of_places {allowed : Operation → Prop} {patch : Patch} {doc : Json}
    (told : ∀ place operation, patch[place]? = some operation →
      (operation.apply (run (patch.take place) doc)).stop ≠ none → allowed operation) :
    patch.StopsOnly Operation.apply allowed doc := by
  induction patch generalizing doc with
  | nil => trivial
  | cons operation rest ih =>
    exact ⟨told 0 operation rfl, ih fun place later found => told (place + 1) later found⟩

/-- A patch whose report lists only adds at paths of names stops nowhere else. -/
theorem stopsOnly_of_skipped {patch : Patch} {doc : Json}
    (unplaced : ∀ skip ∈ (patch.applyWithReport doc).2.skipped, ∃ path value,
      patch[skip.index]? = some (.add path value) ∧
      ∀ segment ∈ path.segments, Json.segmentIndex? segment = none) :
    patch.StopsOnly Operation.apply Operation.Unplaced (base doc) := by
  -- An operation that stops is listed, and what is listed at its place is the operation.
  refine stopsOnly_of_places fun place operation found stopped => ?_
  obtain ⟨reason, stopped⟩ := Option.ne_none_iff_exists'.1 stopped
  have listed : (⟨place, operation.path.text, reason⟩ : Skipped) ∈
      (patch.applyWithReport doc).2.skipped :=
    mem_skipped_iff.2 ⟨place, operation, found, (Nat.zero_add place).symm, rfl, stopped⟩
  obtain ⟨path, value, same, names⟩ := unplaced _ listed
  obtain rfl : operation = .add path value := Option.some.inj (found.symm.trans same)
  exact ⟨rfl, names⟩

/--
A patch of adds and replaces at paths without a dash changes nothing when it is applied again.

For this the first application may skip only adds at paths that name no place of a sequence, and so
it does if it skips nothing. The document lists its names in order, as every document that is read
from text does.
-/
theorem apply_again (patch : Patch) (doc : Json) (ordered : doc.Ordered)
    (sets : ∀ operation ∈ patch, operation.value?.isSome)
    (dashless : ∀ operation ∈ patch, "-" ∉ operation.path.segments) :
    let report := (patch.applyWithReport doc).2
    ((∀ skip ∈ report.skipped, ∃ path value, patch[skip.index]? = some (.add path value) ∧
        ∀ segment ∈ path.segments, Json.segmentIndex? segment = none) →
      patch.apply (patch.apply doc) = patch.apply doc) ∧
    (report.isComplete = true → patch.apply (patch.apply doc) = patch.apply doc) := by
  intro report
  have again : (∀ skip ∈ report.skipped, ∃ path value,
      patch[skip.index]? = some (.add path value) ∧
      ∀ segment ∈ path.segments, Json.segmentIndex? segment = none) →
      patch.apply (patch.apply doc) = patch.apply doc := fun unplaced => by
    -- The longest path bounds the depth at which the passes are compared.
    let lengths := patch.map fun operation => operation.path.segments.length
    have settled := settlesUpTo (lengths.max?.getD 0) patch (base doc)
      (fun operation there => ⟨sets operation there, dashless operation there⟩)
      (fun operation there => List.le_max?_getD_of_mem (List.mem_map.2 ⟨operation, there, rfl⟩))
      (base_ordered ordered) (stopsOnly_of_skipped unplaced)
    obtain ⟨fields, started, _⟩ := base_eq_obj doc
    obtain ⟨changed, left, _⟩ := run_obj patch fields
    rw [apply_eq_run, apply_eq_run, started, left, base, ← left, ← started, settled]
  refine ⟨again, fun complete => again fun skip listed => ?_⟩
  rw [List.isEmpty_iff.1 complete] at listed
  cases listed

/-- An add that is skipped at first fits the second time, and the document stays as it was. -/
theorem apply_again_unblocked :
    let doc := Json.obj [("meta", .bool true), ("orbs", .arr [])]
    let patch := [Operation.add ⟨["meta", "skin"]⟩ (.str "dusk"), .add ⟨["meta"]⟩ (.obj []),
      .add ⟨["orbs", "0"]⟩ (.nat 7), .replace ⟨["orbs", "0"]⟩ (.nat 8)]
    (applyWithReport patch doc).2.skipped = [⟨0, "/meta/skin", .notAContainer⟩] ∧
      Patch.apply patch (Patch.apply patch doc) = Patch.apply patch doc := by
  intro doc patch
  have skipped : (applyWithReport patch doc).2.skipped = [⟨0, "/meta/skin", .notAContainer⟩] := by
    decide
  have ordered : doc.Ordered := by
    refine .obj (List.pairwise_pair.2 (by decide)) fun field listed => ?_
    simp only [List.mem_cons, List.not_mem_nil, or_false] at listed
    rcases listed with rfl | rfl
    · exact .bool true
    · exact .arr (by simp)
  refine ⟨skipped, (apply_again patch doc ordered (by decide) (by decide)).1 fun skip listed => ?_⟩
  obtain rfl : skip = ⟨0, "/meta/skin", .notAContainer⟩ := by simpa [skipped] using listed
  exact ⟨⟨["meta", "skin"]⟩, .str "dusk", rfl, by decide⟩

end Patch

end Minigame
