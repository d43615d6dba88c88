import Minigame.Proofs.Patch.Frame
import Minigame.Proofs.Patch.Repetition

/-!
Operations that work apart from each other.

They may change places, so none of them undoes what another one did. After a patch of such operations
each of them changes nothing any more.
-/

namespace Minigame

namespace Json

/-- What is entered once is entered again as it is. -/
theorem entered_entered (create : Bool) (value : Json) :
    entered create (entered create value) = entered create value := by
  by_cases opened : create = true ∧ value = .null
  · simp [entered, opened]
  · simp only [entered, if_neg opened]

/-- A walk that makes what is missing enters no null. -/
theorem entered_ne_null (value : Json) : entered true value ≠ .null := by
  by_cases null : value = .null <;> simp [entered, null]

end Json

namespace Operation

/-- An operation that adds an ordered value at a path of names. -/
structure Plain (operation : Operation) : Prop where
  unplaced : operation.Unplaced
  puts : operation.Puts
  ordered : ∀ value, operation.value? = some value → value.Ordered

/-- One step below an operation still adds its value at a path of names. -/
theorem Plain.below {enters : String → Bool} {operation lower : Operation}
    (plain : operation.Plain) (seen : lower ∈ operation.below? enters) : lower.Plain := by
  refine ⟨plain.unplaced.below seen, plain.puts.below seen, ?_⟩
  obtain ⟨segment, rest, _, _, rfl⟩ := below?_eq_some_iff.1 seen
  simpa using plain.ordered

/-- An operation that makes what is missing enters the place that it goes on below. -/
theorem onField_creates {operation : Operation} (creates : operation.creates = true)
    (deeper : operation.path.segments ≠ []) (place : Option Json) :
    operation.onField place = operation.onField (some (Json.entered true (place.getD .null))) := by
  obtain ⟨segment, rest, aimed⟩ := List.exists_cons_of_ne_nil deeper
  cases place with
  | none => simp [onField, aimed, creates, Json.entered]
  | some value => simp [onField, aimed, creates, Json.entered_entered]

/-- A plain operation leaves a sequence as it is. -/
theorem Plain.apply_arr {operation : Operation} (plain : operation.Plain) (items : List Json) :
    (operation.apply (.arr items)).value = .arr items := by
  cases aimed : operation.path.segments with
  | nil => rw [apply_root aimed]
  | cons segment rest =>
    rw [apply_arr_of_unnamed plain.puts aimed (plain.unplaced.names segment (by simp [aimed]))]

/-- A plain operation keeps a document ordered. -/
theorem Plain.apply_ordered {operation : Operation} (plain : operation.Plain) {doc : Json}
    (ordered : doc.Ordered) : (operation.apply doc).value.Ordered :=
  Json.editAt_ordered (fun leaf _ => Json.editLeaf_ordered plain.ordered leaf) _ ordered

/-- A value that is there already is not put again. -/
theorem apply_of_there {segments : List String} {value doc : Json} (ordered : doc.Ordered)
    (named : ∀ segment ∈ segments, Json.segmentIndex? segment = none)
    (there : doc.at? segments = some value) :
    ((Operation.add ⟨segments⟩ value).apply doc).value = doc := by
  -- By induction along the path: each part on the way is put back as it was found.
  induction segments generalizing doc with
  | nil => rw [apply_root rfl]
  | cons segment rest ih =>
    obtain ⟨inner, found, further⟩ := Option.bind_eq_some_iff.1 there
    cases doc with
    | obj fields =>
      obtain ⟨changed, same, sorted, here, beside⟩ := apply_obj (.add ⟨segment :: rest⟩ value) fields rfl
      rw [same]
      refine congrArg Json.obj ((sorted ordered.fields).ext ordered.fields fun name => ?_)
      by_cases hit : name = segment
      · subst hit
        -- Under this name either the value itself is put, or the operation goes on below.
        have place := congrArg Edited.value here
        rw [show Fields.get? name fields = some inner from found] at place ⊢
        cases rest with
        | nil => exact place.symm.trans (congrArg some (Option.some.inj further).symm)
        | cons next others =>
          have full : inner ≠ .null := by
            rintro rfl
            cases further
          rw [onField_some (by simp) full] at place
          have again := ih (ordered.field found) (fun other listed => named other (by simp_all)) further
          exact place.symm.trans (congrArg some again)
      · -- No other name is touched.
        exact beside name hit
    | arr items =>
      rw [Json.under?_arr_of_named (named segment (by simp))] at found
      cases found
    | _ => cases found

end Operation

namespace Patch

/-- Operations that go on below a name and make what is missing work on what they enter there. -/
theorem runPlace_entered {operation : Operation} {rest : Patch}
    (creates : ∀ other ∈ operation :: rest, other.creates = true)
    (deeper : ∀ other ∈ operation :: rest, other.path.segments ≠ []) (place : Option Json) :
    runPlace Operation.onField (operation :: rest) place =
      some (run (operation :: rest) (Json.entered true (place.getD .null))) := by
  -- The first of them enters the place, and what it leaves there is not null either.
  have entered : runPlace Operation.onField (operation :: rest) place =
      runPlace Operation.onField (operation :: rest) (some (Json.entered true (place.getD .null))) := by
    rw [runPlace_cons, runPlace_cons, Operation.onField_creates (creates operation (by simp))
      (deeper operation (by simp))]
  rw [entered]
  exact (runPlace_some (· ≠ .null)
    (fun other listed value full => Operation.onField_some (deeper other listed) full)
    (fun other _ value full => other.apply_value_ne_null full) (Json.entered_ne_null _)).1

/-- Plain operations that work apart from each other may change places. -/
theorem run_comm {first second : Operation} (firstPlain : first.Plain) (secondPlain : second.Plain)
    (apart : first.Apart second.path.segments) {doc : Json} (ordered : doc.Ordered) :
    run [first, second] doc = run [second, first] doc := by
  -- By induction along the first path: below a name that both go on with, they still work apart.
  induction aimed : first.path.segments generalizing first second doc with
  | nil => exact absurd (by simp [aimed]) apart.1
  | cons segment rest ih =>
    cases doc with
    | obj fields =>
      obtain ⟨there, left, keeps, seen⟩ := run_obj [first, second] fields
      obtain ⟨back, right, keepsBack, seenBack⟩ := run_obj [second, first] fields
      rw [left, right]
      refine congrArg Json.obj ((keeps ordered.fields).ext (keepsBack ordered.fields) fun name => ?_)
      rw [seen, seenBack, below_cons, below_cons, below_cons, below_cons]
      cases inFirst : first.below? (· = name) with
      | none => simp [below]
      | some lower =>
        cases inSecond : second.below? (· = name) with
        | none => simp [below]
        | some other =>
          have lowerPlain := firstPlain.below inFirst
          have otherPlain := secondPlain.below inSecond
          obtain ⟨_, _, aimedFirst, hitFirst, rfl⟩ := Operation.below?_eq_some_iff.1 inFirst
          obtain ⟨_, others, aimedSecond, hitSecond, rfl⟩ := Operation.below?_eq_some_iff.1 inSecond
          obtain ⟨rfl, rfl⟩ := List.cons.inj (aimed.symm.trans aimedFirst)
          obtain rfl : segment = name := of_decide_eq_true hitFirst
          obtain rfl := (of_decide_eq_true hitSecond).symm
          -- Neither of them ends at the name, for it would be on the way of the other one.
          rw [Operation.Apart, aimed, aimedSecond, List.prefix_cons_inj, List.prefix_cons_inj] at apart
          have deeper : ∀ operation ∈ [first.withPath ⟨rest⟩, second.withPath ⟨others⟩],
              operation.path.segments ≠ [] := by
            simp only [List.forall_mem_cons, Operation.path_withPath]
            exact ⟨by rintro rfl; simp at apart, by rintro rfl; simp at apart, by simp⟩
          have creates : ∀ operation ∈ [first.withPath ⟨rest⟩, second.withPath ⟨others⟩],
              operation.creates = true := by
            simp only [List.forall_mem_cons]
            exact ⟨lowerPlain.unplaced.creates, otherPlain.unplaced.creates, by simp⟩
          have place : (Json.entered true ((Fields.get? segment fields).getD .null)).Ordered := by
            refine Json.Ordered.entered ?_ true
            cases found : Fields.get? segment fields with
            | none => exact .null
            | some value => exact ordered.field found
          have swapped := ih lowerPlain otherPlain (by simpa [Operation.Apart] using apart) place
            (by simp)
          simp only [below, List.filterMap_nil, List.append_nil, Option.toList_some,
            List.singleton_append]
          rw [runPlace_entered creates deeper, runPlace_entered (by simpa [and_comm] using creates)
            (by simpa [and_comm] using deeper), swapped]
    | arr items =>
      simp only [run_cons, run_nil, firstPlain.apply_arr, secondPlain.apply_arr]
    | _ => simp [run_of_scalar]

/-- An operation works apart from all operations of a patch but itself. -/
def ApartFrom (operation : Operation) (patch : Patch) : Prop :=
  ∀ other ∈ patch, other = operation ∨ operation.Apart other.path.segments

/-- What an operation has done already is not undone by operations that work apart from it. -/
theorem idle_run {operation : Operation} {rest : Patch} (plain : operation.Plain)
    (others : ∀ other ∈ rest, other.Plain) (apart : ApartFrom operation rest) {doc : Json}
    (ordered : doc.Ordered) (idle : (operation.apply doc).value = doc) :
    (operation.apply (run rest doc)).value = run rest doc := by
  induction rest generalizing doc with
  | nil => exact idle
  | cons other rest ih =>
    rw [List.forall_mem_cons] at others
    obtain ⟨here, later⟩ := List.forall_mem_cons.1 apart
    refine ih others.2 later (others.1.apply_ordered ordered) ?_
    rcases here with rfl | beside
    · change (other.apply (other.apply doc).value).value = (other.apply doc).value
      rw [idle, idle]
    · -- The operation may as well be done in front of the other one, where it changes nothing.
      have swapped := run_comm plain others.1 beside ordered
      simp only [run_cons, run_nil, idle] at swapped
      exact swapped.symm

/-- After plain operations that work apart from each other, each of them changes nothing any more. -/
theorem idle_of_apart {patch : Patch} (plain : ∀ operation ∈ patch, operation.Plain)
    (apart : ∀ operation ∈ patch, ApartFrom operation patch) {doc : Json}
    (ordered : doc.Ordered) :
    ∀ operation ∈ patch, (operation.apply (run patch doc)).value = run patch doc := by
  induction patch generalizing doc with
  | nil => simp
  | cons first rest ih =>
    rw [List.forall_mem_cons] at plain apart
    have sorted := plain.1.apply_ordered ordered
    refine List.forall_mem_cons.2 ⟨?_, ih plain.2 (fun other listed later there =>
      apart.2 other listed later (List.mem_cons_of_mem _ there)) sorted⟩
    -- The first operation changes nothing when it is done twice, and the others leave it at that.
    refine idle_run plain.1 plain.2 (fun other there => apart.1 other (List.mem_cons_of_mem _ there))
      sorted ?_
    have twice := settlesUpTo first.path.segments.length [first] doc (by simp [plain.1.puts])
      (by simp) ordered ⟨fun _ => plain.1.unplaced, trivial⟩
    simpa using twice

/-- A mapping stays one, if plain operations work neither there nor above. -/
theorem mapping_run {patch : Patch} {place : List String}
    (others : ∀ operation ∈ patch, ¬ operation.path.segments <+: place)
    (named : ∀ segment ∈ place, Json.segmentIndex? segment = none) {doc : Json}
    {fields : Fields Json} (there : doc.at? place = some (.obj fields)) :
    ∃ changed, (run patch doc).at? place = some (.obj changed) := by
  -- By induction along the way to the mapping, with the operations as they are seen there.
  induction place generalizing doc patch with
  | nil =>
    obtain rfl : doc = .obj fields := Option.some.inj there
    -- The operations end below the mapping, and a mapping stays one.
    obtain ⟨changed, same, -⟩ := run_obj patch fields
    exact ⟨changed, by rw [same, Json.at?_nil]⟩
  | cons segment rest ih =>
    obtain ⟨inner, found, further⟩ := Option.bind_eq_some_iff.1 there
    cases doc with
    | obj whole =>
      obtain ⟨changed, same, -, seen⟩ := run_obj patch whole
      -- An operation that is above the mapping from here would be above it from the root.
      have lower : ∀ operation ∈ patch.below (· = segment), ¬ operation.path.segments <+: rest := by
        intro operation listed above
        obtain ⟨upper, upperListed, lowered⟩ := List.mem_filterMap.1 listed
        obtain ⟨first, tail, aimed, hit, rfl⟩ := Operation.below?_eq_some_iff.1 lowered
        obtain rfl : first = segment := of_decide_eq_true hit
        rw [Operation.path_withPath] at above
        exact others upper upperListed (by rw [aimed]; exact (List.prefix_cons_inj _).2 above)
      have full : inner ≠ .null := by
        rintro rfl
        cases rest <;> cases further
      have left : runPlace Operation.onField (patch.below (· = segment)) (some inner) =
          some (run (patch.below (· = segment)) inner) :=
        (runPlace_some (· ≠ .null) (fun operation listed value full => Operation.onField_some
          (fun root => lower operation listed (by simp [root])) full)
          (fun operation _ value full => operation.apply_value_ne_null full) full).1
      have read : Fields.get? segment changed = some (run (patch.below (· = segment)) inner) := by
        rw [seen, show Fields.get? segment whole = some inner from found, left]
      rw [same, Json.at?_cons, Json.under?, read, Option.bind_some]
      exact ih lower (fun other listed => named other (List.mem_cons_of_mem _ listed)) further
    | arr items =>
      rw [Json.under?_arr_of_named (named segment (by simp))] at found
      cases found
    | _ => cases found

end Patch

end Minigame
