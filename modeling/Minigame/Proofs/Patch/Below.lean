import Minigame.Proofs.Json.Address
import Minigame.Proofs.Patch.Order

/-!
Operations as they are seen one step below a mapping or a sequence.

An operation works in one place of its container, and what it makes of the place depends on that
place alone. So what a patch leaves in a place is left by its operations below the place.
-/

namespace Minigame

namespace Operation

/-- An operation of the same kind and value at another path. -/
def withPath (path : Path) : Operation → Operation
  | .add _ value => .add path value
  | .replace _ value => .replace path value
  | .remove _ => .remove path

section

variable (path : Path) (operation : Operation)

@[simp] theorem path_withPath : (operation.withPath path).path = path := by
  cases operation <;> rfl

@[simp] theorem value?_withPath : (operation.withPath path).value? = operation.value? := by
  cases operation <;> rfl

@[simp] theorem creates_withPath : (operation.withPath path).creates = operation.creates := by
  cases operation <;> rfl

@[simp] theorem editLeaf_withPath : (operation.withPath path).editLeaf = operation.editLeaf := by
  cases operation <;> rfl

end

/-- An operation as it is seen one step below, if its first segment leads there. -/
def below? (enters : String → Bool) (operation : Operation) : Option Operation :=
  match operation.path.segments with
  | [] => none
  | segment :: rest => if enters segment then some (operation.withPath ⟨rest⟩) else none

/-- An operation is seen below if its first segment leads there, with its path from there on. -/
theorem below?_eq_some_iff {enters : String → Bool} {operation lower : Operation} :
    operation.below? enters = some lower ↔ ∃ segment rest,
      operation.path.segments = segment :: rest ∧ enters segment = true ∧
      lower = operation.withPath ⟨rest⟩ := by
  unfold below?
  split
  · next root => simp [root]
  · next segment rest aimed =>
    constructor
    · -- Whatever is seen leads there with its first segment.
      intro seen
      split at seen
      · next inside => exact ⟨segment, rest, aimed, inside, (Option.some.inj seen).symm⟩
      · cases seen
    · -- A path has one first segment, and this one leads there.
      rintro ⟨first, others, same, inside, rfl⟩
      obtain ⟨rfl, rfl⟩ := List.cons.inj (aimed.symm.trans same)
      rw [if_pos inside]

/--
What an operation makes of the place under a name of a mapping, its path counted from there.

With no segment left it is the place itself that gets the value of the operation, or none.
-/
def onField (operation : Operation) (place : Option Json) : Edited (Option Json) :=
  match operation.path.segments, place with
  | [], _ => ⟨operation.value?, none⟩
  -- A walk goes into what is there, which becomes a mapping if the operation makes what is missing.
  | _ :: _, some value => (operation.apply (Json.entered operation.creates value)).map some
  | _ :: _, none =>
    if operation.creates then (operation.apply (.obj [])).map some
    else ⟨none, some .missingParent⟩

/--
What an operation with a value makes of an entry of a sequence, its path counted from there.

Nothing at all stands for the place behind the last entry.
-/
def onItem (operation : Operation) (place : Option Json) : Edited (Option Json) :=
  match operation.path.segments, place with
  -- Nothing is made under a missing entry, so a walk ends there.
  | [], some _ => ⟨operation.value?, none⟩
  | _ :: _, some value => (operation.apply value).map some
  | [], none =>
    if operation.creates then ⟨operation.value?, none⟩ else ⟨none, some .indexOutOfRange⟩
  | _ :: _, none => ⟨none, some .indexOutOfRange⟩

/-- The last step of an operation in a mapping puts its value under the name, or takes it out. -/
theorem editLeaf_obj (operation : Operation) (leaf : String) (fields : Fields Json) :
    ∃ changed, operation.editLeaf leaf (.obj fields) = ⟨.obj changed, none⟩ ∧
      (Fields.Ordered fields → Fields.Ordered changed) ∧
      Fields.get? leaf changed = operation.value? ∧
      ∀ name, name ≠ leaf → Fields.get? name changed = Fields.get? name fields := by
  -- A value is put under the name by add and replace alike, and remove reads as nothing there.
  cases outcome : operation.value? with
  | some value =>
    -- Add and replace write alike in a mapping.
    rw [editLeaf_of_value? outcome]
    exact ⟨Fields.set leaf value fields, rfl, fun ordered => ordered.set leaf value,
      Fields.get?_set_self leaf value fields, fun name different =>
        Fields.get?_set_ne different value fields⟩
  | none =>
    -- Only the field itself is taken out.
    rw [editLeaf_of_value?_eq_none outcome]
    exact ⟨Fields.erase leaf fields, rfl, fun ordered => ordered.erase leaf,
      Fields.get?_erase_self leaf fields, fun name different =>
        Fields.get?_erase_ne different fields⟩

/--
An operation changes a mapping under its first segment alone.

What it makes of the place there depends on that place alone, and so does whether it stops.
-/
theorem apply_obj (operation : Operation) (fields : Fields Json) {segment : String}
    {rest : List String} (aimed : operation.path.segments = segment :: rest) :
    ∃ changed, (operation.apply (.obj fields)).value = .obj changed ∧
      (Fields.Ordered fields → Fields.Ordered changed) ∧
      ((operation.withPath ⟨rest⟩).onField (Fields.get? segment fields)) =
        ⟨Fields.get? segment changed, (operation.apply (.obj fields)).stop⟩ ∧
      ∀ name, name ≠ segment → Fields.get? name changed = Fields.get? name fields := by
  cases rest with
  | nil =>
    -- The last step writes the place whatever it held.
    obtain ⟨changed, done, ordered, here, beside⟩ := editLeaf_obj operation segment fields
    refine ⟨changed, ?_, ordered, ?_, beside⟩
    · simp [apply, aimed, Json.editAt, done]
    · simp [onField, apply, aimed, Json.editAt, done, here]
  | cons next rest =>
    cases found : Fields.get? segment fields with
    | some value =>
      -- A walk puts the part it went into back in its place.
      let inner := Json.editAt operation.creates operation.editLeaf (next :: rest)
        (Json.entered operation.creates value)
      refine ⟨Fields.replace segment inner.value fields, ?_, fun ordered => ordered.replace _ _, ?_,
        fun name different => Fields.get?_replace_ne different _ fields⟩
      · simp [apply, aimed, Json.editAt, found, inner]
      · rw [Fields.get?_replace_self found]
        simp [onField, apply, aimed, Json.editAt, found, inner, Edited.map]
    | none =>
      by_cases creates : operation.creates = true
      · -- A walk that makes what is missing adds the name, even if it stops farther on.
        let inner := Json.editAt true operation.editLeaf (next :: rest) (.obj [])
        refine ⟨Fields.set segment inner.value fields, ?_, fun ordered => ordered.set _ _, ?_,
          fun name different => Fields.get?_set_ne different _ fields⟩
        · simp [apply, aimed, Json.editAt, found, creates, inner]
        · rw [Fields.get?_set_self]
          simp [onField, apply, aimed, Json.editAt, found, creates, inner, Edited.map]
      · -- Nothing is changed by a walk that ends at a missing name.
        refine ⟨fields, ?_, id, ?_, fun _ _ => rfl⟩
        · simp [apply, aimed, Json.editAt, found, creates]
        · simp [onField, apply, aimed, Json.editAt, found, creates]

/-- An operation that puts a value at a path without a dash. -/
structure Puts (operation : Operation) : Prop where
  value : operation.value?.isSome
  dashless : "-" ∉ operation.path.segments

/-- One step below an operation still puts its value at a path without a dash. -/
theorem Puts.below {enters : String → Bool} {operation lower : Operation} (puts : operation.Puts)
    (seen : lower ∈ operation.below? enters) : lower.Puts := by
  -- Value and path are the same but for the first segment.
  obtain ⟨segment, rest, aimed, _, rfl⟩ := below?_eq_some_iff.1 seen
  exact ⟨by simpa using puts.value, fun there => puts.dashless (by simp_all)⟩

/-- The place of a sequence that the first segment of an operation names. -/
def place? (operation : Operation) : Option Nat :=
  operation.path.segments.head?.bind Json.segmentIndex?

section

variable {operation : Operation} (puts : operation.Puts) {segment : String} {rest : List String}
  (aimed : operation.path.segments = segment :: rest)
include puts aimed

/-- An operation whose first segment names no place of a sequence leaves the sequence as it is. -/
theorem apply_arr_of_unnamed (unnamed : Json.segmentIndex? segment = none) (items : List Json) :
    operation.apply (.arr items) = ⟨.arr items, some .invalidIndex⟩ := by
  obtain ⟨value, same⟩ := Option.isSome_iff_exists.1 puts.value
  -- A dash is no place, and the path has none.
  have plain : segment ≠ "-" := fun dash => puts.dashless (by simp [aimed, dash])
  rw [apply, aimed]
  cases rest with
  -- The last step needs a place, and so does a walk.
  | nil => simp [Json.editAt, editLeaf_of_value? same, Json.setLeaf, plain, unnamed]
  | cons next rest => simp [Json.editAt, unnamed]

/--
An operation changes a sequence at the place its first segment names alone.

The place lies in the sequence, or the operation does not stop and puts its value behind the last
entry.
-/
theorem apply_arr {index : Nat} (named : Json.segmentIndex? segment = some index)
    {items : List Json}
    (fits : index < items.length ∨ (operation.apply (.arr items)).stop = none) :
    ∃ changed, (operation.apply (.arr items)).value = .arr changed ∧
      changed.length = max items.length (index + 1) ∧
      ((operation.withPath ⟨rest⟩).onItem items[index]?) =
        ⟨changed[index]?, (operation.apply (.arr items)).stop⟩ ∧
      ∀ place, place ≠ index → changed[place]? = items[place]? := by
  obtain ⟨value, same⟩ := Option.isSome_iff_exists.1 puts.value
  have plain : segment ≠ "-" := fun dash => puts.dashless (by simp [aimed, dash])
  cases found : items[index]? with
  | some old =>
    obtain ⟨inside, rfl⟩ := List.getElem?_eq_some_iff.1 found
    -- A place in the sequence is exchanged, by the value itself or by what the walk made there.
    cases rest with
    | nil =>
      refine ⟨items.set index value, ?_, by simp; omega, ?_,
        fun place different => List.getElem?_set_ne (Ne.symm different)⟩
      · simp [apply, aimed, Json.editAt, editLeaf_of_value? same, Json.setLeaf, plain, named, inside]
      · simp [onItem, apply, aimed, Json.editAt, editLeaf_of_value? same, Json.setLeaf, plain,
          named, inside, same]
    | cons next rest =>
      let inner := Json.editAt operation.creates operation.editLeaf (next :: rest) items[index]
      refine ⟨items.set index inner.value, ?_, by simp; omega, ?_,
        fun place different => List.getElem?_set_ne (Ne.symm different)⟩
      · simp [apply, aimed, Json.editAt, named, inside, inner]
      · simp [onItem, apply, aimed, Json.editAt, named, inside, inner, Edited.map]
  | none =>
    -- Beyond the sequence the operation goes through, as it does not stop.
    have outside : items.length ≤ index := List.getElem?_eq_none_iff.1 found
    have finished := fits.resolve_left (by omega)
    cases rest with
    | nil =>
      -- Only an operation that makes what is missing is content with the place behind the last.
      simp only [apply, aimed, Json.editAt, editLeaf_of_value? same, Json.setLeaf, plain, named,
        if_false, if_neg (Nat.not_lt.2 outside)] at finished ⊢
      split at finished
      · next last =>
        obtain ⟨rfl, creates⟩ := last
        refine ⟨items ++ [value], by simp [creates], by simp, ?_, fun place different => ?_⟩
        · simp [onItem, creates, same]
        · -- In front of the new entry nothing moves, and there is nothing behind it.
          rcases Nat.lt_or_gt_of_ne different with inside | beyond
          · rw [List.getElem?_append_left inside]
          · rw [List.getElem?_eq_none (by simp; omega), List.getElem?_eq_none (by omega)]
      · cases finished
    -- A walk has nothing to go into behind the last entry.
    | cons next rest => simp [apply, aimed, Json.editAt, named, found] at finished

end

/-- An operation at the root of a document stops at once. -/
theorem apply_root {operation : Operation} (aimed : operation.path.segments = []) (doc : Json) :
    operation.apply doc = ⟨doc, some .rootPath⟩ := by
  rw [apply, aimed, Json.editAt]

end Operation

namespace Patch

/-- A patch starts from a mapping with the fields of the document, if it has any. -/
theorem base_eq_obj (doc : Json) :
    ∃ fields, base doc = .obj fields ∧ ∀ name, Fields.get? name fields = doc.field? name := by
  -- What is not a mapping gives way to one without fields, and it had none.
  cases doc with
  | obj fields => exact ⟨fields, rfl, fun name => rfl⟩
  | _ => exact ⟨[], rfl, fun name => rfl⟩

/-- The operations of a patch as they are seen one step below. -/
def below (enters : String → Bool) (patch : Patch) : Patch :=
  patch.filterMap (Operation.below? enters)

section

variable (step : Operation → Option Json → Edited (Option Json))

/-- What the operations of a patch leave in a place, one after the other. -/
def runPlace (patch : Patch) (place : Option Json) : Option Json :=
  patch.foldl (fun left operation => (step operation left).value) place

@[simp] theorem runPlace_cons (operation : Operation) (rest : Patch) (place : Option Json) :
    runPlace step (operation :: rest) place = runPlace step rest (step operation place).value :=
  rfl

end

section

variable {σ : Type} (step : Operation → σ → Edited σ) (allowed : Operation → Prop)

/-- Every operation of a patch that stops on the way is one of those that are allowed to. -/
def StopsOnly : Patch → σ → Prop
  | [], _ => True
  | operation :: rest, start =>
    ((step operation start).stop ≠ none → allowed operation) ∧
      StopsOnly rest (step operation start).value

end

section

variable (step : Operation → Option Json → Edited (Option Json))

/--
What became of a place, told by the operation that is seen there.

The operation makes the same of the place alone and stops for the same reason; without one the place
stays as it is.
-/
def Tells (seen : Option Operation) (place after : Option Json) (stop : Option SkipReason) : Prop :=
  match seen with
  | some operation => step operation place = ⟨after, stop⟩
  | none => after = place

variable {step} {seen : Option Operation} {place after : Option Json} {stop : Option SkipReason}

/-- The operation seen in a place leaves there what the later ones start from. -/
theorem Tells.runPlace (tells : Tells step seen place after stop) (rest : Patch) :
    runPlace step (seen.toList ++ rest) place = runPlace step rest after := by
  cases seen with
  | none => exact congrArg _ (Eq.symm tells)
  | some operation => exact congrArg (fun edited => Patch.runPlace step rest edited.value) tells

/-- An operation that stops is seen to stop, and the later ones start from what it left. -/
theorem Tells.stopsOnly {allowed : Operation → Prop} (tells : Tells step seen place after stop)
    {rest : Patch} (here : ∀ operation ∈ seen, stop ≠ none → allowed operation)
    (later : rest.StopsOnly step allowed after) :
    Patch.StopsOnly step allowed (seen.toList ++ rest) place := by
  cases seen with
  | none => exact (show after = place from tells) ▸ later
  -- The operation is the one that stops, and what it leaves is where the others start.
  | some operation =>
    have made : step operation place = ⟨after, stop⟩ := tells
    refine ⟨fun stopped => here operation rfl ?_, ?_⟩
    · rwa [made] at stopped
    · rwa [made]

end

/-- The first operation of a patch is seen below if its first segment leads there. -/
theorem below_cons (enters : String → Bool) (operation : Operation) (rest : Patch) :
    below enters (operation :: rest) = (operation.below? enters).toList ++ below enters rest := by
  rw [below, List.filterMap_cons]
  cases operation.below? enters <;> rfl

/-- One operation on a mapping, seen under every name. -/
theorem seen_obj (operation : Operation) (fields : Fields Json) :
    ∃ changed, (operation.apply (.obj fields)).value = .obj changed ∧
      (Fields.Ordered fields → Fields.Ordered changed) ∧
      ∀ name, Tells Operation.onField (operation.below? (· = name)) (Fields.get? name fields)
        (Fields.get? name changed) (operation.apply (.obj fields)).stop := by
  -- The place under the first segment is told by `apply_obj`, and the others stay as they are.
  cases aimed : operation.path.segments with
  -- An operation at the root is seen under no name.
  | nil =>
    exact ⟨fields, by rw [Operation.apply_root aimed], id, fun name => by
      simp [Operation.below?, aimed, Tells]⟩
  | cons segment rest =>
    obtain ⟨changed, same, ordered, here, beside⟩ := Operation.apply_obj operation fields aimed
    refine ⟨changed, same, ordered, fun name => ?_⟩
    -- Under its own name the operation is seen, and under the others nothing happens.
    by_cases hit : segment = name
    · subst hit
      simpa [Operation.below?, aimed, Tells] using here
    · simpa [Operation.below?, aimed, hit, Tells] using beside name (Ne.symm hit)

/--
A patch on a mapping, seen under every name.

The place under a name is left by the operations below the name, applied to that place alone.
-/
theorem run_obj (patch : Patch) (fields : Fields Json) :
    ∃ changed, run patch (.obj fields) = .obj changed ∧
      (Fields.Ordered fields → Fields.Ordered changed) ∧
      ∀ name, Fields.get? name changed =
        runPlace Operation.onField (patch.below (· = name)) (Fields.get? name fields) := by
  -- The rest of the patch goes on from the mapping that the first operation left.
  induction patch generalizing fields with
  | nil => exact ⟨fields, rfl, id, fun name => rfl⟩
  | cons operation rest ih =>
    obtain ⟨middle, first, keeps, tells⟩ := seen_obj operation fields
    obtain ⟨changed, last, keepsLast, seen⟩ := ih middle
    refine ⟨changed, by rw [run_cons, first, last], keepsLast ∘ keeps, fun name => ?_⟩
    rw [below_cons, (tells name).runPlace, seen]

/-- The operations below a place of a sequence are those whose first segment names it. -/
def belowItem (index : Nat) (patch : Patch) : Patch :=
  patch.below fun segment => Json.segmentIndex? segment = some index

theorem belowItem_cons (index : Nat) (operation : Operation) (rest : Patch) :
    belowItem index (operation :: rest) =
      (operation.below? fun segment => Json.segmentIndex? segment = some index).toList ++
        belowItem index rest :=
  below_cons _ operation rest

/-- One operation on a sequence where it fits, seen in every place. -/
theorem seen_arr {operation : Operation} (puts : operation.Puts) {items : List Json}
    (fits : ∀ index, operation.place? = some index →
      index < items.length ∨ (operation.apply (.arr items)).stop = none) :
    ∃ changed, (operation.apply (.arr items)).value = .arr changed ∧
      items.length ≤ changed.length ∧
      (∀ index, operation.place? = some index → index < changed.length) ∧
      ∀ index, Tells Operation.onItem
        (operation.below? fun segment => Json.segmentIndex? segment = some index) items[index]?
        changed[index]? (operation.apply (.arr items)).stop := by
  -- Only a first segment that names a place leads into the sequence.
  cases aimed : operation.path.segments with
  | nil =>
    refine ⟨items, by rw [Operation.apply_root aimed], Nat.le_refl _, fun index named => ?_,
      fun index => ?_⟩
    · -- Without a first segment no place is named.
      simp [Operation.place?, aimed] at named
    · simp [Operation.below?, aimed, Tells]
  | cons segment rest =>
    have first : operation.place? = Json.segmentIndex? segment := by
      simp [Operation.place?, aimed]
    cases named : Json.segmentIndex? segment with
    -- A segment that is no index leads nowhere, and the sequence stays.
    | none =>
      refine ⟨items, by rw [Operation.apply_arr_of_unnamed puts aimed named], Nat.le_refl _,
        fun index there => ?_, fun index => ?_⟩
      · simp [first, named] at there
      · simp [Operation.below?, aimed, named, Tells]
    | some place =>
      obtain ⟨changed, same, longer, here, beside⟩ :=
        Operation.apply_arr puts aimed named (fits place (first.trans named))
      refine ⟨changed, same, by omega, fun index there => ?_, fun index => ?_⟩
      · -- The place named is in the longer sequence.
        obtain rfl : place = index := Option.some.inj ((first.trans named).symm.trans there)
        omega
      · -- What happens at the place is what the operation says, and the rest stays.
        by_cases hit : place = index
        · subst hit
          simpa [Operation.below?, aimed, named, Tells] using here
        · simpa [Operation.below?, aimed, named, hit, Tells] using beside index (Ne.symm hit)

end Patch

end Minigame
