import Minigame.Patch.Apply

/-! A report tells exactly which operations stopped, and an operation that stops leaves no trace. -/

namespace Minigame

namespace Json

/-- An operation that stops at the last segment of its path has not touched the container. -/
theorem editLeaf_value_of_stop (operation : Operation) (leaf : String) {doc : Json}
    (stopped : (operation.editLeaf leaf doc).stop ≠ none) :
    (operation.editLeaf leaf doc).value = doc := by
  -- Every outcome with a reason hands its container back.
  cases operation <;> cases doc <;> simp only [Operation.editLeaf, setLeaf, removeLeaf] at * <;>
    grind

/-- The last segment of a path fits every mapping. -/
@[simp] theorem editLeaf_obj_stop (operation : Operation) (leaf : String)
    (fields : Fields Json) : (operation.editLeaf leaf (.obj fields)).stop = none := by
  cases operation <;> rfl

/-- An operation that makes the mappings on its way never stops inside one it made. -/
theorem editAt_obj_nil_stop (operation : Operation) (segment : String) (rest : List String) :
    (editAt true operation.editLeaf (segment :: rest) (.obj [])).stop = none := by
  -- Nothing is under any name of a new mapping, so the way goes on through new mappings.
  induction rest generalizing segment with
  | nil => simp [editAt]
  | cons next rest ih => simp [editAt, Fields.get?, ih next]

/-- An edit that stops has changed nothing, although it makes mappings while it walks. -/
theorem editAt_value_of_stop (operation : Operation) (create : Bool) (segments : List String)
    {doc : Json} (stopped : (editAt create operation.editLeaf segments doc).stop ≠ none) :
    (editAt create operation.editLeaf segments doc).value = doc := by
  -- A mapping that was made on the way is never where an edit stops: what stops lies in old parts.
  induction segments generalizing doc with
  | nil => rfl
  | cons segment rest ih =>
    cases rest with
    -- At the end of the path the last step decides.
    | nil => exact editLeaf_value_of_stop operation segment stopped
    | cons next rest =>
      cases doc with
      | obj fields =>
        simp only [editAt] at stopped ⊢
        split at stopped
        · -- Into what is there the edit goes on, and what it hands back is put in again.
          next value found =>
          -- A null that was opened to a mapping would not have stopped the edit.
          by_cases opened : create = true ∧ value = .null
          · simp [entered, opened, editAt_obj_nil_stop] at stopped
          · simp only [entered, if_neg opened, Edited.map_stop] at stopped
            simp [entered, opened, ih stopped, Fields.replace_eq_self found]
        · -- Without the name a mapping is made, and there nothing stops.
          next missing =>
          cases create with
          | true => simp [editAt_obj_nil_stop] at stopped
          | false => rfl
      | arr items =>
        simp only [editAt] at stopped ⊢
        split at stopped
        · next unreadable => rfl
        · next index readable =>
          split at stopped
          · -- The entry that the edit hands back is the one that was there.
            next value found =>
            obtain ⟨inside, rfl⟩ := List.getElem?_eq_some_iff.1 found
            rw [Edited.map_value, ih stopped, List.set_getElem_self]
          · next missing => rfl
      -- Other values hold nothing to go into.
      | null => rfl
      | bool value => rfl
      | num value => rfl
      | str value => rfl

end Json

/-- An operation that stops leaves the document as it was. -/
theorem Operation.apply_value_of_stop {operation : Operation} {doc : Json}
    (stopped : (operation.apply doc).stop ≠ none) : (operation.apply doc).value = doc :=
  Json.editAt_value_of_stop operation operation.creates operation.path.segments stopped

namespace Patch

/-- What the operations of a patch leave behind, applied one after the other. -/
def run (patch : Patch) (doc : Json) : Json :=
  patch.foldl (fun left operation => (operation.apply left).value) doc

@[simp] theorem run_nil (doc : Json) : run [] doc = doc := rfl

@[simp] theorem run_cons (operation : Operation) (rest : Patch) (doc : Json) :
    run (operation :: rest) doc = run rest (operation.apply doc).value := rfl

theorem run_append (first second : Patch) (doc : Json) :
    run (first ++ second) doc = run second (run first doc) :=
  List.foldl_append

/-- The reported document is what the operations leave behind. -/
@[simp] theorem applyFrom_fst (index : Nat) (patch : Patch) (doc : Json) :
    (applyFrom index patch doc).1 = run patch doc := by
  -- The report is put together beside the document and has no part in it.
  induction patch generalizing index doc with
  | nil => rfl
  | cons operation rest ih =>
    rw [run_cons, ← ih (index + 1), applyFrom]
    cases (operation.apply doc).stop <;> rfl

/-- Applying a patch runs its operations on the mapping the document stands for. -/
theorem apply_eq_run (patch : Patch) (doc : Json) : patch.apply doc = run patch (base doc) :=
  applyFrom_fst 0 patch (base doc)

/-- The entries of a report in front of the later ones: one for an operation that stopped. -/
theorem applyFrom_cons_skipped (index : Nat) (operation : Operation) (rest : Patch) (doc : Json) :
    (applyFrom index (operation :: rest) doc).2.skipped =
      ((operation.apply doc).stop.map fun reason =>
        (⟨index, operation.path.text, reason⟩ : Skipped)).toList ++
      (applyFrom (index + 1) rest (operation.apply doc).value).2.skipped := by
  rw [applyFrom]
  cases (operation.apply doc).stop <;> rfl

/-- An operation that does not stop counts as applied. -/
theorem applyFrom_cons_applied (index : Nat) (operation : Operation) (rest : Patch) (doc : Json) :
    (applyFrom index (operation :: rest) doc).2.applied =
      (applyFrom (index + 1) rest (operation.apply doc).value).2.applied +
      if (operation.apply doc).stop = none then 1 else 0 := by
  rw [applyFrom]
  cases (operation.apply doc).stop <;> rfl

/-- Each operation is either applied or skipped. -/
theorem applied_add_skipped (index : Nat) (patch : Patch) (doc : Json) :
    (applyFrom index patch doc).2.applied + (applyFrom index patch doc).2.skipped.length =
      patch.length := by
  induction patch generalizing index doc with
  | nil => rfl
  | cons operation rest ih =>
    have later := ih (index + 1) (operation.apply doc).value
    rw [applyFrom_cons_applied, applyFrom_cons_skipped, List.length_append, List.length_cons]
    -- It counts once: as applied or as an entry.
    cases (operation.apply doc).stop <;> simp <;> omega

/--
The entries of a report are exactly the operations that stopped.

Each is told by its place, the text of its path and why it stopped on the document before it.
-/
theorem mem_skipped_iff {index : Nat} {patch : Patch} {doc : Json} {skip : Skipped} :
    skip ∈ (applyFrom index patch doc).2.skipped ↔
      ∃ place operation, patch[place]? = some operation ∧ skip.index = index + place ∧
        skip.path = operation.path.text ∧
        (operation.apply (run (patch.take place) doc)).stop = some skip.reason := by
  -- The first operation gives the entry at the first place, and the others are one place later.
  induction patch generalizing index doc with
  | nil => simp [applyFrom]
  | cons first rest ih =>
    rw [applyFrom_cons_skipped, List.mem_append, ih]
    constructor
    · rintro (here | ⟨place, operation, found, counted, path, stopped⟩)
      · -- The entry in front is the one of the first operation.
        rw [Option.mem_toList, Option.map_eq_some_iff] at here
        obtain ⟨reason, stopped, rfl⟩ := here
        exact ⟨0, first, rfl, rfl, rfl, stopped⟩
      · exact ⟨place + 1, operation, found, by omega, path, stopped⟩
    · -- The operation that the entry tells of is the first one or one of the others.
      rintro ⟨place, operation, found, counted, path, stopped⟩
      cases place with
      | zero =>
        obtain rfl : first = operation := by simpa using found
        refine .inl ?_
        rw [Option.mem_toList, Option.map_eq_some_iff]
        exact ⟨skip.reason, stopped, by cases skip; simp_all⟩
      | succ place =>
        exact .inr ⟨place, operation, found, by omega, path, stopped⟩

/-- Entries lie at places counted from the first index and behind no later entry. -/
theorem skipped_ascending (index : Nat) (patch : Patch) (doc : Json) :
    ((applyFrom index patch doc).2.skipped.map (·.index)).Pairwise (· < ·) := by
  induction patch generalizing index doc with
  | nil => simp [applyFrom]
  | cons operation rest ih =>
    rw [applyFrom_cons_skipped, List.map_append]
    refine List.pairwise_append.2 ⟨?_, ih (index + 1) _, ?_⟩
    · -- One operation gives one entry at most.
      cases (operation.apply doc).stop <;> simp
    · -- Later entries come from operations behind this one.
      intro first there second later
      obtain ⟨skip, listed, rfl⟩ := List.mem_map.1 later
      obtain ⟨place, _, _, counted, _, _⟩ := mem_skipped_iff.1 listed
      have same : first = index := by
        cases stop : (operation.apply doc).stop <;> simp_all
      omega

/-- The operations at the places, counted from an index, that a report does not list as skipped. -/
def unskippedFrom (index : Nat) (patch : Patch) (report : Report) : Patch :=
  ((patch.zipIdx index).filter fun (_, place) =>
    report.skipped.all fun skip => skip.index ≠ place).map (·.1)

/-- The operations of a patch that a report does not list as skipped. -/
def unskipped (patch : Patch) (report : Report) : Patch :=
  patch.unskippedFrom 0 report

/-- The first operation is kept if it did not stop, and the later report decides about the others. -/
theorem unskippedFrom_cons (index : Nat) (operation : Operation) (rest : Patch) (doc : Json) :
    unskippedFrom index (operation :: rest) (applyFrom index (operation :: rest) doc).2 =
      (if (operation.apply doc).stop = none then [operation] else []) ++
      unskippedFrom (index + 1) rest
        (applyFrom (index + 1) rest (operation.apply doc).value).2 := by
  -- An entry of the later report never names the first place, nor the first entry a later place.
  have later : ∀ skip ∈ (applyFrom (index + 1) rest (operation.apply doc).value).2.skipped,
      skip.index ≠ index := fun skip listed => by
    obtain ⟨place, _, _, counted, _, _⟩ := mem_skipped_iff.1 listed
    omega
  have behind : ∀ entry ∈ rest.zipIdx (index + 1), index ≠ entry.2 := fun entry listed => by
    have := List.le_snd_of_mem_zipIdx listed
    omega
  simp only [unskippedFrom, List.zipIdx_cons, applyFrom_cons_skipped]
  cases outcome : (operation.apply doc).stop with
  | none =>
    -- The operation that did not stop stands at a place that no entry names.
    rw [List.filter_cons_of_pos (by simpa using later)]
    simp
  | some reason =>
    -- The operation that stopped stands at the place of its own entry.
    rw [List.filter_cons_of_neg (by simp)]
    simp only [Option.map_some, Option.toList_some, List.cons_append, List.nil_append,
      List.all_cons, reduceCtorEq, if_false]
    refine congrArg (List.map Prod.fst) (List.filter_congr fun entry listed => ?_)
    simp [behind entry listed]

/-- The operations that were not skipped give the same document again, and nothing is skipped. -/
theorem applyFrom_unskippedFrom (first index : Nat) (patch : Patch) (doc : Json) :
    applyFrom first (unskippedFrom index patch (applyFrom index patch doc).2) doc =
      (run patch doc, ⟨(unskippedFrom index patch (applyFrom index patch doc).2).length, []⟩) := by
  -- A skipped operation left its document as it was, so the others meet the same documents.
  induction patch generalizing first index doc with
  | nil => rfl
  | cons operation rest ih =>
    rw [unskippedFrom_cons]
    cases outcome : (operation.apply doc).stop with
    -- An operation that is kept leaves what it left before.
    | none =>
      have later := ih (first + 1) (index + 1) (operation.apply doc).value
      simp only [if_true, List.cons_append, List.nil_append, applyFrom, outcome, later, run_cons,
        List.length_cons]
    | some reason =>
      have untouched : (operation.apply doc).value = doc :=
        Operation.apply_value_of_stop (by simp [outcome])
      simp only [run_cons, untouched, reduceCtorEq, if_false, List.nil_append]
      exact ih first (index + 1) doc

/--
Skipped operations leave no trace.

Without them a patch gives the same document and skips nothing. Applied and skipped operations
together are all operations, and the entries of the report ascend and tell exactly which operations
stopped, and why, on what the operations before them left behind.
-/
theorem applyWithReport_unskipped (patch : Patch) (doc : Json) :
    let result := (patch.applyWithReport doc).1
    let report := (patch.applyWithReport doc).2
    let kept := patch.unskipped report
    kept.applyWithReport doc = (result, ⟨kept.length, []⟩) ∧
    report.applied + report.skipped.length = patch.length ∧
    (report.skipped.map (·.index)).Pairwise (· < ·) ∧
    (∀ skip ∈ report.skipped, skip.index < patch.length) ∧
    ∀ skip, skip ∈ report.skipped ↔ ∃ operation, patch[skip.index]? = some operation ∧
      skip.path = operation.path.text ∧
      (operation.apply (Patch.apply (patch.take skip.index) doc)).stop = some skip.reason := by
  have told : ∀ skip, skip ∈ (patch.applyWithReport doc).2.skipped ↔
      ∃ operation, patch[skip.index]? = some operation ∧ skip.path = operation.path.text ∧
        (operation.apply (Patch.apply (patch.take skip.index) doc)).stop = some skip.reason := by
    intro skip
    rw [applyWithReport, mem_skipped_iff, apply_eq_run]
    constructor
    · -- Counted from zero, the index of an entry is its place.
      rintro ⟨place, operation, found, counted, stopped⟩
      obtain rfl : skip.index = place := by omega
      exact ⟨operation, found, stopped⟩
    · rintro ⟨operation, found, stopped⟩
      exact ⟨skip.index, operation, found, by omega, stopped⟩
  refine ⟨?_, applied_add_skipped 0 patch _, skipped_ascending 0 patch _, ?_, told⟩
  · -- The kept operations start from the same mapping.
    have again := applyFrom_unskippedFrom 0 0 patch (base doc)
    rw [← applyFrom_fst 0 patch (base doc)] at again
    exact again
  · intro skip listed
    -- An entry tells of an operation of the patch.
    obtain ⟨operation, found, _⟩ := (told skip).1 listed
    exact (List.getElem?_eq_some_iff.1 found).1

end Patch

end Minigame
