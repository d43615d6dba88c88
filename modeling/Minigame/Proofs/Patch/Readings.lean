import Minigame.Proofs.Patch.Report
import Minigame.Proofs.Patch.Walk

/-! What is read from a document after an operation, at the text of every path. -/

namespace Minigame

namespace Json

/-- The segment a value put into a container is found under: a dash goes behind the last entry. -/
def landing (leaf : String) : Option Json → String
  | some (.arr items) => if leaf = "-" then items.length.repr else leaf
  | _ => leaf

/-- A value that is put into a container is read there, and the other parts stay. -/
theorem setLeaf_under? {create : Bool} {value : Json} {leaf : String} {container : Json}
    (finished : (setLeaf create value leaf container).stop = none)
    (short : ∀ items, container = .arr items → items.length < 2 ^ 64) :
    (setLeaf create value leaf container).value.under? (landing leaf (some container)) = some value ∧
    ∀ other, other ≠ landing leaf (some container) →
      (setLeaf create value leaf container).value.under? other = container.under? other := by
  cases container with
  | obj fields =>
    -- A mapping takes any name.
    exact ⟨Fields.get?_set_self leaf value fields, fun other different =>
      Fields.get?_set_ne different value fields⟩
  | arr items =>
    by_cases dash : leaf = "-"
    · -- The dash stands for the place behind the last entry, which its length names.
      cases create with
      | false => simp [setLeaf, dash] at finished
      | true =>
        have named := segmentIndex?_repr (short items rfl)
        simp only [setLeaf, landing, dash, if_true]
        exact ⟨under?_append_self named value, fun other different =>
          under?_append_ne named different value⟩
    · cases readable : segmentIndex? leaf with
      | none => simp [setLeaf, dash, readable] at finished
      | some index =>
        simp only [setLeaf, landing, dash, if_false, readable] at finished ⊢
        by_cases inside : index < items.length
        · simp only [if_pos inside]
          exact ⟨under?_set_self readable inside value, fun other different =>
            under?_set_ne readable different items value⟩
        · -- The place behind the last entry may also be named by its index.
          by_cases last : index = items.length ∧ create = true
          · simp only [if_neg inside, if_pos last]
            have named : segmentIndex? leaf = some items.length := last.1 ▸ readable
            exact ⟨under?_append_self named value, fun other different =>
              under?_append_ne named different value⟩
          · simp [inside, last] at finished
  -- Nothing can be put into any other value.
  | null => cases finished
  | bool value => cases finished
  | num value => cases finished
  | str value => cases finished

/-- What a walk makes on its way is no sequence. -/
theorem Entered.landing_eq {create : Bool} {found : Option Json} {container : Json}
    (met : Entered create found container) (leaf : String) :
    landing leaf found = landing leaf (some container) := by
  rcases met with rfl | ⟨_, rfl, rfl | rfl⟩ <;> rfl

/-- The segment under which an entry of a sequence stood before the one at an index was taken out. -/
def origin (index : Nat) (segment : String) : String :=
  match segmentIndex? segment with
  | some place => if place < index then segment else (place + 1).repr
  | none => segment

/-- Taking an entry out of a sequence moves the later entries down by one place. -/
theorem under?_eraseIdx {items : List Json} (short : items.length < 2 ^ 64) (index : Nat)
    (segment : String) :
    under? segment (.arr (items.eraseIdx index)) = under? (origin index segment) (.arr items) := by
  -- Only a segment that names a place is read in a sequence.
  cases named : segmentIndex? segment with
  | none => simp [under?, origin, named]
  | some place =>
    simp only [origin, named]
    by_cases earlier : place < index
    · rw [if_pos earlier, under?, named, Option.bind_some, under?, named, Option.bind_some,
        List.getElem?_eraseIdx_of_lt earlier]
    · rw [if_neg earlier, under?, named, Option.bind_some,
        List.getElem?_eraseIdx_of_ge (by omega)]
      -- The place behind the last one that can be named is behind the last entry, too.
      by_cases last : place + 1 < 2 ^ 64
      · rw [under?, segmentIndex?_repr last, Option.bind_some]
      · rw [under?, segmentIndex?_repr_of_le (by omega), Option.bind_none,
          List.getElem?_eq_none (by omega)]

/-- An edit that leaves its container as it is leaves the whole document as it is. -/
theorem editAt_eq_self {edit : String → Json → Edited Json} {parents : List String}
    {leaf : String} {doc : Json}
    (idle : ∀ container, doc.at? parents = some container → (edit leaf container).value = container) :
    (editAt false edit (parents ++ [leaf]) doc).value = doc := by
  -- Every part on the way is put back where it was found.
  induction parents generalizing doc with
  | nil => exact idle doc rfl
  | cons segment rest ih =>
    obtain ⟨next, others, more⟩ := List.exists_cons_of_ne_nil (show rest ++ [leaf] ≠ [] by simp)
    -- The way goes on below this segment, so each step is one into a container.
    rw [List.cons_append, more]
    cases doc with
    | obj fields =>
      cases found : Fields.get? segment fields with
      | none => simp [editAt, found]
      | some value =>
        have same := ih fun container read =>
          idle container (by rw [at?_cons, under?, found, Option.bind_some, read])
        rw [more] at same
        simp [editAt, found, entered, same, Fields.replace_eq_self found]
    | arr items =>
      cases readable : segmentIndex? segment with
      | none => simp [editAt, readable]
      | some index =>
        cases found : items[index]? with
        | none => simp [editAt, readable, found]
        | some value =>
          obtain ⟨inside, rfl⟩ := List.getElem?_eq_some_iff.1 found
          have same := ih fun container read => idle container (by
            rw [at?_cons, under?, readable, Option.bind_some, found, Option.bind_some, read])
          rw [more] at same
          simp only [editAt, readable, found, Edited.map_value, same, List.set_getElem_self]
    -- No step leads into any other value.
    | null => rfl
    | bool value => rfl
    | num value => rfl
    | str value => rfl

end Json

namespace Operation

variable {operation : Operation} {parents : List String} {leaf : String} {doc : Json}

/--
An operation that does not stop works on one container.

What is read in it afterwards is what the last step made of it, and beside it nothing changes.
-/
theorem apply_container (aimed : operation.path.segments = parents ++ [leaf])
    (finished : (operation.apply doc).stop = none) :
    ∃ container, Json.Entered operation.creates (doc.at? parents) container ∧
      (operation.editLeaf leaf container).stop = none ∧
      (∀ segments, (operation.apply doc).value.at? (parents ++ segments) =
        (operation.editLeaf leaf container).value.at? segments) ∧
      (∀ segments, segments ≠ [] → doc.at? (parents ++ segments) = container.at? segments) ∧
      ∀ other, ¬ parents <+: other → ¬ other <+: parents →
        (operation.apply doc).value.at? other = doc.at? other := by
  simp only [apply, aimed] at finished ⊢
  obtain ⟨container, met, done, read, kept⟩ := Json.editAt_walk finished
  refine ⟨container, met, done, fun segments => ?_, fun segments below => ?_, kept⟩
  · -- What is read below the container is read in what the last step left.
    rw [Json.at?_append, read, Option.bind_some]
  · rw [Json.at?_append, met.at?_eq below]

/-- A value that was put is read where it was put, and beside it nothing changes. -/
theorem at?_apply_put {value : Json} (puts : operation.value? = some value)
    (aimed : operation.path.segments = parents ++ [leaf])
    (finished : (operation.apply doc).stop = none)
    (short : ∀ items, doc.at? parents = some (.arr items) → items.length < 2 ^ 64) :
    let place := parents ++ [Json.landing leaf (doc.at? parents)]
    (operation.apply doc).value.at? place = some value ∧
    ∀ other, ¬ place <+: other → ¬ other <+: place →
      (operation.apply doc).value.at? other = doc.at? other := by
  -- The walk entered one container, and the last step put the value into it.
  obtain ⟨container, met, done, after, before, beside⟩ := apply_container aimed finished
  have shortHere : ∀ items, container = .arr items → items.length < 2 ^ 64 := by
    rintro items rfl
    exact short items (met.found_of_ne (by simp))
  rw [editLeaf_of_value? puts] at done after
  obtain ⟨read, others⟩ := Json.setLeaf_under? done shortHere
  rw [met.landing_eq leaf]
  refine ⟨?_, fun other notBelow notAbove => ?_⟩
  · rw [after, Json.at?_cons, read, Option.bind_some, Json.at?_nil]
  · -- A path beside the place lies in the container or beside that, too.
    by_cases inside : parents <+: other
    · -- A path into the container goes on with another segment than the one that was put.
      obtain ⟨tail, rfl⟩ := inside
      cases tail with
      | nil => exact absurd (by simp) notAbove
      | cons segment rest =>
        have different : segment ≠ Json.landing leaf (some container) := by
          rintro rfl
          exact notBelow (by simp)
        rw [after, before _ (by simp), Json.at?_cons, Json.at?_cons, others segment different]
    · exact beside other inside fun above =>
        notAbove (above.trans (List.prefix_append parents _))

/-- What a remove walks to is there. -/
theorem found_of_remove {container : Json} (removes : operation.value? = none)
    (met : Json.Entered operation.creates (doc.at? parents) container) :
    doc.at? parents = some container := by
  -- A remove makes nothing on its way.
  refine met.resolve_right fun made => ?_
  simp [creates_of_value?_eq_none removes] at made

/-- A remove that does not stop has found a mapping or a sequence. -/
theorem container_of_remove (removes : operation.value? = none)
    (aimed : operation.path.segments = parents ++ [leaf])
    (finished : (operation.apply doc).stop = none) :
    (∃ fields, doc.at? parents = some (.obj fields)) ∨
    ∃ items, doc.at? parents = some (.arr items) := by
  obtain ⟨container, met, done, _⟩ := apply_container aimed finished
  rw [found_of_remove removes met]
  rw [editLeaf_of_value?_eq_none removes] at done
  cases container <;> simp_all [Json.removeLeaf]

/-- A name that was taken out of a mapping has nothing below it, and beside it nothing changes. -/
theorem at?_apply_remove_field (removes : operation.value? = none)
    (aimed : operation.path.segments = parents ++ [leaf])
    (finished : (operation.apply doc).stop = none) {fields : Fields Json}
    (mapping : doc.at? parents = some (.obj fields)) :
    (∀ rest, (operation.apply doc).value.at? (parents ++ leaf :: rest) = none) ∧
    ∀ other, ¬ parents ++ [leaf] <+: other → ¬ other <+: parents ++ [leaf] →
      (operation.apply doc).value.at? other = doc.at? other := by
  obtain ⟨container, met, _, after, before, beside⟩ := apply_container aimed finished
  -- The container that the walk met is the mapping that was there.
  obtain rfl : container = .obj fields :=
    Option.some.inj ((found_of_remove removes met).symm.trans mapping)
  rw [editLeaf_of_value?_eq_none removes] at after
  have erased : ∀ segment rest, (operation.apply doc).value.at? (parents ++ segment :: rest) =
      (Fields.get? segment (Fields.erase leaf fields)).bind (Json.at? rest) :=
    fun segment rest => after (segment :: rest)
  refine ⟨fun rest => ?_, fun other notBelow notAbove => ?_⟩
  · rw [erased, Fields.get?_erase_self, Option.bind_none]
  · by_cases inside : parents <+: other
    · -- Another name of the mapping reads as before.
      obtain ⟨tail, rfl⟩ := inside
      cases tail with
      | nil => exact absurd (by simp) notAbove
      | cons segment rest =>
        -- It would lie below the name that was taken out.
        have different : segment ≠ leaf := by
          rintro rfl
          exact notBelow (by simp)
        rw [erased, before _ (by simp), Fields.get?_erase_ne different]
        rfl
    · exact beside other inside fun above =>
        notAbove (above.trans (List.prefix_append parents _))

/-- An entry that was taken out of a sequence moves the later ones down, and beside it nothing changes. -/
theorem at?_apply_remove_item (removes : operation.value? = none)
    (aimed : operation.path.segments = parents ++ [leaf])
    (finished : (operation.apply doc).stop = none) {items : List Json}
    (sequence : doc.at? parents = some (.arr items)) (short : items.length < 2 ^ 64)
    {index : Nat} (named : Json.segmentIndex? leaf = some index) :
    (∀ segment rest, (operation.apply doc).value.at? (parents ++ segment :: rest) =
      doc.at? (parents ++ Json.origin index segment :: rest)) ∧
    ∀ other, ¬ parents <+: other → ¬ other <+: parents →
      (operation.apply doc).value.at? other = doc.at? other := by
  obtain ⟨container, met, _, after, before, beside⟩ := apply_container aimed finished
  -- The container that the walk met is the sequence that was there.
  obtain rfl : container = .arr items :=
    Option.some.inj ((found_of_remove removes met).symm.trans sequence)
  rw [editLeaf_of_value?_eq_none removes] at after
  refine ⟨fun segment rest => ?_, beside⟩
  rw [after, before _ (by simp)]
  simp only [Json.removeLeaf, named]
  rw [Json.at?_cons, Json.at?_cons, Json.under?_eraseIdx short]

/-- Taking out of a sequence what is not there changes nothing. -/
theorem apply_remove_absent (removes : operation.value? = none)
    (aimed : operation.path.segments = parents ++ [leaf]) {items : List Json}
    (sequence : doc.at? parents = some (.arr items))
    (absent : ∀ index, Json.segmentIndex? leaf = some index → items.length ≤ index) :
    (operation.apply doc).value = doc := by
  -- The last step hands the sequence back as it is, and so does every step in front of it.
  rw [apply, aimed, creates_of_value?_eq_none removes, editLeaf_of_value?_eq_none removes]
  refine Json.editAt_eq_self fun container found => ?_
  obtain rfl : container = .arr items := Option.some.inj (found.symm.trans sequence)
  cases named : Json.segmentIndex? leaf with
  | none => simp [Json.removeLeaf, named]
  | some index =>
    simp only [Json.removeLeaf, named]
    rw [List.eraseIdx_of_length_le (absent index named)]

end Operation

/-- Applying a single operation that is not skipped is applying the operation. -/
theorem Patch.apply_singleton (operation : Operation) (fields : Fields Json) :
    Patch.apply [operation] (.obj fields) = (operation.apply (.obj fields)).value :=
  Patch.apply_eq_run [operation] (.obj fields)

/-- A single operation is reported as skipped exactly if it stops. -/
theorem Patch.isComplete_singleton (operation : Operation) (fields : Fields Json) :
    (Patch.applyWithReport [operation] (.obj fields)).2.isComplete = true ↔
      (operation.apply (.obj fields)).stop = none := by
  rw [Report.isComplete, List.isEmpty_iff, applyWithReport, applyFrom_cons_skipped]
  -- Nothing but this operation can be in the report.
  cases stop : (operation.apply (.obj fields)).stop <;> simp [base, stop, applyFrom]

/-- Two documents read the same at the text of every path neither on the way to a path nor below it. -/
def Json.SameBeside (path : Path) (before after : Json) : Prop :=
  ∀ other : Path, ¬ other.startsWith path → ¬ path.startsWith other →
    after.pointer? other.text = before.pointer? other.text

/--
An operation that is not skipped is seen by a reader at its path and nowhere beside it.

A value that was put is read back at the text of its path, where a dash behind a sequence stands for
the sequence's old length. What was taken out of a mapping cannot be read any more. What was taken
out of a sequence moves the later entries down by one place, and what was not there moves nothing.
A sequence has fewer than `2 ^ 64` entries, so that each of them has an index to be read at.
-/
theorem readings_after_operation (fields : Fields Json) (operation : Operation) (parent : Path)
    (leaf : String) (aimed : operation.path = parent.child leaf)
    (applied : (Patch.applyWithReport [operation] (.obj fields)).2.isComplete = true)
    (short : ∀ items, (Json.obj fields).pointer? parent.text = some (.arr items) →
      items.length < 2 ^ 64) :
    let before := Json.obj fields
    let after := Patch.apply [operation] before
    let container := before.pointer? parent.text
    (∀ value, operation.value? = some value →
      let place := parent.child (Json.landing leaf container)
      after.pointer? place.text = some value ∧ Json.SameBeside place before after) ∧
    (operation.value? = none →
      (∃ named, container = some (.obj named) ∧
        (∀ other : Path, other.startsWith operation.path → after.pointer? other.text = none) ∧
        Json.SameBeside operation.path before after) ∨
      (∃ items, container = some (.arr items) ∧ Json.SameBeside parent before after ∧
        (∀ index, Json.segmentIndex? leaf = some index → ∀ segment rest,
          after.pointer? (Path.mk (parent.segments ++ segment :: rest)).text =
            before.pointer?
              (Path.mk (parent.segments ++ Json.origin index segment :: rest)).text) ∧
        ((∀ index, Json.segmentIndex? leaf = some index → items.length ≤ index) →
          after = before))) := by
  -- At the text of a path a document reads what its segments lead to.
  have segments : operation.path.segments = parent.segments ++ [leaf] := by rw [aimed]; rfl
  have finished := (Patch.isComplete_singleton operation fields).1 applied
  simp only [Patch.apply_singleton, Json.pointer?_text, Json.SameBeside, Path.startsWith_iff,
    aimed] at short ⊢
  refine ⟨fun value puts => ?_, fun removes => ?_⟩
  · obtain ⟨read, kept⟩ := Operation.at?_apply_put puts segments finished short
    exact ⟨read, fun other => kept other.segments⟩
  rcases Operation.container_of_remove removes segments finished with
    ⟨named, mapping⟩ | ⟨items, sequence⟩
  · -- A mapping loses the name and all that was below it.
    obtain ⟨gone, kept⟩ := Operation.at?_apply_remove_field removes segments finished mapping
    refine .inl ⟨named, mapping, fun other below => ?_, fun other => kept other.segments⟩
    obtain ⟨rest, same⟩ := below
    rw [← same]
    simpa [Path.child] using gone rest
  · -- A sequence closes the gap, if there was an entry to take out.
    refine .inr ⟨items, sequence, ?_, fun index read => ?_,
      Operation.apply_remove_absent removes segments sequence⟩
    · obtain ⟨_, _, _, _, _, kept⟩ := Operation.apply_container segments finished
      exact fun other => kept other.segments
    · -- Which entry is read under a segment is told by the place that was emptied.
      exact (Operation.at?_apply_remove_item removes segments finished sequence
        (short items sequence) read).1

/-- An entry put behind the last one of a sequence is read at the sequence's old length. -/
theorem readings_after_append :
    let before := Json.obj [("entities", .arr [.nat 1, .nat 2]), ("notes", .str "x")]
    let operation := Operation.add ⟨["entities", "-"]⟩ (.nat 3)
    let after := Patch.apply [operation] before
    (Patch.applyWithReport [operation] before).2.isComplete = true ∧
      after.pointer? (Path.mk ["entities", "2"]).text = some (.nat 3) ∧
      after.pointer? (Path.mk ["notes"]).text = before.pointer? (Path.mk ["notes"]).text := by
  intro before operation after
  have applied : (Patch.applyWithReport [operation] before).2.isComplete = true := by decide
  have read : before.pointer? (Path.mk ["entities"]).text = some (.arr [.nat 1, .nat 2]) := by
    decide
  have short : ∀ items, before.pointer? (Path.mk ["entities"]).text = some (.arr items) →
      items.length < 2 ^ 64 := by
    intro items found
    -- The sequence at hand has two entries.
    obtain rfl : [Json.nat 1, Json.nat 2] = items := by simpa [read] using found
    decide
  obtain ⟨put, beside⟩ := (readings_after_operation _ operation ⟨["entities"]⟩ "-" rfl applied
    short).1 (.nat 3) rfl
  exact ⟨applied, put, beside ⟨["notes"]⟩ (by decide) (by decide)⟩

end Minigame
