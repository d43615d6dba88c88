import Minigame.Proofs.Json.Address

/-! The walk of an edit to the container of its last segment changes nothing beside its way. -/

namespace Minigame.Json

/--
What a walk meets where it found a part of a document.

It meets the part itself, or an empty mapping that it made of nothing or null.
-/
def Entered (create : Bool) (found : Option Json) (container : Json) : Prop :=
  found = some container ∨
    create = true ∧ container = .obj [] ∧ (found = none ∨ found = some .null)

/-- A value that is found is entered by the rule of the walk. -/
theorem entered_some (create : Bool) (value : Json) :
    Entered create (some value) (entered create value) := by
  -- Only null that the walk may replace is not entered as it is.
  by_cases opened : create = true ∧ value = .null
  · exact .inr ⟨opened.1, by simp [entered, opened], .inr (by rw [opened.2])⟩
  · exact .inl (by simp [entered, opened])

/-- A part that is no mapping is met as it was found. -/
theorem Entered.found_of_ne {create : Bool} {found : Option Json} {container : Json}
    (met : Entered create found container) (old : container ≠ .obj []) :
    found = some container :=
  met.resolve_right fun made => old made.2.1

/-- Below the place that it entered, a walk meets what was there. -/
theorem Entered.at?_eq {create : Bool} {found : Option Json} {container : Json}
    (met : Entered create found container) {segments : List String} (below : segments ≠ []) :
    found.bind (at? segments) = container.at? segments := by
  -- Nothing is below an empty mapping, as nothing is below what it was made of.
  rcases met with rfl | ⟨_, rfl, rfl | rfl⟩
  · rfl
  · exact (at?_obj_nil below).symm
  · exact (at?_null below).trans (at?_obj_nil below).symm

/-- What a walk enters from a place that it entered, it enters from the document. -/
theorem Entered.trans {create : Bool} {found : Option Json} {inner container : Json}
    (met : Entered create found inner) {segments : List String}
    (next : Entered create (inner.at? segments) container) :
    Entered create (found.bind (at? segments)) container := by
  -- With no further segments both walks enter one place.
  by_cases here : segments = []
  · subst here
    have whole : found.bind (at? []) = found := by cases found <;> rfl
    rw [at?_nil] at next
    rw [whole]
    rcases next with same | ⟨creates, made, absent | null⟩
    · simpa [Option.some.inj same] using met
    · cases absent
    · -- Only a null that was found can become a mapping one step later.
      rcases met with rfl | ⟨_, emptied, _⟩
      · exact .inr ⟨creates, made, .inr null⟩
      · simp [emptied] at null
  · rwa [met.at?_eq here]

section

variable {create : Bool} {edit : String → Json → Edited Json}

/-- One step of a walk: the edit goes on in one part of the value, and the others stay. -/
theorem editAt_step {segment : String} {rest : List String} {doc : Json} (longer : rest ≠ [])
    (finished : (editAt create edit (segment :: rest) doc).stop = none) :
    ∃ inner, Entered create (doc.under? segment) inner ∧
      (editAt create edit rest inner).stop = none ∧
      (editAt create edit (segment :: rest) doc).value.under? segment =
        some (editAt create edit rest inner).value ∧
      ∀ other, other ≠ segment →
        (editAt create edit (segment :: rest) doc).value.under? other = doc.under? other := by
  -- The edit goes on behind this segment, so the first step is one into a container.
  obtain ⟨next, rest, rfl⟩ := List.exists_cons_of_ne_nil longer
  cases doc with
  | obj fields =>
    -- The part under the name is exchanged in place, or put there if the walk made it.
    cases found : Fields.get? segment fields with
    | some value =>
      simp only [editAt, found, Edited.map_stop, Edited.map_value, under?] at finished ⊢
      exact ⟨entered create value, entered_some create value, finished,
        Fields.get?_replace_self found _, fun other different =>
          Fields.get?_replace_ne different _ fields⟩
    | none =>
      cases create with
      | false => simp [editAt, found] at finished
      | true =>
        simp only [editAt, found, if_true, Edited.map_stop, Edited.map_value, under?]
          at finished ⊢
        exact ⟨.obj [], .inr ⟨rfl, rfl, .inl rfl⟩, finished, Fields.get?_set_self _ _ _,
          fun other different => Fields.get?_set_ne different _ fields⟩
  | arr items =>
    -- A walk makes no entries, so the place has to be there.
    cases readable : segmentIndex? segment with
    | none => simp [editAt, readable] at finished
    | some index =>
      cases found : items[index]? with
      | none => simp [editAt, readable, found] at finished
      | some value =>
        obtain ⟨inside, _⟩ := List.getElem?_eq_some_iff.1 found
        simp only [editAt, readable, found, Edited.map_stop, Edited.map_value] at finished ⊢
        exact ⟨value, .inl (by rw [under?, readable, Option.bind_some, found]), finished,
          under?_set_self readable inside _, fun other different =>
            under?_set_ne readable different items _⟩
  -- No step leads into any other value.
  | null => simp [editAt] at finished
  | bool value => simp [editAt] at finished
  | num value => simp [editAt] at finished
  | str value => simp [editAt] at finished

/--
An edit that does not stop changes the container of its last segment alone.

The parts that are neither on the way to the container nor in it read as before.
-/
theorem editAt_walk {parents : List String} {leaf : String} {doc : Json}
    (finished : (editAt create edit (parents ++ [leaf]) doc).stop = none) :
    ∃ container, Entered create (doc.at? parents) container ∧
      (edit leaf container).stop = none ∧
      (editAt create edit (parents ++ [leaf]) doc).value.at? parents =
        some (edit leaf container).value ∧
      ∀ other, ¬ parents <+: other → ¬ other <+: parents →
        (editAt create edit (parents ++ [leaf]) doc).value.at? other = doc.at? other := by
  -- The induction follows the way; a path that leaves it reads a part that the step kept.
  induction parents generalizing doc with
  | nil =>
    exact ⟨doc, .inl rfl, finished, rfl, fun other beside _ => absurd List.nil_prefix beside⟩
  | cons segment rest ih =>
    rw [List.cons_append] at finished ⊢
    obtain ⟨inner, met, innerFinished, here, beside⟩ := editAt_step (by simp) finished
    obtain ⟨container, innerMet, done, read, kept⟩ := ih innerFinished
    refine ⟨container, met.trans innerMet, done, ?_, ?_⟩
    · rw [at?_cons, here, Option.bind_some, read]
    · intro other notBelow notAbove
      -- The other path leaves the way at its first segment or further on.
      cases other with
      | nil => exact absurd List.nil_prefix notAbove
      | cons first others =>
        rw [at?_cons, at?_cons]
        by_cases same : first = segment
        · subst same
          have away : others ≠ [] := fun none => notAbove (by simp [none])
          rw [here, Option.bind_some, met.at?_eq away]
          exact kept others (fun below => notBelow (by simpa using below))
            (fun above => notAbove (by simpa using above))
        · rw [beside first same]

end

end Minigame.Json
