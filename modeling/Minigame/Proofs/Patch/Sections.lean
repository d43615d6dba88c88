import Minigame.Proofs.Patch.Places

/-! The sections of a document, one under each name, evolve independently of each other. -/

namespace Minigame

namespace Operation

/-- A value added one step below a name is read there, if the name leads to a mapping afterwards. -/
theorem read_added {fields named : Fields Json} {home leaf : String} {value : Json}
    (mapping : ((Operation.add ⟨[home, leaf]⟩ value).apply (.obj fields)).value.field? home =
      some (.obj named)) :
    Fields.get? leaf named = some value := by
  -- What became of the place under the name depends on what was there alone.
  obtain ⟨changed, same, _, here, _⟩ := apply_obj (.add ⟨[home, leaf]⟩ value) fields rfl
  rw [same, Json.field?] at mapping
  rw [mapping] at here
  have after := congrArg Edited.value here
  have added : ∀ before, Json.obj (Fields.set leaf value before) = .obj named →
      Fields.get? leaf named = some value := by
    intro before made
    rw [← Json.obj.inj made, Fields.get?_set_self]
  -- Nothing and null become a mapping, a mapping takes the value, and all else stays what it is.
  cases found : Fields.get? home fields with
  | none =>
    rw [found] at after
    exact added [] (Option.some.inj after)
  | some old =>
    rw [found] at after
    cases old with
    | obj before => exact added before (Option.some.inj after)
    | null => exact added [] (Option.some.inj after)
    | arr items =>
      obtain ⟨changed, stays⟩ := apply_arr_value (.add ⟨[leaf]⟩ value) items
      cases stays.symm.trans (Option.some.inj after)
    | bool truth => cases after
    | num number => cases after
    | str text => cases after

end Operation

namespace Patch

/-- The operations of a patch that work in the section under a name. -/
def within (name : String) (patch : Patch) : Patch :=
  patch.filter fun operation => operation.path.startsWith ⟨[name]⟩

/-- An operation outside the section under a name is not seen below the name. -/
theorem below?_eq_none {name : String} {operation : Operation}
    (outside : ¬ operation.path.startsWith ⟨[name]⟩) :
    operation.below? (· = name) = none := by
  -- An operation outside ends at the root or begins with another name.
  rw [Path.startsWith_iff] at outside
  unfold Operation.below?
  split
  · rfl
  · next segment rest aimed =>
    have different : segment ≠ name := by
      rintro rfl
      exact outside (by simp [aimed])
    simp [different]

/-- Below a name a patch is seen as its operations in the section under the name are. -/
theorem below_within (name : String) (patch : Patch) :
    below (· = name) (patch.within name) = below (· = name) patch := by
  -- What the filter drops is not seen below the name either.
  induction patch with
  | nil => rfl
  | cons operation rest ih =>
    unfold within at ih ⊢
    rw [List.filter_cons, below_cons]
    split
    · rw [below_cons, ih]
    · next outside => rw [below?_eq_none outside, ih, Option.toList_none, List.nil_append]

/-- What a patch leaves under a name is left by its operations in the section under the name. -/
theorem run_within (name : String) (patch : Patch) (fields : Fields Json) :
    (run patch (.obj fields)).field? name = (run (patch.within name) (.obj fields)).field? name := by
  -- Both runs are seen under the name, through the same operations below it.
  obtain ⟨whole, left, _, seen⟩ := run_obj patch fields
  obtain ⟨part, leftWithin, _, seenWithin⟩ := run_obj (patch.within name) fields
  rw [left, leftWithin, Json.field?, Json.field?, seen, seenWithin, below_within]

/-- What is added last in a section is read there, if the section is a mapping afterwards. -/
theorem read_added_last {patch front : Patch} {home leaf : String} {value : Json}
    (last : patch.within home = front ++ [.add ⟨[home, leaf]⟩ value]) {doc : Json}
    {named : Fields Json}
    (mapping : (patch.apply doc).pointer? (Path.mk [home]).text = some (.obj named)) :
    (patch.apply doc).pointer? (Path.mk [home, leaf]).text = some value := by
  obtain ⟨fields, started, _⟩ := base_eq_obj doc
  obtain ⟨whole, ran, _⟩ := run_obj patch fields
  obtain ⟨middle, ranFront, _⟩ := run_obj front fields
  -- The operations of other sections play no part, and the others are done before the last one.
  have within : (run patch (.obj fields)).field? home =
      ((Operation.add ⟨[home, leaf]⟩ value).apply (.obj middle)).value.field? home := by
    rw [run_within, last, run_append, ranFront, run_cons, run_nil]
  rw [apply_eq_run, started, Json.pointer?_text, ran] at mapping ⊢
  rw [Json.at?_singleton, Json.under?] at mapping
  rw [Json.at?_cons, Json.under?, mapping, Option.bind_some, Json.at?_singleton]
  rw [ran, Json.field?, mapping] at within
  exact Operation.read_added within.symm

/--
The sections of a document evolve independently of each other.

What is left under a name depends on the operations in the section under that name alone. So the
operations of different sections may change places in a document that lists its names in order, and
a section without operations stays as it is.
-/
theorem sections_apart (patch : Patch) (doc : Json) :
    (∀ name, (patch.apply doc).field? name = ((patch.within name).apply doc).field? name) ∧
    (doc.Ordered → ∀ other : Patch, (∀ name, other.within name = patch.within name) →
      other.apply doc = patch.apply doc) ∧
    ∀ home name, (∀ operation ∈ patch, operation.path.startsWith ⟨[home]⟩ = true) →
      name ≠ home → (patch.apply doc).field? name = doc.field? name := by
  obtain ⟨fields, started, read⟩ := base_eq_obj doc
  simp only [apply_eq_run, started]
  refine ⟨fun name => run_within name patch fields, fun sorted other same => ?_,
    fun home name inside different => ?_⟩
  · -- Mappings in order are equal if they have the same under every name.
    obtain ⟨left, leftRun, keepsLeft, _⟩ := run_obj other fields
    obtain ⟨right, rightRun, keepsRight, _⟩ := run_obj patch fields
    have fieldsSorted : Fields.Ordered fields := (started ▸ base_ordered sorted).fields
    rw [leftRun, rightRun]
    refine congrArg Json.obj ((keepsLeft fieldsSorted).ext (keepsRight fieldsSorted) fun name => ?_)
    calc Fields.get? name left
        = (run (other.within name) (.obj fields)).field? name := by
          rw [← run_within, leftRun, Json.field?]
      _ = (run (patch.within name) (.obj fields)).field? name := by rw [same]
      _ = Fields.get? name right := by rw [← run_within, rightRun, Json.field?]
  · -- A path begins with one name only, so no operation works in another section.
    have nothing : patch.within name = [] := List.filter_eq_nil_iff.2 fun operation listed there => by
      have homeFirst := (Path.startsWith_iff ..).1 (inside operation listed)
      have nameFirst := (Path.startsWith_iff ..).1 there
      exact different (by simpa using List.prefix_of_prefix_length_le nameFirst homeFirst (by simp))
    rw [run_within, nothing, run_nil, Json.field?, read]

/-- A new limit and a new skin may change places, and the new skin alone keeps the limit. -/
theorem sections_apart_skin_limit :
    let doc := Json.obj
      [("meta", .obj [("skin", .str "neon")]), ("rules", .obj [("limit", .nat 40)])]
    let skin := Operation.add ⟨["meta", "skin"]⟩ (.str "dusk")
    let limit := Operation.replace ⟨["rules", "limit"]⟩ (.nat 8)
    Patch.apply [limit, skin] doc = Patch.apply [skin, limit] doc ∧
      (Patch.apply [skin] doc).field? "rules" = doc.field? "rules" := by
  intro doc skin limit
  have sorted : doc.Ordered := by
    refine .obj (List.pairwise_pair.2 (by decide)) fun field listed => ?_
    simp only [List.mem_cons, List.not_mem_nil, or_false] at listed
    rcases listed with rfl | rfl
    · exact .obj (List.pairwise_singleton ..) (by simp [Json.Ordered.str])
    · exact .obj (List.pairwise_singleton ..) (by simp [Json.nat, Json.Ordered.num])
  have same : ∀ name, within name [limit, skin] = within name [skin, limit] := fun name => by
    by_cases here : name = "meta"
    · subst here; decide
    · by_cases there : name = "rules"
      · subst there; decide
      · simp [within, Path.startsWith, limit, skin, Operation.path, here, there]
  exact ⟨(sections_apart [skin, limit] doc).2.1 sorted [limit, skin] same,
    (sections_apart [skin] doc).2.2 "meta" "rules" (by decide) (by decide)⟩

end Patch

end Minigame
