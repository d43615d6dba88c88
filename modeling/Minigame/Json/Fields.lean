/-!
Mappings from names to values, kept as lists in ascending order of the names.

Putting a value, exchanging it and taking a name out change what is read under that name alone, and
all of them keep the order. In ascending order a mapping is determined by what is read from it.
-/

namespace Minigame

/-- The fields of a mapping, ordered by the code points of their names. -/
abbrev Fields (α : Type) := List (String × α)

namespace Fields

variable {α β : Type}

/-- The value under a name. -/
def get? (name : String) : Fields α → Option α
  | [] => none
  | (other, value) :: rest => if name = other then some value else get? name rest

/-- Puts a value under a name, in place of the one that was there. -/
def set (name : String) (value : α) : Fields α → Fields α
  | [] => [(name, value)]
  | (other, old) :: rest =>
    if name = other then (name, value) :: rest
    else if name < other then (name, value) :: (other, old) :: rest
    else (other, old) :: set name value rest

/-- Exchanges the value of a name that has one, where it stands. -/
def replace (name : String) (value : α) : Fields α → Fields α
  | [] => []
  | (other, old) :: rest =>
    if name = other then (other, value) :: rest else (other, old) :: replace name value rest

/-- Takes a name and its value out. -/
def erase (name : String) : Fields α → Fields α
  | [] => []
  | (other, value) :: rest => if name = other then erase name rest else (other, value) :: erase name rest

/-- Whether a name has a value. -/
def contains (name : String) (fields : Fields α) : Bool :=
  (fields.get? name).isSome

/-- The mapping that holds the listed values, later ones in place of earlier ones. -/
def ofList (entries : List (String × α)) : Fields α :=
  entries.foldl (fun fields (name, value) => fields.set name value) []

/-- A mapping with the values of another put into it. -/
def union (fields others : Fields α) : Fields α :=
  others.foldl (fun fields (name, value) => fields.set name value) fields

/-- The names, in ascending order. -/
def names (fields : Fields α) : List String :=
  fields.map (·.1)

/-- Names strictly ascend. -/
def Ordered (fields : Fields α) : Prop :=
  fields.Pairwise (·.1 < ·.1)

/-- A name that was put is read back. -/
@[simp] theorem get?_set_self (name : String) (value : α) (fields : Fields α) :
    get? name (set name value fields) = some value := by
  -- Wherever the value is put, no entry in front of it has its name.
  induction fields with
  | nil => simp [set, get?]
  | cons entry rest ih =>
    obtain ⟨other, old⟩ := entry
    unfold set
    split
    · simp [get?]
    · split
      · simp [get?]
      · simp [get?, *]

/-- Putting a name leaves the others as they are. -/
theorem get?_set_ne {name other : String} (different : other ≠ name) (value : α)
    (fields : Fields α) : get? other (set name value fields) = get? other fields := by
  -- The only entry that is new or replaced has a name that is not asked for.
  induction fields with
  | nil => simp [set, get?, different]
  | cons entry rest ih =>
    obtain ⟨third, old⟩ := entry
    unfold set
    split
    · next same => subst same; simp [get?, different]
    · split
      · simp [get?, different]
      · simp [get?, ih]

/-- The values of another mapping leave the names alone that it does not have. -/
theorem get?_union_of_notMem {name : String} {others : Fields α} (absent : name ∉ names others)
    (fields : Fields α) : get? name (union fields others) = get? name fields := by
  -- Each value is put under a name that is not asked for.
  induction others generalizing fields with
  | nil => rfl
  | cons entry rest ih =>
    obtain ⟨different, later⟩ := List.ne_and_not_mem_of_not_mem_cons absent
    rw [union, List.foldl_cons, ← union, ih later, get?_set_ne different]

/-- Values that were put under different names are read back. -/
theorem get?_union_of_mem {name : String} {value : α} {others : Fields α}
    (apart : (names others).Nodup) (listed : (name, value) ∈ others) (fields : Fields α) :
    get? name (union fields others) = some value := by
  -- After the value itself only other names follow.
  induction others generalizing fields with
  | nil => cases listed
  | cons entry rest ih =>
    obtain ⟨new, later⟩ := List.nodup_cons.1 apart
    rw [union, List.foldl_cons, ← union]
    rcases List.mem_cons.1 listed with rfl | listed
    · rw [get?_union_of_notMem new, get?_set_self]
    · exact ih later listed _

/-- A name that was taken out has no value. -/
@[simp] theorem get?_erase_self (name : String) (fields : Fields α) :
    get? name (erase name fields) = none := by
  -- Every entry that stays has another name.
  induction fields with
  | nil => rfl
  | cons entry rest ih =>
    obtain ⟨other, old⟩ := entry
    unfold erase
    split
    · exact ih
    · simp [get?, *]

/-- Taking a name out leaves the others as they are. -/
theorem get?_erase_ne {name other : String} (different : other ≠ name) (fields : Fields α) :
    get? other (erase name fields) = get? other fields := by
  -- The entries that go have a name that is not asked for.
  induction fields with
  | nil => rfl
  | cons entry rest ih =>
    obtain ⟨third, old⟩ := entry
    unfold erase
    split
    · next same => subst same; simp [get?, different, ih]
    · simp [get?, ih]

/-- A value put in place of one that is there is read back. -/
theorem get?_replace_self {name : String} {old : α} {fields : Fields α}
    (there : get? name fields = some old) (value : α) :
    get? name (replace name value fields) = some value := by
  -- The entry that is read is the one whose value is exchanged.
  induction fields with
  | nil => cases there
  | cons entry rest ih =>
    obtain ⟨other, first⟩ := entry
    by_cases same : name = other
    · simp [replace, get?, same]
    · simp only [get?, if_neg same] at there
      simp [replace, get?, same, ih there]

/-- Exchanging a value leaves the other names as they are. -/
theorem get?_replace_ne {name other : String} (different : other ≠ name) (value : α)
    (fields : Fields α) : get? other (replace name value fields) = get? other fields := by
  -- The only value that is exchanged belongs to a name that is not asked for.
  induction fields with
  | nil => rfl
  | cons entry rest ih =>
    obtain ⟨third, old⟩ := entry
    unfold replace
    split
    · next same => subst same; simp [get?, different]
    · simp [get?, ih]

/-- A value exchanged for itself changes nothing. -/
theorem replace_eq_self {name : String} {value : α} {fields : Fields α}
    (there : get? name fields = some value) : replace name value fields = fields := by
  induction fields with
  | nil => rfl
  | cons entry rest ih =>
    obtain ⟨other, old⟩ := entry
    by_cases same : name = other
    · simp only [get?, if_pos same, Option.some.injEq] at there
      simp [replace, same, there]
    · simp only [get?, if_neg same] at there
      simp [replace, same, ih there]

/-- Exchanging a value leaves the names as they are. -/
@[simp] theorem names_replace (name : String) (value : α) (fields : Fields α) :
    names (replace name value fields) = names fields := by
  induction fields with
  | nil => rfl
  | cons entry rest ih =>
    obtain ⟨other, old⟩ := entry
    unfold replace
    split
    · rfl
    · simpa [names] using ih

/-- A field after putting a value is the one that was put or was there before. -/
theorem mem_set {entry : String × α} {name : String} {value : α} {fields : Fields α}
    (there : entry ∈ set name value fields) : entry = (name, value) ∨ entry ∈ fields := by
  -- The entries in front of the new one are copied.
  induction fields with
  | nil => simpa [set] using there
  | cons first rest ih =>
    obtain ⟨other, old⟩ := first
    unfold set at there
    split at there
    · exact (List.mem_cons.1 there).imp_right (List.mem_cons_of_mem _)
    · split at there
      · exact List.mem_cons.1 there
      · rcases List.mem_cons.1 there with rfl | there
        · exact .inr (List.mem_cons_self ..)
        · exact (ih there).imp_right (List.mem_cons_of_mem _)

/-- What is in a mapping after a value was exchanged is the new entry or was there before. -/
theorem mem_replace {entry : String × α} {name : String} {value : α} {fields : Fields α}
    (there : entry ∈ replace name value fields) : entry = (name, value) ∨ entry ∈ fields := by
  induction fields with
  | nil => cases there
  | cons first rest ih =>
    obtain ⟨other, old⟩ := first
    unfold replace at there
    split at there
    · next same => subst same; exact (List.mem_cons.1 there).imp_right (List.mem_cons_of_mem _)
    · rcases List.mem_cons.1 there with rfl | there
      · exact .inr (List.mem_cons_self ..)
      · exact (ih there).imp_right (List.mem_cons_of_mem _)

/-- Putting a value keeps the names in order. -/
theorem Ordered.set {fields : Fields α} (ordered : Ordered fields) (name : String) (value : α) :
    Ordered (Fields.set name value fields) := by
  -- The new entry stands behind smaller names and in front of the first greater one.
  induction fields with
  | nil => simp [Fields.set, Ordered]
  | cons first rest ih =>
    obtain ⟨other, old⟩ := first
    obtain ⟨before, tail⟩ := List.pairwise_cons.1 ordered
    unfold Fields.set
    split
    · next same => subst same; exact List.pairwise_cons.2 ⟨before, tail⟩
    · next different =>
      split
      · next smaller =>
        refine List.pairwise_cons.2 ⟨fun entry there => ?_, List.pairwise_cons.2 ⟨before, tail⟩⟩
        rcases List.mem_cons.1 there with rfl | there
        · exact smaller
        · exact String.lt_trans smaller (before entry there)
      · next notSmaller =>
        refine List.pairwise_cons.2 ⟨fun entry there => ?_, ih tail⟩
        rcases mem_set there with rfl | there
        · have le : other ≤ name := String.not_lt.1 notSmaller
          exact Decidable.byContradiction fun notGreater =>
            different (String.le_antisymm (String.not_lt.1 notGreater) le)
        · exact before entry there

/-- The order of a mapping is the order of its names. -/
theorem ordered_iff_names (fields : Fields α) :
    Ordered fields ↔ (names fields).Pairwise (· < ·) := by
  simp [Ordered, names, List.pairwise_map]

/-- Exchanging a value keeps the names in order. -/
theorem Ordered.replace {fields : Fields α} (ordered : Ordered fields) (name : String) (value : α) :
    Ordered (Fields.replace name value fields) := by
  rw [ordered_iff_names, names_replace]
  exact (ordered_iff_names fields).1 ordered

/-- What stays when a name is taken out was there, in the same order. -/
theorem erase_sublist (name : String) (fields : Fields α) :
    (Fields.erase name fields).Sublist fields := by
  induction fields with
  | nil => exact .slnil
  | cons first rest ih =>
    unfold Fields.erase
    split
    · exact ih.cons _
    · exact ih.cons_cons _

/-- Taking a name out keeps the others in order. -/
theorem Ordered.erase {fields : Fields α} (ordered : Ordered fields) (name : String) :
    Ordered (Fields.erase name fields) :=
  List.Pairwise.sublist (erase_sublist name fields) ordered

/-- A name that no field has reads as nothing. -/
theorem get?_eq_none {name : String} {fields : Fields α}
    (absent : ∀ entry ∈ fields, entry.1 ≠ name) : get? name fields = none := by
  induction fields with
  | nil => rfl
  | cons entry rest ih =>
    have here : name ≠ entry.1 := Ne.symm (absent entry (List.mem_cons_self ..))
    simp [get?, here, ih fun other there => absent other (List.mem_cons_of_mem _ there)]

/-- A name in front of all the names of a mapping reads as nothing. -/
theorem get?_eq_none_of_lt {name : String} {fields : Fields α}
    (before : ∀ entry ∈ fields, name < entry.1) : get? name fields = none :=
  get?_eq_none fun entry there same => String.lt_irrefl name (same ▸ before entry there)

/-- Mappings in order that read the same under every name are equal. -/
theorem Ordered.ext {fields others : Fields α} (ordered : Ordered fields)
    (othersOrdered : Ordered others) (same : ∀ name, get? name fields = get? name others) :
    fields = others := by
  -- The first names agree, since a name in front of both mappings would be read from one alone.
  induction fields generalizing others with
  | nil =>
    cases others with
    | nil => rfl
    | cons entry rest => simpa [get?] using same entry.1
  | cons entry rest ih =>
    obtain ⟨name, value⟩ := entry
    obtain ⟨after, tail⟩ := List.pairwise_cons.1 ordered
    cases others with
    | nil => simpa [get?] using same name
    | cons otherEntry otherRest =>
      obtain ⟨other, otherValue⟩ := otherEntry
      obtain ⟨otherAfter, otherTail⟩ := List.pairwise_cons.1 othersOrdered
      have notLess : ¬ name < other := fun less => by
        have absent : get? name ((other, otherValue) :: otherRest) = none :=
          get?_eq_none_of_lt fun entry there => by
            rcases List.mem_cons.1 there with rfl | there
            · exact less
            · exact String.lt_trans less (otherAfter entry there)
        have read := same name
        rw [absent] at read
        simp [get?] at read
      have notGreater : ¬ other < name := fun less => by
        have absent : get? other ((name, value) :: rest) = none :=
          get?_eq_none_of_lt fun entry there => by
            rcases List.mem_cons.1 there with rfl | there
            · exact less
            · exact String.lt_trans less (after entry there)
        have read := same other
        rw [absent] at read
        simp [get?] at read
      obtain rfl : name = other :=
        String.le_antisymm (String.not_lt.1 notGreater) (String.not_lt.1 notLess)
      have values : value = otherValue := by simpa [get?] using same name
      have rests : rest = otherRest := ih tail otherTail fun third => by
        by_cases here : third = name
        · subst here
          rw [get?_eq_none_of_lt after, get?_eq_none_of_lt otherAfter]
        · simpa [get?, here] using same third
      rw [values, rests]

/-- To change all values after one was put is to put the changed one. -/
theorem map_set (change : α → β) (name : String) (value : α) (fields : Fields α) :
    (set name value fields).map (Prod.map id change)
      = set name (change value) (fields.map (Prod.map id change)) := by
  induction fields with
  | nil => rfl
  | cons field fields ih =>
    obtain ⟨other, old⟩ := field
    by_cases same : name = other
    · simp [set, same]
    · by_cases before : name < other
      · simp [set, same, before]
      · simp [set, same, before, ih]

theorem map_ofList (change : α → β) (entries : List (String × α)) :
    (ofList entries).map (Prod.map id change) = ofList (entries.map (Prod.map id change)) := by
  have general (fields : Fields α) :
      (entries.foldl (fun fields (name, value) => Fields.set name value fields) fields).map
          (Prod.map id change)
        = (entries.map (Prod.map id change)).foldl
          (fun fields (name, value) => Fields.set name value fields)
          (fields.map (Prod.map id change)) := by
    induction entries generalizing fields with
    | nil => rfl
    | cons entry entries ih =>
      rw [List.map_cons, List.foldl_cons, List.foldl_cons, ih, map_set]
      rfl
  exact general []

end Fields

end Minigame
