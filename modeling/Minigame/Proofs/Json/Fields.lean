import Minigame.Json.Record
import Minigame.Proofs.Json.Order

/-!
Mappings that are put together from fields with known names and from others.

Each field is read back from where it came from, and the others are told again by their names.
-/

namespace Minigame

theorem Json.asString?_eq_some_iff {value : Json} {text : String} :
    value.asString? = some text ↔ value = .str text := by
  cases value <;> simp [asString?]

theorem Json.asItems?_eq_some_iff {value : Json} {items : List Json} :
    value.asItems? = some items ↔ value = .arr items := by
  cases value <;> simp [asItems?]

theorem Json.asFields?_eq_some_iff {value : Json} {fields : Fields Json} :
    value.asFields? = some fields ↔ value = .obj fields := by
  cases value <;> simp [asFields?]

namespace Fields

variable {α : Type}

/-- A name reads as nothing exactly if it is none of the names. -/
theorem get?_eq_none_iff {name : String} {fields : Fields α} :
    get? name fields = none ↔ name ∉ names fields := by
  induction fields with
  | nil => simp [get?, names]
  | cons entry rest ih =>
    obtain ⟨other, value⟩ := entry
    by_cases same : name = other
    · simp [get?, names, same]
    · simp only [get?, if_neg same, ih]
      simp [names, same]

/-- Names that ascend are told apart. -/
theorem Ordered.nodup {fields : Fields α} (ordered : Ordered fields) : (names fields).Nodup := by
  -- No name is less than itself.
  refine ((ordered_iff_names fields).1 ordered).imp fun less same => ?_
  exact String.lt_irrefl _ (same ▸ less)

/-- Each entry under a name of its own is read under it. -/
theorem get?_of_mem {name : String} {value : α} {fields : Fields α} (apart : (names fields).Nodup)
    (there : (name, value) ∈ fields) : get? name fields = some value := by
  induction fields with
  | nil => cases there
  | cons entry rest ih =>
    obtain ⟨other, first⟩ := entry
    obtain ⟨new, later⟩ := List.nodup_cons.1 apart
    rcases List.mem_cons.1 there with here | behind
    · cases here
      exact if_pos rfl
    -- The entry lies behind this one, which has its name by itself.
    · have different : name ≠ other := by
        rintro rfl
        exact new (List.mem_map.2 ⟨_, behind, rfl⟩)
      exact (if_neg different).trans (ih later behind)

/-- With another mapping put into it, a mapping reads as that one first. -/
theorem get?_union {others : Fields α} (apart : (names others).Nodup) (name : String)
    (fields : Fields α) :
    get? name (union fields others) = (get? name others).or (get? name fields) := by
  -- The mapping that is put in decides wherever it has the name.
  cases read : get? name others with
  | none => exact get?_union_of_notMem (get?_eq_none_iff.1 read) fields
  | some value => exact get?_union_of_mem apart (mem_of_get? read) fields

/-- What is put together from entries with different names reads as the entries do. -/
theorem get?_ofList {entries : List (String × α)} (apart : (names entries).Nodup) (name : String) :
    get? name (ofList entries) = get? name entries :=
  (get?_union apart name []).trans (Option.or_none ..)

theorem Ordered.union {fields : Fields α} (ordered : Ordered fields) (others : Fields α) :
    Ordered (Fields.union fields others) := by
  induction others generalizing fields with
  | nil => exact ordered
  | cons entry rest ih => exact ih (ordered.set entry.1 entry.2)

theorem Ordered.ofList (entries : List (String × α)) : Ordered (Fields.ofList entries) :=
  Ordered.union List.Pairwise.nil entries

/-- The fields whose names are kept read as before, and the others as nothing. -/
theorem get?_filter (kept : String → Bool) (name : String) (fields : Fields α) :
    get? name (fields.filter fun field => kept field.1)
      = if kept name then get? name fields else none := by
  induction fields with
  | nil => simp [get?]
  | cons entry rest ih =>
    obtain ⟨other, value⟩ := entry
    by_cases same : name = other
    · subst same
      -- An entry with the name is kept or dropped as the name is; one with another name hides
      -- nothing.
      by_cases keeps : kept name = true
      · simp [get?, keeps]
      · simp [keeps, ih]
    · by_cases keeps : kept other = true <;> simp [get?, same, keeps, ih]

section

variable {known : List String} {entries : List (String × α)} {extra : Fields α}

/-- Fields in order, none of them under a known name. -/
structure Beyond (known : List String) (extra : Fields α) : Prop where
  ordered : Ordered extra
  other : ∀ name ∈ names extra, name ∉ known

/-- What is left of fields in order without the known names lies beyond these. -/
theorem Ordered.beyond {fields : Fields α} (ordered : Ordered fields) :
    Beyond known (fields.filter fun field => field.1 ∉ known) where
  ordered := ordered.sublist List.filter_sublist
  other := by
    intro name there
    obtain ⟨field, kept, rfl⟩ := List.mem_map.1 there
    simpa using (List.mem_filter.1 kept).2

/-- Entries with different known names, and fields beyond these names. -/
structure Apart (known : List String) (entries : List (String × α)) (extra : Fields α) : Prop
    extends Beyond known extra where
  listed : ∀ name ∈ names entries, name ∈ known
  nodup : (names entries).Nodup

variable (apart : Apart known entries extra)
include apart

/-- A known name is read from the entries. -/
theorem Apart.get?_known {name : String} (listed : name ∈ known) :
    get? name (Fields.union (Fields.ofList entries) extra) = get? name entries := by
  -- The others have no known name, so the entries show through.
  have absent : get? name extra = none :=
    get?_eq_none_iff.2 fun there => apart.other name there listed
  rw [get?_union apart.ordered.nodup, absent, Option.none_or, get?_ofList apart.nodup]

/-- Another name is read from the other fields. -/
theorem Apart.get?_other {name : String} (other : name ∉ known) :
    get? name (Fields.union (Fields.ofList entries) extra) = get? name extra := by
  -- All entries have known names, so the others show through.
  have absent : get? name entries = none :=
    get?_eq_none_iff.2 fun there => other (apart.listed name there)
  rw [get?_union apart.ordered.nodup, get?_ofList apart.nodup, absent, Option.or_none]

/-- The other fields are what is left without the known names. -/
theorem Apart.filter_other :
    (Fields.union (Fields.ofList entries) extra).filter (fun field => field.1 ∉ known) = extra := by
  -- Two mappings in order are the same if they read alike under every name.
  have whole := (Ordered.ofList entries).union extra
  refine Ordered.ext (whole.sublist List.filter_sublist) apart.ordered fun name => ?_
  rw [get?_filter (fun name => decide (name ∉ known))]
  by_cases listed : name ∈ known
  · rw [get?_eq_none_iff.2 fun there => apart.other name there listed]
    simp [listed]
  · simp [listed, apart.get?_other listed]

end

end Fields

end Minigame
