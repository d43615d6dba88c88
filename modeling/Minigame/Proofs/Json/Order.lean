import Minigame.Json.Pointer

/-! Documents list the names of every mapping in ascending order, each of them once. -/

namespace Minigame

namespace Fields

variable {α : Type}

/-- A value that is read under a name is one of the fields. -/
theorem mem_of_get? {name : String} {value : α} {fields : Fields α}
    (read : get? name fields = some value) : (name, value) ∈ fields := by
  -- What is read is the first field, or it stands behind that one.
  induction fields with
  | nil => cases read
  | cons entry rest ih =>
    obtain ⟨other, first⟩ := entry
    unfold get? at read
    split at read
    · next same => simp_all
    · exact List.mem_cons_of_mem _ (ih read)

end Fields

namespace Json

/-- The names of every mapping in a value are in ascending order. -/
inductive Ordered : Json → Prop where
  | null : Ordered .null
  | bool (value : Bool) : Ordered (.bool value)
  | num (value : Number) : Ordered (.num value)
  | str (value : String) : Ordered (.str value)
  | arr {items : List Json} (each : ∀ item ∈ items, Ordered item) : Ordered (.arr items)
  | obj {fields : Fields Json} (names : Fields.Ordered fields)
    (each : ∀ field ∈ fields, Ordered field.2) : Ordered (.obj fields)

namespace Ordered

attribute [simp] null bool num str

@[simp] theorem arr_iff {items : List Json} :
    Ordered (.arr items) ↔ ∀ item ∈ items, item.Ordered :=
  ⟨fun | .arr each => each, .arr⟩

@[simp] theorem obj_iff {fields : Fields Json} :
    Ordered (.obj fields) ↔ Fields.Ordered fields ∧ ∀ field ∈ fields, field.2.Ordered :=
  ⟨fun | .obj names each => ⟨names, each⟩, fun ⟨names, each⟩ => .obj names each⟩

/-- The entries of an ordered sequence are ordered. -/
theorem of_mem {items : List Json} (ordered : Ordered (.arr items)) {item : Json}
    (there : item ∈ items) : item.Ordered := by
  cases ordered with
  | arr each => exact each item there

/-- A value that is found at a place of an ordered sequence is ordered. -/
theorem item {items : List Json} (ordered : Ordered (.arr items)) {index : Nat} {value : Json}
    (found : items[index]? = some value) : Ordered value :=
  ordered.of_mem (List.mem_of_getElem? found)

/-- The names of an ordered mapping ascend. -/
theorem fields {fields : Fields Json} (ordered : Ordered (.obj fields)) : Fields.Ordered fields := by
  cases ordered with
  | obj names _ => exact names

/-- The values of an ordered mapping are ordered. -/
theorem value_of_mem {fields : Fields Json} (ordered : Ordered (.obj fields))
    {field : String × Json} (there : field ∈ fields) : Ordered field.2 := by
  cases ordered with
  | obj _ each => exact each field there

/-- A value that is read under a name of an ordered mapping is ordered. -/
theorem field {fields : Fields Json} (ordered : Ordered (.obj fields)) {name : String}
    {value : Json} (read : Fields.get? name fields = some value) : Ordered value :=
  ordered.value_of_mem (Fields.mem_of_get? read)

/-- Whatever a pointer names in an ordered value is ordered. -/
theorem descend? {value place : Json} (ordered : value.Ordered) {tokens : List (List Char)}
    (found : value.descend? tokens = some place) : place.Ordered := by
  induction tokens generalizing value with
  | nil => exact Option.some.inj found ▸ ordered
  | cons token rest ih =>
    -- The first token leads to a field or to an entry, and the rest goes on from there.
    obtain ⟨child, here, below⟩ := Option.bind_eq_some_iff.1 found
    refine ih ?_ below
    cases value with
    | obj fields => exact ordered.field here
    | arr items =>
      obtain ⟨index, -, at_index⟩ := Option.bind_eq_some_iff.1 here
      exact ordered.item at_index
    | null | bool | num | str => cases here

theorem pointer? {value place : Json} (ordered : value.Ordered) {pointer : String}
    (found : value.pointer? pointer = some place) : place.Ordered := by
  unfold Json.pointer? at found
  split at found
  · -- The empty pointer names the whole value.
    exact Option.some.inj found ▸ ordered
  · exact ordered.descend? found
  · cases found

/-- The empty mapping is ordered. -/
theorem obj_nil : Ordered (.obj []) :=
  .obj .nil (by simp)

section

variable {fields : Fields Json} (ordered : Ordered (.obj fields)) (name : String) {value : Json}
include ordered

/-- A mapping stays ordered when an ordered value is put under a name. -/
theorem set (fits : value.Ordered) : Ordered (.obj (Fields.set name value fields)) := by
  -- The fields are the new one and old ones, and their names are put in order.
  refine .obj (ordered.fields.set name value) fun field there => ?_
  rcases Fields.mem_set there with rfl | old
  · exact fits
  · exact ordered.value_of_mem old

/-- A mapping stays ordered when an ordered value is exchanged for another one. -/
theorem replace (fits : value.Ordered) : Ordered (.obj (Fields.replace name value fields)) := by
  -- The names stay as they are, and only one value is another.
  refine .obj (ordered.fields.replace name value) fun field there => ?_
  rcases Fields.mem_replace there with rfl | old
  · exact fits
  · exact ordered.value_of_mem old

/-- A mapping stays ordered when a name is taken out. -/
theorem erase : Ordered (.obj (Fields.erase name fields)) :=
  -- Nothing new comes in, so the values are old ones.
  .obj (ordered.fields.erase name) fun _ there =>
    ordered.value_of_mem ((Fields.erase_sublist name fields).mem there)

end

/-- A mapping of listed values is ordered if the values are. -/
theorem ofFields {entries : List (String × Json)} (each : ∀ entry ∈ entries, entry.2.Ordered) :
    (Json.ofFields entries).Ordered := by
  -- The entries are put one by one into a mapping that is ordered already.
  have general (fields : Fields Json) (ordered : Ordered (.obj fields)) :
      Ordered (.obj (entries.foldl (fun fields (name, value) => Fields.set name value fields)
        fields)) := by
    induction entries generalizing fields with
    | nil => exact ordered
    | cons entry rest ih =>
      rw [List.forall_mem_cons] at each
      exact ih each.2 _ (ordered.set entry.1 each.1)
  exact general [] obj_nil

section

variable {items : List Json} (ordered : Ordered (.arr items))
include ordered

/-- A sequence stays ordered when an ordered value is put at a place. -/
theorem setItem (index : Nat) {value : Json} (fits : value.Ordered) :
    Ordered (.arr (items.set index value)) := by
  -- Each entry is the new one or an old one.
  refine .arr fun item there => ?_
  rcases List.mem_or_eq_of_mem_set there with old | rfl
  · exact ordered.of_mem old
  · exact fits

/-- A sequence stays ordered when an ordered value is put behind the last entry. -/
theorem append {value : Json} (fits : value.Ordered) : Ordered (.arr (items ++ [value])) := by
  refine .arr fun item there => ?_
  rcases List.mem_append.1 there with old | new
  · exact ordered.of_mem old
  · exact List.mem_singleton.1 new ▸ fits

/-- A sequence stays ordered when an entry is taken out. -/
theorem eraseItem (index : Nat) : Ordered (.arr (items.eraseIdx index)) :=
  .arr fun _ there => ordered.of_mem (List.mem_of_mem_eraseIdx there)

end

end Ordered

end Json

end Minigame
