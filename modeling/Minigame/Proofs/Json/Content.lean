import Minigame.Proofs.Json.Order

/-!
What a document says, whatever the order is in which its mappings list their names.

Documents list them in ascending order, so that a document is told by what it says.
-/

namespace Minigame.Json

/-- Two values say the same: their mappings have the same names, with the same behind them. -/
inductive SameContent : Json → Json → Prop where
  | null : SameContent .null .null
  | bool (value : Bool) : SameContent (.bool value) (.bool value)
  | num (value : Number) : SameContent (.num value) (.num value)
  | str (text : String) : SameContent (.str text) (.str text)
  | arr {items others : List Json} (count : items.length = others.length)
    (each : ∀ (i : Nat) (a b : Json), items[i]? = some a → others[i]? = some b → SameContent a b) :
    SameContent (.arr items) (.arr others)
  | obj {fields others : Fields Json}
    (names : ∀ name, (Fields.get? name fields).isSome = (Fields.get? name others).isSome)
    (each : ∀ (name : String) (a b : Json), Fields.get? name fields = some a →
      Fields.get? name others = some b → SameContent a b) :
    SameContent (.obj fields) (.obj others)

namespace SameContent

/-- A value says the same as itself. -/
theorem refl : (value : Json) → SameContent value value
  | .null => .null
  | .bool value => .bool value
  | .num value => .num value
  | .str text => .str text
  | .arr items => .arr rfl fun i a b readA readB => by
    -- Each entry is compared with itself.
    obtain rfl : a = b := Option.some.inj (readA.symm.trans readB)
    have there : a ∈ items := List.mem_of_getElem? readA
    exact refl a
  | .obj fields => .obj (fun _ => rfl) fun name a b readA readB => by
    obtain rfl : a = b := Option.some.inj (readA.symm.trans readB)
    have there : (name, a) ∈ fields := Fields.mem_of_get? readA
    exact refl a
termination_by value => sizeOf value
-- Entries and fields are smaller than the value that holds them.
decreasing_by
  · have smaller := List.sizeOf_lt_of_mem there
    simp only [Json.arr.sizeOf_spec]
    omega
  · have smaller := List.sizeOf_lt_of_mem there
    simp only [Json.obj.sizeOf_spec, Prod.mk.sizeOf_spec] at smaller ⊢
    omega

/-- What two values say alike they say alike the other way round. -/
theorem symm {a b : Json} (same : SameContent a b) : SameContent b a := by
  induction same with
  | null => exact .null
  | bool value => exact .bool value
  | num value => exact .num value
  | str text => exact .str text
  -- Both directions ask for one length and for entries that say the same.
  | arr count each ih => exact .arr count.symm fun i a b readA readB => ih i b a readB readA
  | obj names each ih =>
    exact .obj (fun name => (names name).symm) fun name a b readA readB => ih name b a readB readA

/-- Two values that say the same as a third one say the same. -/
theorem trans {a b c : Json} (first : SameContent a b) (second : SameContent b c) :
    SameContent a c := by
  -- The value in the middle has an entry wherever the other two have one.
  induction first generalizing c with
  | null | bool | num | str => exact second
  | @arr items others count each ih =>
    cases second with
    | arr countOther eachOther =>
      refine .arr (count.trans countOther) fun i a c readA readC => ?_
      obtain ⟨inside, -⟩ := List.getElem?_eq_some_iff.1 readA
      -- The sequence in the middle is as long as the first one.
      have readB : others[i]? = some others[i] := List.getElem?_eq_getElem (by omega)
      exact ih i a _ readA readB (eachOther i _ c readB readC)
  | @obj fields others names each ih =>
    cases second with
    | obj namesOther eachOther =>
      refine .obj (fun name => (names name).trans (namesOther name)) fun name a c readA readC => ?_
      -- The mapping in the middle has the name of the first one.
      have there : (Fields.get? name others).isSome = true := by rw [← names name, readA]; rfl
      obtain ⟨b, readB⟩ := Option.isSome_iff_exists.1 there
      exact ih name a b readA readB (eachOther name b c readB readC)

/-- Documents that say the same are equal. -/
theorem eq_of_ordered {a b : Json} (same : SameContent a b) (orderedA : a.Ordered)
    (orderedB : b.Ordered) : a = b := by
  -- By induction on what they say, place by place and name by name.
  induction same with
  | null | bool | num | str => rfl
  | @arr items others count each ih =>
    congr 1
    refine List.ext_getElem? fun i => ?_
    cases readA : items[i]? with
    -- Behind the end of the one there is nothing in the other either.
    | none =>
      rw [List.getElem?_eq_none_iff] at readA
      exact (List.getElem?_eq_none (by omega)).symm
    | some a =>
      obtain ⟨inside, -⟩ := List.getElem?_eq_some_iff.1 readA
      have readB : others[i]? = some others[i] := List.getElem?_eq_getElem (by omega)
      rw [readB, ih i a others[i] readA readB (orderedA.item readA) (orderedB.item readB)]
  | @obj fields others names each ih =>
    congr 1
    -- Both mappings list their names in ascending order, so equal entries are in equal places.
    refine orderedA.fields.ext orderedB.fields fun name => ?_
    have both := names name
    cases readA : Fields.get? name fields <;> cases readB : Fields.get? name others <;>
      rw [readA, readB] at both
    -- A name that is in one mapping alone is excluded.
    case obj.none.some => cases both
    case obj.some.none => cases both
    case obj.some.some a b =>
      -- Under a common name the values say the same, and they are documents.
      rw [ih name a b readA readB (orderedA.field readA) (orderedB.field readB)]

/-- Documents are equal exactly if they say the same. -/
theorem iff_eq {a b : Json} (orderedA : a.Ordered) (orderedB : b.Ordered) :
    SameContent a b ↔ a = b :=
  ⟨fun same => same.eq_of_ordered orderedA orderedB, fun same => same ▸ refl a⟩

end SameContent

end Minigame.Json
