import Minigame.Proofs.Json.Printed
import Minigame.Proofs.Json.Content
import Minigame.Digest

/-!
The byte strings that digests are made of.

They tell what they stand for: a value what it says, by the text of its canonical form, and a list of
parts the parts behind their lengths. A digest tells it as far as the hash tells its inputs apart.
-/

namespace Minigame

/-- A text is told by its bytes. -/
theorem utf8_inj {a b : String} (same : utf8 a = utf8 b) : a = b := by
  -- Bytes are decoded to the text that they were made of.
  rw [← ofUtf8_utf8 a, same, ofUtf8_utf8]

namespace Json

/-- The canonical form of a sequence is that of its values, one by one. -/
theorem canonicalItems_eq (items : List Json) : canonicalItems items = items.map canonical := by
  -- Each entry is made canonical by itself.
  induction items with
  | nil => rfl
  | cons item rest ih => rw [canonicalItems, ih, List.map_cons]

/-- The canonical form of a mapping reads as the canonical form of what is read from the mapping. -/
theorem get?_canonicalFields (name : String) (fields : List (String × Json)) :
    Fields.get? name (canonicalFields fields) = (Fields.get? name fields).map canonical := by
  induction fields with
  | nil => rfl
  | cons field rest ih =>
    obtain ⟨other, value⟩ := field
    rw [canonicalFields]
    -- The first entry under a name is put last, so it is the one that is read.
    by_cases same : name = other
    · subst same
      simp [Fields.get?]
    · -- What is put in front of the rest under another name is not asked for.
      rw [Fields.get?_set_ne same, ih]
      simp [Fields.get?, same]

mutual

/-- Canonical forms list the names of every mapping in ascending order. -/
theorem canonical_ordered : (value : Json) → value.canonical.Ordered
  | .null => .null
  | .bool value => .bool value
  | .num value => .num value
  | .str text => .str text
  | .arr items => .arr (canonicalItems_ordered items)
  | .obj fields => canonicalFields_ordered fields

theorem canonicalItems_ordered : (items : List Json) →
    ∀ item ∈ canonicalItems items, item.Ordered
  | [] => nofun
  | item :: rest =>
    List.forall_mem_cons.2 ⟨canonical_ordered item, canonicalItems_ordered rest⟩

theorem canonicalFields_ordered : (fields : List (String × Json)) →
    Ordered (.obj (canonicalFields fields))
  | [] => .obj_nil
  | (name, value) :: rest => (canonicalFields_ordered rest).set name (canonical_ordered value)

end

/-- The canonical form of a value says what the value says. -/
theorem sameContent_canonical : (value : Json) → SameContent value value.canonical
  | .null => .null
  | .bool value => .bool value
  | .num value => .num value
  | .str text => .str text
  | .arr items => by
    rw [canonical, canonicalItems_eq]
    refine .arr (List.length_map ..).symm fun i a b readA readB => ?_
    -- Entries stand at the places that they had before.
    have there : a ∈ items := List.mem_of_getElem? readA
    obtain rfl : a.canonical = b := by simpa [readA] using readB
    exact sameContent_canonical a
  | .obj fields => by
    rw [canonical]
    refine .obj (fun name => by simp [get?_canonicalFields]) fun name a b readA readB => ?_
    -- What is read from the mapping is one of its values, and so is a smaller value.
    have there : (name, a) ∈ fields := Fields.mem_of_get? readA
    obtain rfl : a.canonical = b := by simpa [get?_canonicalFields, readA] using readB
    exact sameContent_canonical a
termination_by value => sizeOf value
decreasing_by
  · have smaller := List.sizeOf_lt_of_mem there
    simp only [Json.arr.sizeOf_spec]
    omega
  · have smaller := List.sizeOf_lt_of_mem there
    simp only [Json.obj.sizeOf_spec, Prod.mk.sizeOf_spec] at smaller ⊢
    omega

/-- Values have one canonical form exactly if they say the same. -/
theorem canonical_eq_iff {a b : Json} : a.canonical = b.canonical ↔ SameContent a b := by
  have own (value : Json) := sameContent_canonical value
  constructor
  · -- Each of the two says what its canonical form says, and these forms are one value.
    intro same
    exact (own a).trans (same ▸ (own b).symm)
  · -- Canonical forms are documents, which are told by what they say.
    intro same
    exact (((own a).symm.trans same).trans (own b)).eq_of_ordered (canonical_ordered a)
      (canonical_ordered b)

/-- A document that lists the names in order already is its own canonical form. -/
theorem Ordered.canonical_eq {value : Json} (ordered : value.Ordered) : value.canonical = value :=
  (sameContent_canonical value).symm.eq_of_ordered (canonical_ordered value) ordered

end Json

namespace Digest

/-- Digests with the same bytes are the same. -/
theorem eq_of_bytes {a b : Digest} (same : a.bytes = b.bytes) : a = b := by
  cases a
  cases b
  cases same
  rfl

/-- The bytes that stand for a value tell what it says, and nothing else. -/
theorem documentBytes_eq_iff {a b : Json} :
    documentBytes a = documentBytes b ↔ a.SameContent b := by
  rw [← Json.canonical_eq_iff]
  -- The text of a document tells the document, and its bytes tell the text.
  exact ⟨fun same => Json.compact_inj (utf8_inj same),
    fun same => congrArg (fun value : Json => utf8 value.compact) same⟩

@[simp] theorem length_lengthBytes (n : Nat) : (lengthBytes n).length = 8 := by
  simp [lengthBytes]

/-- The lowest bytes tell a number up to a power of 256. -/
theorem mod_eq_of_bytes {m n k : Nat}
    (same : ∀ i < k, (m / 256 ^ i).toUInt8 = (n / 256 ^ i).toUInt8) : m % 256 ^ k = n % 256 ^ k := by
  -- By induction on the bytes, each of which is a digit to the base 256.
  induction k with
  | zero => simp [Nat.mod_one]
  | succ k ih =>
    have byte : m / 256 ^ k % 256 = n / 256 ^ k % 256 := by
      have := congrArg UInt8.toNat (same k (Nat.lt_succ_self k))
      simpa using this
    rw [Nat.mod_pow_succ, Nat.mod_pow_succ, byte, ih fun i inside => same i (by omega)]

/-- A length below `2 ^ 64` is told by its eight bytes. -/
theorem lengthBytes_inj {m n : Nat} (small : m < 2 ^ 64) (smallOther : n < 2 ^ 64)
    (same : lengthBytes m = lengthBytes n) : m = n := by
  have bytes : ∀ i < 8, (m / 256 ^ i).toUInt8 = (n / 256 ^ i).toUInt8 := fun i inside =>
    List.map_inj_left.1 same i (List.mem_range.2 inside)
  have numbers := mod_eq_of_bytes bytes
  -- Eight bytes tell all numbers below `2 ^ 64`.
  omega

/-- Where there is a part, there are the bytes of its length. -/
theorem partsBytes_cons_ne_nil (part : List UInt8) (rest : List (List UInt8)) :
    partsBytes (part :: rest) ≠ [] := fun none => by
  have length := congrArg List.length none
  -- The length alone takes eight bytes.
  simp [partsBytes] at length

/-- Lists of parts are told by their bytes, whatever the numbers of parts are. -/
theorem partsBytes_inj : {a b : List (List UInt8)} → (∀ part ∈ a, part.length < 2 ^ 64) →
    (∀ part ∈ b, part.length < 2 ^ 64) → partsBytes a = partsBytes b → a = b
  | [], [], _, _, _ => rfl
  | [], _ :: _, _, _, same => absurd same.symm (partsBytes_cons_ne_nil _ _)
  | _ :: _, [], _, _, same => absurd same (partsBytes_cons_ne_nil _ _)
  | part :: a, other :: b, small, smallOther, same => by
    rw [List.forall_mem_cons] at small smallOther
    simp only [partsBytes, List.flatMap_cons, List.append_assoc] at same
    -- The length in front says where the first part ends.
    obtain ⟨lengths, parts⟩ := List.append_inj same (by simp)
    obtain ⟨rfl, rest⟩ := List.append_inj parts (lengthBytes_inj small.1 smallOther.1 lengths)
    rw [partsBytes_inj small.2 smallOther.2 rest]

/-- No two of the byte strings have one digest. -/
def Apart (inputs : List (List UInt8)) : Prop :=
  ∀ data ∈ inputs, ∀ other ∈ inputs, compute data = compute other → data = other

end Digest

end Minigame
