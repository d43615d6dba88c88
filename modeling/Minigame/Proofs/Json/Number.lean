import Minigame.Proofs.Decimal.Nearest
import Minigame.Json.View

/-!
The numbers that documents state, and the floats that are read of them.

A number stands under the first of several keys that has one. A whole number is read as itself, and
one that is stated in thousands is read so near that rounding gives it back.
-/

namespace Minigame

open Minigame.Text Minigame.Decimal Minigame.Rounding

namespace Json

/-- The number that a value stands for exactly: a number, or a text of digits. -/
def rational? : Json → Option ℚ
  | .num (.int n) => some n
  | .num (.double x) => number? x
  | .str text => literalValue? (trimChars text.toList)
  | _ => none

section

variable {value : Json}

/-- A whole number below `2 ^ 53` is its own float. -/
theorem readAs_toFloat {n : ℕ} (small : n < 2 ^ 53) : ReadAs n.toUInt64.toFloat n := by
  -- Zero is a float, and any other whole number of this size is one, too.
  rcases Nat.eq_zero_or_pos n with rfl | positive
  · exact readAs_zero .positive rfl
  · have size := hasSize_toFloat positive small
    exact ⟨n, size, size.rounds⟩

/-- A value that stands for a number in reach is read as a float that the number is rounded to. -/
theorem asNumber?_readAs {v : ℚ} (stands : value.rational? = some v) (nonneg : 0 ≤ v)
    (small : v < 2 ^ 53) (reach : v = 0 ∨ InReach v) :
    ∃ x, value.asNumber? = some x ∧ ReadAs x v := by
  cases value with
  | num number =>
    cases number with
    | int n =>
      -- An integer that is not negative is converted as an unsigned one.
      obtain rfl := Option.some.inj stands
      obtain ⟨k, rfl⟩ := Int.eq_ofNat_of_zero_le (by exact_mod_cast nonneg : 0 ≤ n)
      exact ⟨k.toUInt64.toFloat, rfl, readAs_toFloat (by exact_mod_cast small)⟩
    | double x =>
      -- A double is read as it is.
      have size := hasSize_of_number? stands nonneg
      exact ⟨x, rfl, v, size, size.rounds⟩
  -- A text is read as the number that it spells.
  | str text => exact readFloat?_readAs stands nonneg reach
  | _ => cases stands

/-- A value that stands for no number is not read as a finite float. -/
theorem isFinite_of_no_number {x : Float} (none : value.rational? = none)
    (read : value.asNumber? = some x) : x.isFinite = false := by
  cases value with
  | num number =>
    cases number with
    | int n => cases none
    | double y =>
      -- A double that stands for no number is not finite.
      obtain rfl : y = x := Option.some.inj read
      rw [← number?_isSome, show number? y = .none from none, Option.isSome_none]
  -- A text that spells no number is read as no finite float.
  | str text => exact isFinite_of_no_literal none read
  | _ => cases read

end

section

variable {doc : Json} {pointer : String}

/-- A number in reach that is stated at a pointer is read there. -/
theorem numberAt?_readAs {v : ℚ} (stated : (doc.pointer? pointer).bind rational? = some v)
    (nonneg : 0 ≤ v) (small : v < 2 ^ 53) (reach : v = 0 ∨ InReach v) :
    ∃ x, doc.numberAt? pointer = some x ∧ ReadAs x v := by
  -- The value is there, and it is read as a float.
  obtain ⟨value, found, stands⟩ := Option.bind_eq_some_iff.1 stated
  obtain ⟨x, read, reads⟩ := asNumber?_readAs stands nonneg small reach
  -- Only finite floats are read, and what has a size is finite.
  have finite : x.isFinite = true := by
    obtain ⟨w, size, -⟩ := reads
    exact size.isFinite
  refine ⟨x, ?_, reads⟩
  rw [numberAt?, found, Option.bind_some, read, Option.filter_some, if_pos finite]

/-- Where no number is stated, none is read. -/
theorem numberAt?_eq_none (unstated : (doc.pointer? pointer).bind rational? = none) :
    doc.numberAt? pointer = none := by
  rw [numberAt?, Option.filter_eq_none_iff]
  intro x read
  -- What was read would be a number, as it is finite.
  obtain ⟨value, found, stands⟩ := Option.bind_eq_some_iff.1 read
  rw [found, Option.bind_some] at unstated
  simp [isFinite_of_no_number unstated stands]

end

end Json

/-- A float that is not negative and less than a half away from a whole number. -/
def NearWhole (x : Float) (n : ℕ) : Prop :=
  ∃ u, HasSize x.toModel.unpack u ∧ |u - n| < 1 / 2

/-- A float that a whole number is read as is the number. -/
theorem Decimal.ReadAs.nearWhole {x : Float} {n : ℕ} (reads : ReadAs x n) (small : n < 2 ^ 53) :
    NearWhole x n := by
  have size : HasSize x.toModel.unpack n := by
    -- Zero has a size of its own, and any other whole number is the size of its float.
    rcases Nat.eq_zero_or_pos n with rfl | positive
    · exact reads.hasSize (by exact_mod_cast HasSize.zero .positive)
    · exact reads.hasSize (hasSize_toFloat positive small)
  exact ⟨n, size, by simp⟩

/-- The factor of numbers that are stated in thousands. -/
theorem thousand_size : HasSize (1000.0 : Float).toModel.unpack 1000 := by
  -- The literal and the converted number have the same bits.
  have same : (1000.0 : Float) = (1000 : ℕ).toUInt64.toFloat := by decide +kernel
  -- A thousand is a whole number that can be a float.
  rw [same]
  exact_mod_cast hasSize_toFloat (n := 1000) (by norm_num) (by norm_num)

/-- A number of thousands is read and multiplied so exactly that rounding gives the whole number back. -/
theorem Decimal.ReadAs.thousands {x : Float} {v : ℚ} {n : ℕ} (reads : ReadAs x v) (whole : v * 1000 = n)
    (small : n < 2 ^ 40) : NearWhole (x * 1000.0) n := by
  rcases Nat.eq_zero_or_pos n with rfl | positive
  · -- A zero is read as zero, and the product of a zero is zero.
    obtain rfl : v = 0 := by simpa using whole
    obtain ⟨p, product, second⟩ := mul_size (reads.hasSize (HasSize.zero .positive)) thousand_size
    rw [zero_mul] at second
    have none : p = 0 := second.unique (HasSize.zero .positive).rounds
    exact ⟨p, pack_size product (by norm_num [none]), by norm_num [none]⟩
  · -- The number is rounded when it is read, and its thousandfold again.
    obtain ⟨w, read, first⟩ := reads
    obtain ⟨p, product, second⟩ := mul_size read thousand_size
    have bound : (n : ℚ) < 2 ^ 40 := by exact_mod_cast small
    have least : (1 : ℚ) ≤ n := by exact_mod_cast positive
    have tiny : (2 : ℚ) ^ (-1022 : ℤ) ≤ 1 / 2000 := by
      calc (2 : ℚ) ^ (-1022 : ℤ) ≤ 2 ^ (-11 : ℤ) :=
            zpow_le_zpow_right₀ (by norm_num) (by norm_num)
        _ ≤ 1 / 2000 := by norm_num
    -- Each of the two roundings is off by a part in `2 ^ 53` of its number at most.
    have readNear := abs_le.1 (first.near (by linarith))
    norm_num at readNear
    have productNear := abs_le.1 (second.near (by linarith))
    norm_num at productNear
    have near : |p - n| < 1 / 2 := by
      -- Together the two roundings are off by far less than a half.
      rw [abs_lt]
      constructor <;> linarith
    -- Nor does the product come near the greatest float.
    have fits : p < 2 ^ 1024 := by
      have below : p < 2 ^ 41 := by
        norm_num
        linarith [(abs_lt.1 near).2]
      exact below.trans (pow_lt_pow_right₀ (by norm_num) (by norm_num))
    exact ⟨p, pack_size product fits, near⟩

/-- A place where a number may be stated, in units or in thousands of them. -/
inductive NumberKey where
  | units (pointer : String)
  | thousands (pointer : String)

namespace NumberKey

/-- The float that is read under a key. -/
def read? (doc : Json) : NumberKey → Option Float
  | units pointer => doc.numberAt? pointer
  | thousands pointer => (doc.numberAt? pointer).map (· * 1000.0)

/-- The number that is stated under a key. -/
def stated? (doc : Json) : NumberKey → Option ℚ
  | units pointer => (doc.pointer? pointer).bind Json.rational?
  | thousands pointer => ((doc.pointer? pointer).bind Json.rational?).map (· * 1000)

section

variable {doc : Json} {key : NumberKey}

/-- Where no number is stated under a key, none is read. -/
theorem read?_eq_none (unstated : key.stated? doc = none) : key.read? doc = none := by
  cases key with
  | units pointer => exact Json.numberAt?_eq_none unstated
  | thousands pointer =>
    -- What is not read cannot be multiplied.
    rw [read?, Json.numberAt?_eq_none (Option.map_eq_none_iff.1 unstated), Option.map_none]

/-- A whole number that is stated under a key is read so near that rounding gives it back. -/
theorem read?_near {n : ℕ} (stated : key.stated? doc = some (n : ℚ)) (small : n < 2 ^ 40) :
    ∃ x, key.read? doc = some x ∧ NearWhole x n := by
  have bound : (n : ℚ) < 2 ^ 40 := by exact_mod_cast small
  -- Whole numbers do not come close to zero without being it.
  have least : n = 0 ∨ (1 : ℚ) ≤ n := by
    rcases Nat.eq_zero_or_pos n with rfl | positive
    · exact .inl rfl
    · exact .inr (by exact_mod_cast positive)
  cases key with
  | units pointer =>
    -- A whole number is zero or at least one.
    have reach : (n : ℚ) = 0 ∨ InReach n :=
      least.imp (fun none => by simp [none]) fun one =>
        ⟨le_trans (by norm_num) one, le_trans bound.le (by norm_num)⟩
    obtain ⟨x, read, reads⟩ :=
      Json.numberAt?_readAs stated (Nat.cast_nonneg n) (by linarith) reach
    exact ⟨x, read, reads.nearWhole (by omega)⟩
  | thousands pointer =>
    -- With its thousandth a number is in reach as well.
    obtain ⟨v, found, whole⟩ := Option.map_eq_some_iff.1 stated
    have reach : v = 0 ∨ InReach v :=
      least.imp (fun none => by simpa [none] using whole) fun one => by
        constructor <;> norm_num <;> linarith
    obtain ⟨x, read, reads⟩ :=
      Json.numberAt?_readAs found (by linarith [Nat.cast_nonneg (α := ℚ) n]) (by linarith) reach
    refine ⟨x * 1000.0, ?_, reads.thousands whole small⟩
    rw [read?, read, Option.map_some]

end

end NumberKey

/-- The first number that is read under one of some keys. -/
def firstRead? (doc : Json) (keys : List NumberKey) : Option Float :=
  keys.findSome? (·.read? doc)

@[simp] theorem firstRead?_nil (doc : Json) : firstRead? doc [] = none :=
  rfl

@[simp] theorem firstRead?_cons (doc : Json) (key : NumberKey) (rest : List NumberKey) :
    firstRead? doc (key :: rest) = (key.read? doc <|> firstRead? doc rest) := by
  rw [firstRead?, firstRead?, List.findSome?_cons]
  cases key.read? doc <;> rfl

/-- The first number that is stated under one of some keys. -/
def firstStated? (doc : Json) (keys : List NumberKey) : Option ℚ :=
  keys.findSome? (·.stated? doc)

/-- A whole number that is stated first is also read first. -/
theorem firstRead?_near {doc : Json} {keys : List NumberKey} {n : ℕ}
    (stated : firstStated? doc keys = some (n : ℚ)) (small : n < 2 ^ 40) :
    ∃ x, firstRead? doc keys = some x ∧ NearWhole x n := by
  induction keys with
  | nil => cases stated
  | cons key rest ih =>
    rw [firstStated?, List.findSome?_cons] at stated
    rw [firstRead?, List.findSome?_cons]
    split at stated
    next v here =>
      obtain rfl := Option.some.inj stated
      obtain ⟨x, read, near⟩ := NumberKey.read?_near here small
      exact ⟨x, by rw [read], near⟩
    next nowhere =>
      -- What is not stated under this key is not read under it either.
      rw [NumberKey.read?_eq_none nowhere]
      exact ih stated

/-- The whole number that a document gives under some keys, by what it states or by what is read. -/
def Json.Gives (doc : Json) (keys : List NumberKey) (n : ℕ) : Prop :=
  firstStated? doc keys = some (n : ℚ) ∨ (firstRead? doc keys).bind number? = some (n : ℚ)

/-- A number that a document gives is read so near that rounding gives it back. -/
theorem Json.Gives.near {doc : Json} {keys : List NumberKey} {n : ℕ} (gives : doc.Gives keys n)
    (small : n < 2 ^ 40) : ∃ x, firstRead? doc keys = some x ∧ NearWhole x n := by
  rcases gives with stated | read
  · exact firstRead?_near stated small
  · obtain ⟨x, found, stands⟩ := Option.bind_eq_some_iff.1 read
    exact ⟨x, found, n, hasSize_of_number? stands (Nat.cast_nonneg n), by simp⟩

/-- A number that a document gives in a range is used as it is. -/
theorem clamped_of_gives {doc : Json} {keys : List NumberKey} {n low high : ℕ}
    (gives : doc.Gives keys n) (within : low ≤ n ∧ n ≤ high) (most : high < 2 ^ 40)
    (default : ℕ) : clamped (firstRead? doc keys) default low high = n := by
  obtain ⟨x, read, u, size, near⟩ := gives.near (within.2.trans_lt most)
  rw [read]
  change clampRounded low high x = n
  rw [clampRounded_of_near size near]
  omega

end Minigame
