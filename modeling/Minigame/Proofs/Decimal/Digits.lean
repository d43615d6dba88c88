import Minigame.Decimal.Reading

/-! Decimal digits and the naturals they stand for: each natural has one spelling without a zero in front. -/

namespace Minigame.Decimal

open Minigame.Text

/-- The ASCII digits are the characters that digits of naturals are written with. -/
theorem isAsciiDigit_eq_isDigit (c : Char) : isAsciiDigit c = c.isDigit := by
  simp [isAsciiDigit, Char.isDigit, Char.le_def]

/-- A digit stands for less than ten. -/
theorem digitValue_lt {c : Char} (digit : isAsciiDigit c = true) : digitValue c < 10 := by
  rw [isAsciiDigit_eq_isDigit, Char.isDigit_iff_toNat] at digit
  have upper : c.toNat ≤ 57 := digit.2
  unfold digitValue
  omega

/-- A digit is written as the value it stands for. -/
theorem digitChar_digitValue {c : Char} (digit : isAsciiDigit c = true) :
    Nat.digitChar (digitValue c) = c := by
  have small := digitValue_lt digit
  rw [isAsciiDigit_eq_isDigit, Char.isDigit_iff_toNat] at digit
  have lower : 48 ≤ c.toNat := digit.1
  -- Both sides are one code point, 48 above the value.
  apply Char.toNat_inj.1
  rw [Nat.toNat_digitChar_of_lt_ten small]
  unfold digitValue
  omega

/-- Only the digit zero stands for zero. -/
theorem digitValue_pos {c : Char} (digit : isAsciiDigit c = true) (different : c ≠ '0') :
    0 < digitValue c := by
  refine Nat.pos_of_ne_zero fun zero => different ?_
  rw [← digitChar_digitValue digit, zero]
  rfl

/-- Reading more digits behind a positive number writes them behind its own. -/
theorem toDigits_foldl {start : Nat} (positive : 0 < start) {digits : List Char}
    (all : ∀ c ∈ digits, isAsciiDigit c = true) :
    Nat.toDigits 10 (digits.foldl (fun value c => 10 * value + digitValue c) start) =
      Nat.toDigits 10 start ++ digits := by
  -- Each digit is written behind those before it, as long as something stands before it.
  induction digits generalizing start with
  | nil => simp
  | cons c rest ih =>
    have digit : isAsciiDigit c = true := all c (List.mem_cons_self ..)
    have small := digitValue_lt digit
    rw [List.foldl_cons, ih (by omega) fun d there => all d (List.mem_cons_of_mem _ there),
      ← Nat.toDigits_append_toDigits (by decide) positive small, Nat.toDigits_of_lt_base small,
      digitChar_digitValue digit, List.append_assoc, List.singleton_append]

/-- Digits that are read are written again, unless a zero stands in front of others. -/
theorem toDigits_natOfDigits {digits : List Char} (nonempty : digits ≠ [])
    (all : ∀ c ∈ digits, isAsciiDigit c = true)
    (plain : digits.head? = some '0' → digits.length = 1) :
    Nat.toDigits 10 (natOfDigits digits) = digits := by
  cases digits with
  | nil => exact absurd rfl nonempty
  | cons c rest =>
    have digit : isAsciiDigit c = true := all c (List.mem_cons_self ..)
    have small := digitValue_lt digit
    have first : natOfDigits (c :: rest) =
        rest.foldl (fun value c => 10 * value + digitValue c) (digitValue c) := by
      simp [natOfDigits]
    by_cases zero : c = '0'
    · -- A zero in front stands alone.
      have alone : rest = [] := by simpa [zero] using plain
      subst alone
      rw [first, List.foldl_nil, Nat.toDigits_of_lt_base small, digitChar_digitValue digit]
    · rw [first, toDigits_foldl (digitValue_pos digit zero)
          fun d there => all d (List.mem_cons_of_mem _ there),
        Nat.toDigits_of_lt_base small, digitChar_digitValue digit, List.singleton_append]

/-- The digits of a natural are read back. -/
@[simp] theorem natOfDigits_toDigits (n : Nat) : natOfDigits (Nat.toDigits 10 n) = n := by
  -- Reading digits is the fold that the library reads them with.
  have spelled := Nat.ofDigitChars_ten_toDigits (n := n)
  rwa [Nat.ofDigitChars_eq_foldl] at spelled

/-- A natural is written with digits. -/
theorem isAsciiDigit_of_mem_toDigits {c : Char} {n : Nat} (written : c ∈ Nat.toDigits 10 n) :
    isAsciiDigit c = true := by
  rw [isAsciiDigit_eq_isDigit]
  exact Nat.isDigit_of_mem_toDigits (by decide) (by decide) written

/-- Only zero is written with a zero in front. -/
theorem eq_zero_of_head?_toDigits {n : Nat} (zero : (Nat.toDigits 10 n).head? = some '0') :
    n = 0 := by
  -- The first digit of a number of more digits is the first digit of its tenth.
  induction n using Nat.strongRecOn with
  | ind n ih =>
    rw [Nat.toDigits_eq_if (by decide)] at zero
    split at zero
    · simpa using zero
    · next large =>
      obtain ⟨first, others, spelled⟩ := List.exists_cons_of_ne_nil (Nat.toDigits_ne_nil (b := 10))
      rw [spelled] at zero
      have := ih (n / 10) (by omega) (by rw [spelled]; simpa using zero)
      omega

/-- The digits of a natural have no zero in front of others. -/
theorem length_toDigits_of_head? {n : Nat} (zero : (Nat.toDigits 10 n).head? = some '0') :
    (Nat.toDigits 10 n).length = 1 := by
  rw [eq_zero_of_head?_toDigits zero]
  rfl

/-- Where no sign stands in front nothing is dropped. -/
theorem dropPlus_of_head? {text : List Char} (unsigned : text.head? ≠ some '+') :
    dropPlus text = text := by
  -- A sign that could be dropped would be the first character.
  cases text with
  | nil => rfl
  | cons c rest =>
    unfold dropPlus
    split
    · simp_all
    · rfl

/-- A text with neither a sign nor a zero in front reads as a natural exactly if it is its spelling. -/
theorem readUnsigned?_eq_some_iff {bits : Nat} {text : List Char} {n : Nat}
    (unsigned : text.head? ≠ some '+') (plain : text.head? = some '0' → text.length = 1) :
    readUnsigned? bits text = some n ↔ text = Nat.toDigits 10 n ∧ n < 2 ^ bits := by
  rw [readUnsigned?, dropPlus_of_head? unsigned, readDigits?]
  constructor
  · intro read
    split at read
    · next digits =>
      obtain ⟨value, small⟩ := Option.filter_eq_some_iff.1 read
      obtain rfl : natOfDigits text = n := by simpa using value
      refine ⟨(toDigits_natOfDigits digits.1 ?_ plain).symm, by simpa using small⟩
      simpa using digits.2
    · cases read
  · rintro ⟨rfl, small⟩
    -- What is written is a text of digits, and its value is the number.
    have digits : (Nat.toDigits 10 n).all isAsciiDigit = true :=
      List.all_eq_true.2 fun c => isAsciiDigit_of_mem_toDigits
    rw [if_pos ⟨Nat.toDigits_ne_nil, digits⟩, natOfDigits_toDigits]
    simpa using small

end Minigame.Decimal
