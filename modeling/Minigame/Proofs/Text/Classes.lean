import Minigame.Text.Pattern

/-!
Classes of characters: white space, digits and letters apart from each other, and texts cut where a
class ends.
-/

namespace Minigame.Text

/-- A code point in a table lies in one of its ranges. -/
theorem exists_range {ranges : List (Nat × Nat)} {code : Nat} (inside : inRanges ranges code = true) :
    ∃ range ∈ ranges, range.1 ≤ code ∧ code ≤ range.2 := by
  -- A table ascends, so a code point in front of a range is in none of the later ones.
  induction ranges with
  | nil => cases inside
  | cons range ranges ih =>
    obtain ⟨low, high⟩ := range
    unfold inRanges at inside
    split at inside
    · cases inside
    · split at inside
      · next above below => exact ⟨(low, high), .head _, Nat.le_of_not_lt above, below⟩
      · obtain ⟨range, there, within⟩ := ih inside
        exact ⟨range, .tail _ there, within⟩

/-- What holds at every step into the ranges of a table holds of all that are in it. -/
theorem forall_inRanges {ranges : List (Nat × Nat)} (holds : Nat → Prop)
    (table : ∀ range ∈ ranges, ∀ step ≤ range.2 - range.1, holds (range.1 + step)) {code : Nat}
    (inside : inRanges ranges code = true) : holds code := by
  -- A code in a range lies a step behind its beginning.
  obtain ⟨range, there, low, high⟩ := exists_range inside
  have offset := table range there (code - range.1) (by omega)
  rwa [Nat.add_sub_cancel' low] at offset

/-- Whether each range of an ascending table lies in one of another table. -/
def rangesWithin : List (Nat × Nat) → List (Nat × Nat) → Bool
  | inner, [] => inner.isEmpty
  | inner, (low, high) :: outer =>
    -- The ranges that are left begin behind the outer one, or none are left.
    match inner.dropWhile fun range => low ≤ range.1 && range.2 ≤ high with
    | [] => true
    | (next, last) :: inner => low ≤ high && high < next && rangesWithin ((next, last) :: inner) outer

/-- A code point in a table lies in a given range, or in those of the table that the range leaves. -/
theorem inRanges_dropWhile {ranges : List (Nat × Nat)} {code : Nat}
    (inside : inRanges ranges code = true) (low high : Nat) :
    low ≤ code ∧ code ≤ high
      ∨ inRanges (ranges.dropWhile fun range => low ≤ range.1 && range.2 ≤ high) code = true := by
  induction ranges with
  | nil => cases inside
  | cons range ranges ih =>
    obtain ⟨first, last⟩ := range
    rw [List.dropWhile_cons]
    split
    · next within =>
      -- A range that is left out lies in the given one, and so does a code point in it.
      simp only [Bool.and_eq_true, decide_eq_true_eq] at within
      unfold inRanges at inside
      split at inside
      · cases inside
      · split at inside
        · exact .inl (by omega)
        · exact ih inside
    · exact .inr inside

theorem le_of_inRanges_cons {ranges : List (Nat × Nat)} {low high code : Nat}
    (inside : inRanges ((low, high) :: ranges) code = true) : low ≤ code := by
  unfold inRanges at inside
  split at inside
  · cases inside
  · omega

/-- What is in a table is in every table that it lies in. -/
theorem inRanges_of_rangesWithin {inner outer : List (Nat × Nat)}
    (within : rangesWithin inner outer = true) {code : Nat} (inside : inRanges inner code = true) :
    inRanges outer code = true := by
  induction outer generalizing inner with
  | nil =>
    rw [rangesWithin, List.isEmpty_iff] at within
    rw [within] at inside
    cases inside
  | cons range outer ih =>
    obtain ⟨low, high⟩ := range
    rw [inRanges]
    -- The code lies in the outer range, or in one of those that it does not hold.
    rcases inRanges_dropWhile inside low high with here | later
    · rw [if_neg (by omega), if_pos here.2]
    · rw [rangesWithin] at within
      split at within
      · -- No ranges are left, so the code point cannot be in one of them.
        next left => rw [left] at later; cases later
      · next next last inner left =>
        simp only [Bool.and_eq_true, decide_eq_true_eq] at within
        rw [left] at later
        -- What is left of the inner table begins behind the outer range.
        have behind := le_of_inRanges_cons later
        rw [if_neg (by omega), if_neg (by omega)]
        exact ih within.2 later

/-- Digits are part of words. -/
theorem isWordChar_of_isDecimalDigit {c : Char} (digit : isDecimalDigit c = true) :
    isWordChar c = true :=
  inRanges_of_rangesWithin (by decide +kernel) digit

theorem isDecimalDigit_of_isAsciiDigit {c : Char} (digit : isAsciiDigit c = true) :
    isDecimalDigit c = true := by
  simp only [isAsciiDigit, Bool.and_eq_true, decide_eq_true_eq] at digit
  -- The first range of the table is that of the ASCII digits.
  have low : 48 ≤ c.toNat := digit.1
  have high : c.toNat ≤ 57 := digit.2
  rw [isDecimalDigit, decimalDigitRanges, inRanges, if_neg (by omega), if_pos (by omega)]

/-- White space is not part of words. -/
theorem isWordChar_of_isBlank {c : Char} (blank : isBlank c = true) : isWordChar c = false :=
  forall_inRanges (fun code => inRanges wordRanges code = false) (by decide +kernel) blank

/-- What is part of words is no white space. -/
theorem isBlank_of_isWordChar {c : Char} (word : isWordChar c = true) : isBlank c = false :=
  Bool.eq_false_iff.2 fun blank => by simp [isWordChar_of_isBlank blank] at word

/-- White space is no digit. -/
theorem isDecimalDigit_of_isBlank {c : Char} (blank : isBlank c = true) :
    isDecimalDigit c = false := by
  -- Digits are part of words, and white space is not.
  refine Bool.eq_false_iff.2 fun digit => ?_
  have word := isWordChar_of_isDecimalDigit digit
  rw [isWordChar_of_isBlank blank] at word
  cases word

/-- An ASCII character counts as its lower case where case does not matter. -/
theorem foldLetter_of_ascii {c : Char} (ascii : c.toNat < 128) :
    Pattern.foldLetter c = asciiLowerChar c := by
  rw [Pattern.foldLetter, if_neg, if_neg]
  · -- Neither the long s nor the sign of the kelvin is ASCII.
    rintro rfl
    exact absurd ascii (by decide)
  · rintro rfl
    exact absurd ascii (by decide)

theorem toNat_lt_of_isAsciiLetter {c : Char} (letter : isAsciiLetter c = true) : c.toNat < 128 := by
  simp only [isAsciiLetter, Bool.or_eq_true, Bool.and_eq_true, decide_eq_true_eq] at letter
  exact letter.elim (fun lower => Nat.lt_of_le_of_lt lower.2 (by decide))
    fun upper => Nat.lt_of_le_of_lt upper.2 (by decide)

/-- A form of an ASCII letter, where case does not matter. -/
def isLetter (c : Char) : Bool :=
  isAsciiLetter (Pattern.foldLetter c)

/-- What holds of the ASCII characters, the long s and the sign of the kelvin holds of all letters. -/
theorem forall_isLetter (holds : Char → Prop)
    (ascii : ∀ code < 128, isLetter (Char.ofNat code) = true → holds (Char.ofNat code))
    (long : holds 'ſ') (kelvin : holds '\u212a') {c : Char} (letter : isLetter c = true) :
    holds c := by
  by_cases isLong : c = 'ſ'
  · exact isLong ▸ long
  by_cases isKelvin : c = '\u212a'
  · exact isKelvin ▸ kelvin
  -- All other letters are ASCII, where folding is lower case.
  have small : c.toNat < 128 := by
    have folded := letter
    rw [isLetter, Pattern.foldLetter, if_neg isLong, if_neg isKelvin, asciiLowerChar] at folded
    split at folded
    · next upper => exact Nat.lt_of_le_of_lt upper.2 (by decide)
    · exact toNat_lt_of_isAsciiLetter folded
  have named := ascii c.toNat small
  rw [Char.ofNat_toNat] at named
  exact named letter

/-- Letters are part of words. -/
theorem isWordChar_of_isLetter {c : Char} (letter : isLetter c = true) : isWordChar c = true :=
  forall_isLetter (isWordChar · = true) (by decide) (by decide) (by decide +kernel) letter

/-- Letters are no digits. -/
theorem isDecimalDigit_of_isLetter {c : Char} (letter : isLetter c = true) :
    isDecimalDigit c = false :=
  forall_isLetter (isDecimalDigit · = false) (by decide) (by decide) (by decide) letter

/-- The front of a text is cut off where its characters end. -/
theorem cut_front {p : Char → Bool} {front tail : List Char} (all : ∀ c ∈ front, p c = true)
    (stop : ∀ c ∈ tail.head?, p c = false) :
    (front ++ tail).takeWhile p = front ∧ (front ++ tail).dropWhile p = tail := by
  rw [List.takeWhile_append_of_pos all, List.dropWhile_append_of_pos all]
  cases tail with
  | nil => simp
  | cons c rest => simp [stop c rfl]

/-- Where a class of characters ends, a text can be cut in one way only. -/
theorem cut_unique {p : Char → Bool} {front other tail otherTail : List Char}
    (same : front ++ tail = other ++ otherTail) (all : ∀ c ∈ front, p c = true)
    (otherAll : ∀ c ∈ other, p c = true) (stop : ∀ c ∈ tail.head?, p c = false)
    (otherStop : ∀ c ∈ otherTail.head?, p c = false) : front = other ∧ tail = otherTail := by
  -- Both fronts are the longest run of the class in one text.
  obtain ⟨taken, left⟩ := cut_front all stop
  obtain ⟨otherTaken, otherLeft⟩ := cut_front otherAll otherStop
  rw [same] at taken left
  exact ⟨taken.symm.trans otherTaken, left.symm.trans otherLeft⟩

end Minigame.Text
