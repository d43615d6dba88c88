import Mathlib
import Minigame.Decimal.Layout
import Minigame.Proofs.Decimal.Digits
import Minigame.Proofs.Text.Classes

/-!
The numbers that written decimals stand for.

Whatever the layout is, the text of a decimal spells its number: the zeros that are dropped or filled
in, the point and the exponent make up for each other.
-/

namespace Minigame.Decimal

open Minigame.Text

/-- The number that a decimal stands for. -/
def Scaled.value (d : Scaled) : ℚ :=
  d.digits * 10 ^ d.exponent

/-- The number that digits with the exponent of the first one stand for. -/
def Digits.value (d : Digits) : ℚ :=
  natOfDigits d.digits * 10 ^ (d.exponent - d.digits.length + 1)

/-- The decimal that a text spells: digits with an optional point, then an optional exponent. -/
def readScaled? (text : List Char) : Option Scaled :=
  let whole := text.takeWhile isAsciiDigit
  let rest := text.dropWhile isAsciiDigit
  let (fraction, rest) :=
    match rest with
    | '.' :: rest => (rest.takeWhile isAsciiDigit, rest.dropWhile isAsciiDigit)
    | _ => ([], rest)
  if whole = [] ∧ fraction = [] then none
  else (readExponent? rest).map fun exponent =>
    ⟨natOfDigits (whole ++ fraction), exponent - fraction.length⟩

/-- A decimal literal is the double nearest to the decimal it spells. -/
theorem readDecimal?_eq (text : List Char) :
    readDecimal? text = (readScaled? text).map fun d => toFloat d.digits d.exponent := by
  rw [readDecimal?, readScaled?, apply_ite (Option.map _), Option.map_map]
  rfl

/-- One more digit shifts those in front of it by a place. -/
theorem natOfDigits_concat (front : List Char) (c : Char) :
    natOfDigits (front ++ [c]) = 10 * natOfDigits front + digitValue c := by
  simp [natOfDigits]

/-- Digits behind others shift those by as many places. -/
theorem natOfDigits_append (front back : List Char) :
    natOfDigits (front ++ back) = natOfDigits front * 10 ^ back.length + natOfDigits back := by
  -- By induction from the end, where one more digit is one more factor of ten.
  induction back using List.reverseRecOn with
  | nil => simp [natOfDigits]
  | append_singleton back c ih =>
    rw [← List.append_assoc, natOfDigits_concat, ih, natOfDigits_concat, List.length_append,
      List.length_singleton, Nat.pow_succ]
    ring

/-- Zeros stand for nothing by themselves. -/
theorem natOfDigits_zeros (n : Nat) : natOfDigits (zeros n) = 0 := by
  induction n with
  | zero => rfl
  -- A zero adds nothing and shifts nothing.
  | succ n ih => simpa [natOfDigits, zeros, List.replicate_succ, digitValue] using ih

/-- Zeros behind digits are places of those. -/
theorem natOfDigits_append_zeros (front : List Char) (n : Nat) :
    natOfDigits (front ++ zeros n) = natOfDigits front * 10 ^ n := by
  rw [natOfDigits_append, natOfDigits_zeros, zeros, List.length_replicate, Nat.add_zero]

/-- Zeros are digits. -/
theorem all_zeros (n : Nat) : ∀ c ∈ zeros n, isAsciiDigit c = true := by
  intro c there
  rw [List.eq_of_mem_replicate there]
  rfl

/-- What is dropped at the end of the digits of a decimal is a run of zeros. -/
theorem Scaled.toDigits_zeros (d : Scaled) :
    ∃ n, Nat.toDigits 10 d.digits = d.toDigits.digits ++ zeros n := by
  refine ⟨((Nat.toDigits 10 d.digits).reverse.takeWhile (· = '0')).length, ?_⟩
  -- What is taken from the end are zeros, and nothing but their number matters.
  have run : (Nat.toDigits 10 d.digits).reverse.takeWhile (· = '0')
      = zeros ((Nat.toDigits 10 d.digits).reverse.takeWhile (· = '0')).length :=
    List.eq_replicate_of_mem fun c there => by simpa using List.mem_takeWhile_imp there
  have whole := List.takeWhile_append_dropWhile (p := (· = '0'))
    (l := (Nat.toDigits 10 d.digits).reverse)
  rw [run] at whole
  -- The digits are looked through from their end.
  have turned := congrArg List.reverse whole
  rw [List.reverse_append, List.reverse_reverse, zeros, List.reverse_replicate] at turned
  exact turned.symm

/-- The digits of a decimal, and what they leave out, stand for its number. -/
theorem Scaled.toDigits_value (d : Scaled) : d.toDigits.value = d.value := by
  obtain ⟨n, dropped⟩ := d.toDigits_zeros
  -- The zeros that are dropped multiply the number, and the exponent counts them.
  have number : d.digits = natOfDigits d.toDigits.digits * 10 ^ n := by
    have := natOfDigits_toDigits d.digits
    rw [dropped, natOfDigits_append_zeros] at this
    exact this.symm
  have exponent : d.toDigits.exponent = d.exponent + (d.toDigits.digits.length + n) - 1 := by
    have : (Nat.toDigits 10 d.digits).length = d.toDigits.digits.length + n := by
      rw [dropped, List.length_append, zeros, List.length_replicate]
    change d.exponent + (Nat.toDigits 10 d.digits).length - 1 = _
    omega
  -- The exponents on both sides count the same places.
  have shift : d.toDigits.exponent - d.toDigits.digits.length + 1 = n + d.exponent := by omega
  rw [Digits.value, Scaled.value, shift, zpow_add₀ (by norm_num), zpow_natCast, ← mul_assoc]
  congr 1
  rw [number]
  push_cast
  rfl

section

variable (whole fraction tail : List Char) (wholeDigits : ∀ c ∈ whole, isAsciiDigit c = true)
include wholeDigits

/-- Digits without a point behind them are read as they stand. -/
theorem readScaled?_whole (nonempty : whole ≠ [])
    (stop : ∀ c ∈ tail.head?, isAsciiDigit c = false ∧ c ≠ '.') :
    readScaled? (whole ++ tail)
      = (readExponent? tail).map fun exponent => ⟨natOfDigits whole, exponent⟩ := by
  -- The digits are read up to where they stop.
  obtain ⟨front, back⟩ := cut_front wholeDigits fun c there => (stop c there).1
  rw [readScaled?, front, back]
  -- What stands behind the digits is no point.
  split
  next fraction rest same =>
    split at same
    · -- A point was excluded, and anything else has no fraction.
      exact absurd rfl (stop '.' (by simp)).2
    · obtain ⟨rfl, rfl⟩ := Prod.mk.inj same
      simp [nonempty]

/-- Digits around a point are read together, moved by as many places as stand behind it. -/
theorem readScaled?_point (nonempty : whole ≠ [])
    (fractionDigits : ∀ c ∈ fraction, isAsciiDigit c = true)
    (stop : ∀ c ∈ tail.head?, isAsciiDigit c = false) :
    readScaled? (whole ++ '.' :: (fraction ++ tail))
      = (readExponent? tail).map fun exponent =>
          ⟨natOfDigits (whole ++ fraction), exponent - fraction.length⟩ := by
  -- The digits in front end at the point, and those behind it at the tail.
  have point : ∀ c ∈ ('.' :: (fraction ++ tail)).head?, isAsciiDigit c = false := by
    rintro c ⟨rfl⟩
    rfl
  obtain ⟨front, back⟩ := cut_front wholeDigits point
  obtain ⟨digits, rest⟩ := cut_front fractionDigits stop
  rw [readScaled?, front, back]
  simp only [digits, rest, nonempty, false_and, if_false]

end

/-- A written exponent is read back. -/
theorem readExponent?_written (e : Int) :
    readExponent? ('e' :: (if e < 0 then '-' else '+') :: Nat.toDigits 10 e.natAbs) = some e := by
  -- The size of the exponent is a natural number, which is read back from its digits.
  have read : readDigits? (Nat.toDigits 10 e.natAbs) = some e.natAbs := by
    rw [readDigits?, if_pos ⟨Nat.toDigits_ne_nil,
      List.all_eq_true.2 fun c => isAsciiDigit_of_mem_toDigits⟩, natOfDigits_toDigits]
  -- Each sign is written in front of the size, so reading puts it back.
  by_cases negative : e < 0
  · simp only [readExponent?, negative, if_true, true_or, read]
    change some (-(e.natAbs : Int)) = some e
    rw [show -(e.natAbs : Int) = e by omega]
  · simp only [negative, if_false]
    change (readDigits? (Nat.toDigits 10 e.natAbs)).map Int.ofNat = some e
    rw [read]
    change some (e.natAbs : Int) = some e
    rw [show (e.natAbs : Int) = e by omega]

/-- Digits that can be written: at least one, and nothing else. -/
structure Digits.Plain (d : Digits) : Prop where
  nonempty : d.digits ≠ []
  all : ∀ c ∈ d.digits, isAsciiDigit c = true

/-- The digits of a decimal are digits. -/
theorem Scaled.isAsciiDigit_of_mem {d : Scaled} {c : Char} (there : c ∈ d.toDigits.digits) :
    isAsciiDigit c = true := by
  obtain ⟨n, dropped⟩ := d.toDigits_zeros
  -- All of them are digits of the natural number.
  exact isAsciiDigit_of_mem_toDigits (n := d.digits) (dropped ▸ List.mem_append_left _ there)

/-- The digits of a decimal that is not zero can be written. -/
theorem Scaled.plain_toDigits {d : Scaled} (positive : d.digits ≠ 0) : d.toDigits.Plain := by
  refine ⟨fun none => positive ?_, fun c there => isAsciiDigit_of_mem there⟩
  obtain ⟨n, dropped⟩ := d.toDigits_zeros
  -- Without a digit that is no zero the number would be zero.
  rw [← natOfDigits_toDigits d.digits, dropped, none, List.nil_append, natOfDigits_zeros]

/-- A decimal with more zeros behind its digits, moved back by as many places, is the same number. -/
theorem Digits.value_of_zeros {d : Digits} {s : Scaled} (n : Nat)
    (digits : s.digits = natOfDigits d.digits * 10 ^ n)
    (exponent : s.exponent + n = d.exponent - d.digits.length + 1) : s.value = d.value := by
  -- Both sides have the same power of ten.
  rw [Scaled.value, Digits.value, ← exponent, digits, add_comm, zpow_add₀ (by norm_num),
    zpow_natCast, ← mul_assoc]
  push_cast
  rfl

namespace Digits.Plain

variable {d : Digits} (plain : d.Plain)
include plain

/-- Digits behind the point, after as many zeros as their exponent asks for, are read back. -/
theorem read_behind (small : d.exponent < 0) :
    ∃ s, readScaled? ('0' :: '.' :: (zeros (-d.exponent - 1).toNat ++ d.digits)) = some s
      ∧ s.value = d.value := by
  have digits : ∀ c ∈ zeros (-d.exponent - 1).toNat ++ d.digits, isAsciiDigit c = true :=
    fun c there => (List.mem_append.1 there).elim (all_zeros _ c) (plain.all c)
  have read := readScaled?_point ['0'] _ [] (by simp; rfl) (by simp) digits (by simp)
  rw [List.append_nil] at read
  refine ⟨_, read, value_of_zeros 0 ?number ?places⟩
  case number =>
    have zero (n : Nat) : ['0'] ++ zeros n = zeros (n + 1) := List.replicate_succ.symm
    dsimp only
    rw [← List.append_assoc, natOfDigits_append, zero, natOfDigits_zeros]
    omega
  case places =>
    simp only [List.length_append, zeros, List.length_replicate]
    omega

/-- Digits in front of the point, with zeros in the places up to it, are read back. -/
theorem read_front (layout : Layout) {n : Nat} (fill : d.digits.length + n = d.exponent + 1) :
    ∃ s, readScaled? (d.digits ++ zeros n ++ if layout.pointZero then ['.', '0'] else []) = some s
      ∧ s.value = d.value := by
  have digits : ∀ c ∈ d.digits ++ zeros n, isAsciiDigit c = true :=
    fun c there => (List.mem_append.1 there).elim (plain.all c) (all_zeros _ c)
  have nonempty : d.digits ++ zeros n ≠ [] := by simp [plain.nonempty]
  split
  · -- The zero behind the point is one more digit.
    have read := readScaled?_point _ ['0'] [] digits nonempty (by simp; rfl) (by simp)
    refine ⟨_, read, value_of_zeros (n + 1) ?_ ?_⟩
    · have zero : zeros n ++ ['0'] = zeros (n + 1) := List.replicate_succ'.symm
      rw [List.append_assoc, zero, natOfDigits_append_zeros]
    · simp only [List.length_singleton]
      omega
  · have read := readScaled?_whole _ [] digits nonempty (by simp)
    refine ⟨_, read, value_of_zeros n (natOfDigits_append_zeros _ _) ?_⟩
    dsimp only
    omega

/-- Digits with the point between them are read back. -/
theorem read_around {n : Nat} (some : 0 < n) (count : n = d.exponent + 1)
    (long : n < d.digits.length) :
    ∃ s, readScaled? (d.digits.take n ++ '.' :: d.digits.drop n) = .some s
      ∧ s.value = d.value := by
  have parts := List.take_append_drop n d.digits
  -- Some digits stand in front of the point, and some behind it.
  have nonempty : d.digits.take n ≠ [] := by simp [plain.nonempty, some.ne']
  have read := readScaled?_point _ (d.digits.drop n) []
    (fun c there => plain.all c (List.mem_of_mem_take there)) nonempty
    (fun c there => plain.all c (List.mem_of_mem_drop there)) (by simp)
  rw [List.append_nil, parts] at read
  refine ⟨_, read, value_of_zeros 0 (by simp) ?_⟩
  simp only [List.length_drop]
  omega

/-- A decimal without an exponent is read as its number. -/
theorem read_plain (layout : Layout) :
    ∃ s, readScaled? (layout.plain d) = some s ∧ s.value = d.value := by
  -- The exponent tells where the point stands: in front of the digits, behind or between them.
  unfold Layout.plain
  split
  next small => exact plain.read_behind small
  next large =>
    dsimp only
    split
    next short => exact plain.read_front layout (by omega)
    next long => exact plain.read_around (Nat.succ_pos _) (by omega) (by omega)

/-- A decimal with an exponent is read as its number. -/
theorem read_scientific : ∃ s, readScaled? d.scientific = some s ∧ s.value = d.value := by
  have exponent := readExponent?_written d.exponent
  generalize tail_eq : 'e' :: (if d.exponent < 0 then '-' else '+')
    :: Nat.toDigits 10 d.exponent.natAbs = tail at exponent
  have stop : ∀ c ∈ tail.head?, isAsciiDigit c = false ∧ c ≠ '.' := by simp [← tail_eq]; decide
  have nonempty := plain.nonempty
  have digits := plain.all
  rw [Digits.scientific, tail_eq]
  split
  -- With more digits than one there is a point behind the first one.
  next first second rest several =>
    rw [several, List.forall_mem_cons] at digits
    have read := readScaled?_point [first] _ _ (by simpa using digits.1) (by simp) digits.2
      fun c there => (stop c there).1
    rw [exponent] at read
    refine ⟨_, read, value_of_zeros 0 (by simp [several]) ?_⟩
    simp only [several, List.length_cons]
    omega
  next alone =>
    have read := readScaled?_whole _ _ digits nonempty stop
    rw [exponent] at read
    refine ⟨_, read, value_of_zeros 0 (by simp) ?_⟩
    -- There is one digit, as the other case has been ruled out.
    obtain ⟨first, rest, spelled⟩ := List.exists_cons_of_ne_nil nonempty
    have single : rest = [] := by
      cases rest with
      | nil => rfl
      | cons second rest => exact absurd spelled (alone first second rest)
    simp [spelled, single]

/-- Whatever the layout is, a written decimal is read as its number. -/
theorem read_write (layout : Layout) :
    ∃ s, readScaled? (layout.write d) = some s ∧ s.value = d.value := by
  rw [Layout.write]
  split
  · -- The exponent decides about the form.
    exact plain.read_plain layout
  · exact plain.read_scientific

end Digits.Plain

/-- The text of a magnitude: of a finite value without its sign. -/
def Layout.magnitudeText (layout : Layout) (x : Binary) : List Char :=
  if x.mantissa = 0 then (if layout.pointZero then ['0', '.', '0'] else ['0'])
  else layout.write x.shortest.toDigits

/-- A finite value is written as its magnitude, behind a minus sign if it has one. -/
theorem writeBits_eq (layout : Layout) (format : BinaryFormat) (bits : Nat) :
    layout.writeBits format bits =
      if format.isNegative bits then '-' :: layout.magnitudeText (format.magnitude bits)
      else layout.magnitudeText (format.magnitude bits) :=
  rfl

/-- The characters that numbers are written with. -/
def isNumberChar (c : Char) : Bool :=
  isAsciiDigit c || c = '-' || c = '+' || c = '.' || c = 'e'

/-- The digits are among them. -/
theorem isNumberChar_of_isAsciiDigit {c : Char} (digit : isAsciiDigit c = true) :
    isNumberChar c = true := by
  simp [isNumberChar, digit]

section

variable {layout : Layout} {d : Digits} {c : Char}

/-- A decimal without an exponent is written with the characters of numbers. -/
theorem isNumberChar_of_mem_plain (digits : ∀ c ∈ d.digits, isNumberChar c = true)
    (there : c ∈ layout.plain d) : isNumberChar c = true := by
  have ofZeros {n : Nat} (zero : c ∈ zeros n) : isNumberChar c = true :=
    isNumberChar_of_isAsciiDigit (all_zeros n c zero)
  unfold Layout.plain at there
  split at there
  · -- In front of the first digit that is no zero there are zeros and the point.
    simp only [List.mem_cons, List.mem_append] at there
    rcases there with rfl | rfl | zero | digit
    · rfl
    · rfl
    · exact ofZeros zero
    · exact digits c digit
  · dsimp only at there
    split at there
    · rw [List.mem_append, List.mem_append] at there
      rcases there with (digit | zero) | mark
      · exact digits c digit
      · exact ofZeros zero
      -- A point and a zero may stand behind a whole number.
      · have zero : ∀ c ∈ if layout.pointZero then ['.', '0'] else [], isNumberChar c = true :=
          List.all_eq_true.1 (by cases layout.pointZero <;> rfl)
        exact zero c mark
    · rw [List.mem_append, List.mem_cons] at there
      -- The point stands between two parts of the digits.
      rcases there with front | rfl | back
      · exact digits c (List.mem_of_mem_take front)
      · rfl
      · exact digits c (List.mem_of_mem_drop back)

/-- A decimal with an exponent is written with the characters of numbers. -/
theorem isNumberChar_of_mem_scientific (digits : ∀ c ∈ d.digits, isNumberChar c = true)
    (there : c ∈ d.scientific) : isNumberChar c = true := by
  unfold Digits.scientific at there
  simp only [List.mem_append, List.mem_cons] at there
  -- In front of the letter stand the digits, and behind it a sign and the digits of the exponent.
  rcases there with mantissa | rfl | sign | exponent
  · split at mantissa
    next first second rest several =>
      rw [several] at digits
      rcases List.mem_cons.1 mantissa with rfl | point
      · exact digits c (List.mem_cons_self ..)
      · rcases List.mem_cons.1 point with rfl | back
        · rfl
        · exact digits c (List.mem_cons_of_mem _ back)
    next => exact digits c mantissa
  · rfl
  · -- The sign is one of two.
    split at sign <;> rw [sign] <;> rfl
  · exact isNumberChar_of_isAsciiDigit (isAsciiDigit_of_mem_toDigits exponent)

/-- A magnitude is written with the characters of numbers. -/
theorem isNumberChar_of_mem_magnitudeText {x : Binary} (there : c ∈ layout.magnitudeText x) :
    isNumberChar c = true := by
  have digits : ∀ c ∈ x.shortest.toDigits.digits, isNumberChar c = true :=
    fun c there => isNumberChar_of_isAsciiDigit (Scaled.isAsciiDigit_of_mem there)
  have zero : ∀ c ∈ if layout.pointZero then ['0', '.', '0'] else ['0'], isNumberChar c = true :=
    List.all_eq_true.1 (by cases layout.pointZero <;> rfl)
  unfold Layout.magnitudeText at there
  split at there
  · -- A zero is written in one of two fixed ways.
    exact zero c there
  · unfold Layout.write at there
    split at there
    · exact isNumberChar_of_mem_plain digits there
    · exact isNumberChar_of_mem_scientific digits there

/-- A double is written with the characters of numbers. -/
theorem isNumberChar_of_mem_writeFloat {x : Float} (there : c ∈ layout.writeFloat x) :
    isNumberChar c = true := by
  rw [Layout.writeFloat, writeBits_eq] at there
  split at there
  · -- A minus sign may stand in front.
    rcases List.mem_cons.1 there with rfl | there
    · rfl
    · exact isNumberChar_of_mem_magnitudeText there
  · exact isNumberChar_of_mem_magnitudeText there

/-- A magnitude is written with a point or an exponent, if whole numbers are. -/
theorem exists_mark_magnitudeText (pointZero : layout.pointZero = true) (x : Binary) :
    ∃ c ∈ layout.magnitudeText x, c = '.' ∨ c = 'e' := by
  unfold Layout.magnitudeText Layout.write
  split
  · -- A zero with a point has one.
    exact ⟨'.', by simp, .inl rfl⟩
  split
  · -- Each of the three forms without an exponent has its point.
    refine ⟨'.', ?_, .inl rfl⟩
    unfold Layout.plain
    dsimp only
    rw [if_pos pointZero]
    split_ifs <;> simp
  · -- An exponent is always written behind its letter.
    refine ⟨'e', ?_, .inr rfl⟩
    unfold Digits.scientific
    simp

variable (layout) in
/-- A double is written with a point or an exponent, if whole numbers are. -/
theorem exists_mark_writeFloat (pointZero : layout.pointZero = true) (x : Float) :
    ∃ c ∈ layout.writeFloat x, c = '.' ∨ c = 'e' := by
  obtain ⟨c, there, mark⟩ :=
    exists_mark_magnitudeText pointZero (binary64.magnitude x.toBits.toNat)
  rw [Layout.writeFloat, writeBits_eq]
  split
  · exact ⟨c, List.mem_cons_of_mem _ there, mark⟩
  · exact ⟨c, there, mark⟩

end

end Minigame.Decimal
