import Minigame.Power
import Minigame.Text.Range

/-! Hexadecimal digits: written ones tell a number up to a power of sixteen. -/

namespace Minigame.Text

/-- The digit of a value below sixteen, in lower case. -/
def hexDigitChar (n : Nat) : Char :=
  if n < 10 then Char.ofNat (48 + n) else Char.ofNat (87 + n)

/-- The last digits of a number in base sixteen, as many as asked for. -/
def hexDigits : Nat → Nat → List Char
  | 0, _ => []
  | count + 1, n => hexDigits count (n / 16) ++ [hexDigitChar (n % 16)]

/-- Values below sixteen have different digits. -/
theorem hexDigitChar_inj {m n : Nat} (m_lt : m < 16) (n_lt : n < 16)
    (same : hexDigitChar m = hexDigitChar n) : m = n := by
  -- Sixteen digits are few enough to compare each with each.
  have apart : ∀ m < 16, ∀ n < 16, hexDigitChar m = hexDigitChar n → m = n := by decide
  exact apart m m_lt n n_lt same

@[simp] theorem length_hexDigits (count n : Nat) : (hexDigits count n).length = count := by
  induction count generalizing n with
  | zero => rfl
  | succ count ih => simp [hexDigits, ih]

/-- As many digits as there are tell a number up to a power of sixteen. -/
theorem mod_eq_of_hexDigits {count m n : Nat} (same : hexDigits count m = hexDigits count n) :
    m % 16 ^ count = n % 16 ^ count := by
  -- By induction on the digits, the last of which is the remainder by sixteen.
  induction count generalizing m n with
  | zero => simp [Nat.mod_one]
  | succ count ih =>
    obtain ⟨front, last⟩ := List.append_inj same (by simp)
    have digit := hexDigitChar_inj (Nat.mod_lt m (by decide)) (Nat.mod_lt n (by decide))
      (List.singleton_inj.1 last)
    rw [Nat.pow_succ', Nat.mod_mul, Nat.mod_mul, digit, ih front]

/-- The value of a digit of either case. -/
def hexValue? (c : Char) : Option Nat :=
  if isAsciiDigit c then some (c.toNat - 48)
  else if 'a' ≤ c ∧ c ≤ 'f' then some (c.toNat - 87)
  else if 'A' ≤ c ∧ c ≤ 'F' then some (c.toNat - 55)
  else none

end Minigame.Text
