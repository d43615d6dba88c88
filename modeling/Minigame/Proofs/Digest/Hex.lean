import Minigame.Proofs.Digest
import Minigame.Text.Case

/-!
The hexadecimal form of a digest.

Main statement: a digest is read back from its form, and a text is read exactly if it is a form in
either case. What else a text is read as is told by its length in bytes first, and then by its first
character that is no digit.
-/

namespace Minigame

open Minigame.Text

namespace Text

/-- The digits to the base sixteen, in either case. -/
def isHexDigit (c : Char) : Bool :=
  isAsciiDigit c || ('a' ≤ c && c ≤ 'f') || ('A' ≤ c && c ≤ 'F')

/-- The hexadecimal digits are the characters that have a value. -/
theorem isSome_hexValue? (c : Char) : (hexValue? c).isSome = isHexDigit c := by
  unfold hexValue? isHexDigit
  cases isAsciiDigit c with
  | true => rfl
  | false =>
    -- The value is looked for in the three ranges that make up the digits.
    by_cases lower : 'a' ≤ c ∧ c ≤ 'f'
    · simp [lower]
    · by_cases upper : 'A' ≤ c ∧ c ≤ 'F'
      · simp [lower, upper]
      · -- Outside of all three ranges there is no value.
        rw [← Bool.decide_and, ← Bool.decide_and]
        simp [lower, upper]

theorem hexValue?_eq_none {c : Char} (other : isHexDigit c = false) : hexValue? c = none := by
  rwa [← isSome_hexValue?, Option.isSome_eq_false_iff, Option.isNone_iff_eq_none] at other

/-- Hexadecimal digits are ASCII. -/
theorem toNat_lt_of_isHexDigit {c : Char} (digit : isHexDigit c = true) : c.toNat < 128 := by
  simp only [isHexDigit, isAsciiDigit, Bool.or_eq_true, Bool.and_eq_true,
    decide_eq_true_eq] at digit
  -- Each of the ranges ends below the end of ASCII.
  obtain (⟨-, most⟩ | ⟨-, most⟩) | ⟨-, most⟩ := digit <;> exact Nat.lt_of_le_of_lt most (by decide)

/-- A digit has a value below sixteen, which is written as the digit in lower case. -/
theorem hexValue?_of_isHexDigit {c : Char} (digit : isHexDigit c = true) :
    ∃ value < 16, hexValue? c = some value ∧ hexDigitChar value = asciiLowerChar c := by
  -- The digits are ASCII, and there all characters can be gone through.
  have table : ∀ code < 128, isHexDigit (Char.ofNat code) = true →
      ∃ value < 16, hexValue? (Char.ofNat code) = some value
        ∧ hexDigitChar value = asciiLowerChar (Char.ofNat code) := by decide
  have read := table c.toNat (toNat_lt_of_isHexDigit digit)
  rw [Char.ofNat_toNat] at read
  exact read digit

/-- The digits that numbers are written with are in lower case. -/
theorem hexDigitChar_lower {n : Nat} (small : n < 16) :
    isHexDigit (hexDigitChar n) = true ∧ asciiLowerChar (hexDigitChar n) = hexDigitChar n := by
  have each : ∀ n < 16, isHexDigit (hexDigitChar n) = true
      ∧ asciiLowerChar (hexDigitChar n) = hexDigitChar n := by decide
  exact each n small

/-- A digit is one byte, which is read as the digit. -/
theorem utf8EncodeChar_of_isHexDigit {c : Char} (digit : isHexDigit c = true) :
    ∃ byte, String.utf8EncodeChar c = [byte] ∧ Char.ofNat byte.toNat = c := by
  -- The code of the character fits into a byte.
  have small := toNat_lt_of_isHexDigit digit
  -- An ASCII character is encoded as its own code.
  have one : c.utf8Size = 1 := Char.utf8Size_eq_one_iff.2 (Nat.le_of_lt_succ small)
  refine ⟨_, String.utf8EncodeChar_eq_singleton one, ?_⟩
  have code : c.val.toUInt8.toNat = c.toNat := by
    rw [UInt32.toNat_toUInt8]
    exact Nat.mod_eq_of_lt (Nat.lt_trans small (by decide))
  rw [code, Char.ofNat_toNat]

/-- The first byte of any other character is read as no digit. -/
theorem utf8EncodeChar_of_not_isHexDigit {c : Char} (other : isHexDigit c = false) :
    ∃ lead rest, String.utf8EncodeChar c = lead :: rest
      ∧ isHexDigit (Char.ofNat lead.toNat) = false := by
  -- What is not ASCII begins with a byte that is not ASCII either.
  have foreign {lead : UInt8} (beyond : 128 ≤ lead.toNat) :
      isHexDigit (Char.ofNat lead.toNat) = false := by
    have byte := lead.toNat_lt
    refine Bool.eq_false_iff.2 fun digit => ?_
    have small := toNat_lt_of_isHexDigit digit
    rw [Char.toNat_ofNat, if_pos (.inl (by omega))] at small
    omega
  -- One byte is the character itself, and the first of several bytes is 128 at least.
  fun_cases String.utf8EncodeChar c
  case case1 code small =>
    refine ⟨_, [], rfl, ?_⟩
    have same : (UInt8.ofNat code).toNat = c.toNat := Nat.mod_eq_of_lt (by omega)
    rwa [same, Char.ofNat_toNat]
  all_goals
    refine ⟨_, _, rfl, foreign ?_⟩
    rw [UInt8.toNat_ofNat']
    omega

end Text

namespace Digest

theorem hexPair_eq (byte : UInt8) :
    hexPair byte = [hexDigitChar (byte.toNat / 16), hexDigitChar (byte.toNat % 16)] := by
  -- A byte has two digits to the base sixteen.
  have small : byte.toNat / 16 < 16 := by
    have := byte.toNat_lt
    omega
  simp [hexPair, hexDigits, Nat.mod_eq_of_lt small]

/-- A byte is told by its two digits. -/
theorem hexPair_inj {a b : UInt8} (same : hexPair a = hexPair b) : a = b := by
  have value : a.toNat % 256 = b.toNat % 256 := mod_eq_of_hexDigits same
  -- The two digits tell the value below 256, which is the byte.
  rwa [Nat.mod_eq_of_lt a.toNat_lt, Nat.mod_eq_of_lt b.toNat_lt, UInt8.toNat_inj] at value

/-- Bytes are told by their digits. -/
theorem flatMap_hexPair_inj : {a b : List UInt8} → a.flatMap hexPair = b.flatMap hexPair → a = b
  | [], [], _ => rfl
  | [], byte :: rest, same => by simp [hexPair_eq] at same
  | byte :: rest, [], same => by simp [hexPair_eq] at same
  | byte :: a, other :: b, same => by
    rw [List.flatMap_cons, List.flatMap_cons] at same
    -- Each byte takes two digits, so the texts are cut at the same place.
    obtain ⟨pair, rest⟩ := List.append_inj same (by simp [hexPair])
    rw [hexPair_inj pair, flatMap_hexPair_inj rest]

theorem length_flatMap_hexPair (bytes : List UInt8) :
    (bytes.flatMap hexPair).length = 2 * bytes.length := by
  rw [List.length_flatMap, List.map_congr_left fun byte _ => length_hexDigits 2 byte.toNat]
  simp [Nat.mul_comm]

/-- The digits of bytes are digits in lower case. -/
theorem mem_flatMap_hexPair {bytes : List UInt8} {c : Char} (there : c ∈ bytes.flatMap hexPair) :
    isHexDigit c = true ∧ asciiLowerChar c = c := by
  obtain ⟨byte, -, there⟩ := List.mem_flatMap.1 there
  have bound := byte.toNat_lt
  rw [hexPair_eq, List.mem_pair] at there
  -- Both parts of a byte are below sixteen.
  rcases there with rfl | rfl <;> exact hexDigitChar_lower (by omega)

/-- A byte that is a digit is read as its value, wherever it stands. -/
theorem digitOf_of_isHexDigit {byte : UInt8}
    (digit : isHexDigit (Char.ofNat byte.toNat) = true) :
    ∃ value < 16, (∀ position, digitOf byte position = .ok value)
      ∧ hexDigitChar value = asciiLowerChar (Char.ofNat byte.toNat) := by
  obtain ⟨value, small, read, written⟩ := hexValue?_of_isHexDigit digit
  exact ⟨value, small, fun position => by rw [digitOf, read], written⟩

/-- Any other byte is reported. -/
theorem digitOf_of_not_isHexDigit {byte : UInt8}
    (other : isHexDigit (Char.ofNat byte.toNat) = false) (position : Nat) :
    digitOf byte position = .error (.invalidCharacter byte position) := by
  rw [digitOf, hexValue?_eq_none other]

/-- A pair of digits is read as a byte in front of what is read behind it. -/
theorem readPairs_pair {high low : UInt8} {position a b : Nat}
    (first : digitOf high position = .ok a) (second : digitOf low (position + 1) = .ok b)
    (rest : List UInt8) :
    readPairs position (high :: low :: rest)
      = (readPairs (position + 2) rest).map ((16 * a + b).toUInt8 :: ·) := by
  rw [readPairs, first, second]
  cases readPairs (position + 2) rest <;> rfl

/-- Pairs of digits are read as bytes that are written as these digits in lower case. -/
theorem readPairs_digits : {chars : List Char} → (position : Nat) →
    (∀ c ∈ chars, isHexDigit c = true) → chars.length % 2 = 0 →
    ∃ bytes, readPairs position (chars.flatMap String.utf8EncodeChar) = .ok bytes
      ∧ bytes.flatMap hexPair = chars.map asciiLowerChar
  | [], _, _, _ => ⟨[], rfl, rfl⟩
  -- A single character is no pair.
  | [_], _, _, even => by simp at even
  | high :: low :: chars, position, digits, even => by
    simp only [List.forall_mem_cons] at digits
    obtain ⟨highDigit, lowDigit, digits⟩ := digits
    have even' : chars.length % 2 = 0 := by
      rw [List.length_cons, List.length_cons] at even
      omega
    -- The rest is read as bytes, with two more characters in front.
    obtain ⟨bytes, read, written⟩ := readPairs_digits (position + 2) digits even'
    obtain ⟨first, firstBytes, rfl⟩ := utf8EncodeChar_of_isHexDigit highDigit
    obtain ⟨second, secondBytes, rfl⟩ := utf8EncodeChar_of_isHexDigit lowDigit
    obtain ⟨a, a_lt, highRead, highWritten⟩ := digitOf_of_isHexDigit highDigit
    obtain ⟨b, b_lt, lowRead, lowWritten⟩ := digitOf_of_isHexDigit lowDigit
    refine ⟨(16 * a + b).toUInt8 :: bytes, ?_, ?_⟩
    · rw [List.flatMap_cons, List.flatMap_cons, firstBytes, secondBytes, List.singleton_append,
        List.singleton_append, readPairs_pair (highRead _) (lowRead _), read]
      rfl
    -- The byte is written with the two digits that it was read from.
    · have byte : (16 * a + b).toUInt8.toNat = 16 * a + b := Nat.mod_eq_of_lt (by omega)
      have front : (16 * a + b) / 16 = a := by omega
      have back : (16 * a + b) % 16 = b := by omega
      rw [List.flatMap_cons, written, hexPair_eq, byte, front, back, highWritten, lowWritten]
      rfl

/-- A byte that is read as no digit is reported where it stands, if only digits stand in front. -/
theorem readPairs_other {bad : UInt8} (other : isHexDigit (Char.ofNat bad.toNat) = false)
    (back : List UInt8) : {front : List UInt8} → (position : Nat) →
    (∀ byte ∈ front, isHexDigit (Char.ofNat byte.toNat) = true) →
    (front ++ bad :: back).length % 2 = 0 →
    readPairs position (front ++ bad :: back)
      = .error (.invalidCharacter bad (position + front.length))
  | [], position, _, even => by
    -- With an even number of bytes there is a partner for the bad one.
    cases back with
    | nil => simp at even
    | cons low back =>
      rw [List.nil_append, readPairs, digitOf_of_not_isHexDigit other]
      rfl
  -- The bad byte is the second one of the first pair.
  | [high], position, digits, _ => by
    obtain ⟨a, -, highRead, -⟩ := digitOf_of_isHexDigit (digits high (List.mem_singleton_self high))
    rw [List.singleton_append, readPairs, highRead, digitOf_of_not_isHexDigit other]
    rfl
  -- The first pair is read, and the bad byte is among the rest.
  | high :: low :: front, position, digits, even => by
    simp only [List.forall_mem_cons] at digits
    obtain ⟨highDigit, lowDigit, digits⟩ := digits
    obtain ⟨a, -, highRead, -⟩ := digitOf_of_isHexDigit highDigit
    obtain ⟨b, -, lowRead, -⟩ := digitOf_of_isHexDigit lowDigit
    have even' : (front ++ bad :: back).length % 2 = 0 := by
      rw [List.cons_append, List.cons_append, List.length_cons, List.length_cons] at even
      omega
    have place : position + 2 + front.length = position + (high :: low :: front).length := by
      rw [List.length_cons, List.length_cons]
      omega
    rw [List.cons_append, List.cons_append, readPairs_pair (highRead _) (lowRead _),
      readPairs_other other back (position + 2) digits even', place]
    rfl

/-- The bytes of digits are read as digits, one for each. -/
theorem encode_digits {chars : List Char} (digits : ∀ c ∈ chars, isHexDigit c = true) :
    (chars.flatMap String.utf8EncodeChar).length = chars.length
      ∧ ∀ byte ∈ chars.flatMap String.utf8EncodeChar,
        isHexDigit (Char.ofNat byte.toNat) = true := by
  induction chars with
  | nil => exact ⟨rfl, nofun⟩
  | cons c chars ih =>
    rw [List.forall_mem_cons] at digits
    obtain ⟨length, read⟩ := ih digits.2
    obtain ⟨byte, bytes, char⟩ := utf8EncodeChar_of_isHexDigit digits.1
    -- The byte of the first digit comes in front of the others.
    rw [List.flatMap_cons, bytes, List.singleton_append]
    exact ⟨congrArg (· + 1) length, List.forall_mem_cons.2 ⟨char ▸ digits.1, read⟩⟩

/-- What a text is read as, told by the text. -/
inductive Tells (text : String) : Except DigestError Digest → Prop where
  | oddLength (odd : (utf8 text).length % 2 = 1) : Tells text (.error .oddLength)
  /-- The first character that is no digit is told by its first byte and by its place in bytes. -/
  | invalidCharacter {front back : List Char} {c : Char} {byte : UInt8}
      (even : (utf8 text).length % 2 = 0) (whole : text.toList = front ++ c :: back)
      (digits : ∀ d ∈ front, isHexDigit d = true) (other : isHexDigit c = false)
      (lead : (utf8 (String.singleton c)).head? = some byte) :
      Tells text (.error (.invalidCharacter byte (utf8 (String.ofList front)).length))
  /-- Two digits are a byte. -/
  | invalidLength {actual : Nat} (digits : ∀ c ∈ text.toList, isHexDigit c = true)
      (length : (utf8 text).length = 2 * actual) (other : actual ≠ 32) :
      Tells text (.error (.invalidLength actual))
  | digest {digest : Digest} (digits : ∀ c ∈ text.toList, isHexDigit c = true)
      (length : text.length = 64) (written : digest.hex = asciiLower text) :
      Tells text (.ok digest)

theorem parse_of_odd {text : String} (odd : (utf8 text).length % 2 = 1) :
    parse text = .error .oddLength := by
  rw [parse, if_pos odd]
  rfl

theorem parse_of_even {text : String} (even : (utf8 text).length % 2 = 0) :
    parse text = (readPairs 0 (utf8 text)).bind ofBytes := by
  rw [parse, if_neg (Nat.mod_two_ne_one.2 even)]
  rfl

/-- A text of digits alone has a byte for each. -/
theorem length_utf8_of_digits {text : String} (digits : ∀ c ∈ text.toList, isHexDigit c = true) :
    (utf8 text).length = text.length := by
  rw [utf8_eq, (encode_digits digits).1, String.length_toList]

/-- Where all characters are digits, a text is read as bytes, as many as there are pairs. -/
theorem parse_of_digits {text : String} (digits : ∀ c ∈ text.toList, isHexDigit c = true)
    (even : (utf8 text).length % 2 = 0) :
    ∃ bytes, parse text = ofBytes bytes ∧ (utf8 text).length = 2 * bytes.length
      ∧ String.ofList (bytes.flatMap hexPair) = asciiLower text := by
  -- Digits are as many bytes as characters.
  have chars : text.toList.length % 2 = 0 := by
    rwa [length_utf8_of_digits digits, ← String.length_toList] at even
  obtain ⟨bytes, read, written⟩ := readPairs_digits 0 digits chars
  refine ⟨bytes, ?_, ?_, congrArg String.ofList written⟩
  · rw [parse_of_even even, utf8_eq, read]
    rfl
  · -- Two digits are a byte, and they were written for the bytes that were read.
    rw [length_utf8_of_digits digits, ← length_flatMap_hexPair, written, List.length_map,
      String.length_toList]

/-- Where a character is no digit, the first one is reported. -/
theorem parse_of_other {text : String} {front back : List Char} {c : Char}
    (even : (utf8 text).length % 2 = 0) (whole : text.toList = front ++ c :: back)
    (digits : ∀ d ∈ front, isHexDigit d = true) (other : isHexDigit c = false) :
    ∃ byte, (utf8 (String.singleton c)).head? = some byte
      ∧ parse text = .error (.invalidCharacter byte (utf8 (String.ofList front)).length) := by
  obtain ⟨lead, rest, bytes, bad⟩ := utf8EncodeChar_of_not_isHexDigit other
  have single : utf8 (String.singleton c) = lead :: rest := by
    rw [utf8_eq, String.toList_singleton, List.flatMap_singleton, bytes]
  have before : utf8 (String.ofList front) = front.flatMap String.utf8EncodeChar := by
    rw [utf8_eq, String.toList_ofList]
  -- The text is cut at the character; it is reported by its first byte, behind the bytes of the
  -- digits.
  have split : utf8 text = front.flatMap String.utf8EncodeChar
      ++ lead :: (rest ++ back.flatMap String.utf8EncodeChar) := by
    rw [utf8_eq, whole, List.flatMap_append, List.flatMap_cons, bytes, List.cons_append]
  refine ⟨lead, by rw [single, List.head?_cons], ?_⟩
  rw [parse_of_even even]
  rw [split] at even ⊢
  rw [readPairs_other bad _ 0 (encode_digits digits).2 even, before, Nat.zero_add]
  rfl

/-- Forms of digests tell the digests. -/
theorem hex_inj {a b : Digest} (same : a.hex = b.hex) : a = b :=
  eq_of_bytes (flatMap_hexPair_inj (String.ofList_injective same))

/-- As many digits as a digest has are read as the digest that is written with them. -/
theorem parse_of_form {text : String} (length : text.length = 64)
    (digits : ∀ c ∈ text.toList, isHexDigit c = true) :
    ∃ digest, parse text = .ok digest ∧ digest.hex = asciiLower text := by
  have count := length_utf8_of_digits digits
  obtain ⟨bytes, read, pairs, written⟩ := parse_of_digits digits (by omega)
  have whole : bytes.length = 32 := by omega
  exact ⟨⟨bytes, whole⟩, by rw [read, ofBytes, dif_pos whole], written⟩

/-- Every text is read as something that it tells. -/
theorem parse_tells (text : String) : Tells text (parse text) := by
  by_cases odd : (utf8 text).length % 2 = 1
  · -- An odd number of bytes is found at once.
    rw [parse_of_odd odd]
    exact .oddLength odd
  have even : (utf8 text).length % 2 = 0 := Nat.mod_two_ne_one.1 odd
  -- With an even length the first character that is no digit decides, and without one the length.
  cases found : text.toList.find? (!isHexDigit ·) with
  | some c =>
    -- Some character is no digit, and the first one of this kind is reported.
    obtain ⟨other, front, back, whole, digits⟩ := List.find?_eq_some_iff_append.1 found
    simp only [Bool.not_not, Bool.not_eq_true'] at digits other
    obtain ⟨byte, lead, read⟩ := parse_of_other even whole digits other
    rw [read]
    exact .invalidCharacter even whole digits other lead
  | none =>
    -- All characters are digits, so their number is all that can be wrong.
    have digits : ∀ c ∈ text.toList, isHexDigit c = true := by simpa using found
    by_cases whole : text.length = 64
    · obtain ⟨digest, read, written⟩ := parse_of_form whole digits
      rw [read]
      exact .digest digits whole written
    · have count := length_utf8_of_digits digits
      obtain ⟨bytes, read, pairs, -⟩ := parse_of_digits digits even
      have other : bytes.length ≠ 32 := by omega
      rw [read, ofBytes, dif_neg other]
      exact .invalidLength digits pairs other

/-- What a text tells is what it is read as. -/
theorem Tells.parse_eq {text : String} {outcome : Except DigestError Digest}
    (told : Tells text outcome) : parse text = outcome := by
  cases told with
  | oddLength odd => exact parse_of_odd odd
  | invalidCharacter even whole digits other lead =>
    -- The byte that is reported is the first one of the character.
    obtain ⟨byte, same, read⟩ := parse_of_other even whole digits other
    rw [read, Option.some.inj (same.symm.trans lead)]
  | @invalidLength actual digits length other =>
    obtain ⟨bytes, read, count, -⟩ := parse_of_digits digits (by omega)
    obtain rfl : bytes.length = actual := by omega
    rw [read, ofBytes, dif_neg other]
  | digest digits length written =>
    -- A digest that is written with these digits is the one that is read.
    obtain ⟨digest, read, same⟩ := parse_of_form length digits
    rw [read, hex_inj (same.trans written.symm)]

/-- The form of a digest tells the digest. -/
theorem tells_hex (digest : Digest) : Tells digest.hex (.ok digest) := by
  have chars : digest.hex.toList = digest.bytes.flatMap hexPair := String.toList_ofList
  refine .digest (fun c there => ?_) ?_ ?_
  · rw [chars] at there
    exact (mem_flatMap_hexPair there).1
  · rw [← String.length_toList, chars, length_flatMap_hexPair, digest.length_eq]
  · -- All of its letters are in lower case already.
    rw [asciiLower, chars, List.map_congr_left fun c there => (mem_flatMap_hexPair there).2,
      List.map_id', hex]

/--
The hexadecimal form of a digest is read back as the digest, and a text is read as what it tells.

Reading succeeds exactly for 64 digits in either case, and the digest is then written as these
digits in lower case. An odd number of bytes is found before anything else, then the first character
that is no digit, and only then a wrong number of digits.
-/
theorem hex_exact (text : String) (outcome : Except DigestError Digest) :
    (∀ digest : Digest, parse digest.hex = .ok digest)
      ∧ ((∃ digest, parse text = .ok digest)
        ↔ text.length = 64 ∧ ∀ c ∈ text.toList, isHexDigit c = true)
      ∧ (parse text = outcome ↔ Tells text outcome) := by
  refine ⟨fun digest => (tells_hex digest).parse_eq, ⟨?_, ?_⟩,
    fun read => read ▸ parse_tells text, Tells.parse_eq⟩
  · -- Only one of the ways in which a text is told ends in a digest.
    rintro ⟨digest, read⟩
    have told := parse_tells text
    rw [read] at told
    cases told with
    | digest digits length => exact ⟨length, digits⟩
  · rintro ⟨length, digits⟩
    obtain ⟨digest, read, -⟩ := parse_of_form length digits
    exact ⟨digest, read⟩

end Digest

end Minigame
