/-! Texts as bytes in UTF-8 and back. -/

namespace Minigame

namespace Text

/-- The bounds of the bytes that may stand behind the first byte of a character. -/
def followers (lead : UInt8) : List (UInt8 × UInt8) :=
  if lead < 0xC2 then []
  else if lead < 0xE0 then [(0x80, 0xBF)]
  else if lead < 0xF0 then
    -- The bounds leave out what has a shorter form, and the surrogates.
    [(if lead = 0xE0 then 0xA0 else 0x80, if lead = 0xED then 0x9F else 0xBF), (0x80, 0xBF)]
  else if lead < 0xF5 then
    -- The bounds leave out what has a shorter form, and what lies behind the last character.
    [(if lead = 0xF0 then 0x90 else 0x80, if lead = 0xF4 then 0x8F else 0xBF), (0x80, 0xBF),
      (0x80, 0xBF)]
  else []

/-- How many bytes at the front lie within their bounds. -/
def countWithin : List (UInt8 × UInt8) → List UInt8 → Nat
  | (low, high) :: bounds, byte :: bytes =>
    if low ≤ byte ∧ byte ≤ high then countWithin bounds bytes + 1 else 0
  | _, _ => 0

/-- The character at the front of bytes. -/
def frontChar? (bytes : List UInt8) : Option Char :=
  (bytes.take 4).toByteArray.utf8DecodeChar? 0

/-- What stands for bytes that are no character. -/
def replacement : Char := '\uFFFD'

/-- The characters of bytes, with one replacement for all that a character could begin with. -/
def decodeChars : List UInt8 → List Char
  | [] => []
  | lead :: rest =>
    match frontChar? (lead :: rest) with
    | some c => c :: decodeChars (rest.drop (c.utf8Size - 1))
    | none => replacement :: decodeChars (rest.drop (countWithin (followers lead) rest))
termination_by bytes => bytes.length

/-- The bytes of a character are read as the character, whatever stands behind them. -/
theorem frontChar?_encoded (c : Char) (bytes : List UInt8) :
    frontChar? (String.utf8EncodeChar c ++ bytes) = some c := by
  -- A character has four bytes at most, so that all of its bytes are looked at.
  have short : (String.utf8EncodeChar c).length ≤ 4 := by
    rw [String.length_utf8EncodeChar]
    exact c.utf8Size_le_four
  rw [frontChar?, List.take_append, List.take_of_length_le short, List.toByteArray_append,
    ByteArray.utf8DecodeChar?_utf8EncodeChar_append]

/-- The bytes of a character are decoded to the character. -/
theorem decodeChars_encoded (c : Char) (bytes : List UInt8) :
    decodeChars (String.utf8EncodeChar c ++ bytes) = c :: decodeChars bytes := by
  have front := frontChar?_encoded c bytes
  have length := String.length_utf8EncodeChar c
  obtain ⟨lead, rest, encoded⟩ := List.exists_cons_of_ne_nil (@String.utf8EncodeChar_ne_nil c)
  rw [encoded, List.cons_append] at front ⊢
  rw [encoded, List.length_cons] at length
  -- The first byte is read by itself, and the others are dropped.
  rw [decodeChars, front]
  simp only [show c.utf8Size - 1 = rest.length by omega, List.drop_left]

/-- The bytes of characters are decoded to the characters. -/
theorem decodeChars_flatMap (chars : List Char) :
    decodeChars (chars.flatMap String.utf8EncodeChar) = chars := by
  induction chars with
  | nil => simp [decodeChars]
  | cons c rest ih => rw [List.flatMap_cons, decodeChars_encoded, ih]

/-- A list of bytes is the same from every place on, read from an array or not. -/
theorem toList_loop (bytes : ByteArray) (i : Nat) (front : List UInt8) :
    ByteArray.toList.loop bytes i front = front.reverse ++ bytes.data.toList.drop i := by
  fun_induction ByteArray.toList.loop bytes i front with
  | case1 i front inside ih =>
    have listed : i < bytes.data.toList.length := inside
    rw [ih, List.reverse_cons, List.append_assoc, List.drop_eq_getElem_cons listed]
    -- A byte read at a place that is there is the byte of the list.
    have same : bytes.data[i]! = bytes.data[i] := getElem!_pos bytes.data i inside
    simp [ByteArray.get!, same]
  | case2 i front outside =>
    rw [List.drop_of_length_le (by simpa using outside), List.append_nil]

end Text

open Text

/-- The bytes of a text in UTF-8. -/
def utf8 (text : String) : List UInt8 :=
  text.toUTF8.toList

/-- The text that bytes in UTF-8 stand for; what is no character in it is replaced. -/
def ofUtf8 (bytes : List UInt8) : String :=
  String.ofList (decodeChars bytes)

theorem utf8_eq (text : String) : utf8 text = text.toList.flatMap String.utf8EncodeChar := by
  obtain ⟨chars, rfl⟩ : ∃ chars, String.ofList chars = text := ⟨_, String.ofList_toList⟩
  rw [utf8, ByteArray.toList, toList_loop]
  simp [List.utf8Encode]

/-- The bytes of a text are read back as the text. -/
theorem ofUtf8_utf8 (text : String) : ofUtf8 (utf8 text) = text := by
  rw [ofUtf8, utf8_eq, decodeChars_flatMap, String.ofList_toList]

end Minigame
