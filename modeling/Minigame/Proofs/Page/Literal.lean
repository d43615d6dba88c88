import Minigame.Page.Piece
import Minigame.Proofs.Json.Printed
import Minigame.Proofs.Json.Reading

/-!
Values inside a script.

Three characters are written as codes there. In the text of a value they stand inside of string
literals alone and never behind a backslash, so the codes are read as the characters themselves.
-/

namespace Minigame

open Minigame.Text

/-- A digit below sixteen is read as it was written. -/
theorem Text.hexValue?_hexDigitChar {n : Nat} (small : n < 16) :
    hexValue? (hexDigitChar n) = some n := by
  have each : ∀ n < 16, hexValue? (hexDigitChar n) = some n := by decide
  exact each n small

namespace Json

namespace Lexer

/-- A code that is no half of a pair is the character with this number. -/
theorem finishCode_single (done : List Char) {c : Char} (single : c.toNat < 0xD800) :
    finishCode done none c.toNat = some (.text (c :: done)) := by
  -- The halves of pairs are the codes between two bounds, and this one is below both.
  have high : ¬ (0xD800 ≤ c.toNat ∧ c.toNat < 0xDC00) := by omega
  have low : ¬ (0xDC00 ≤ c.toNat ∧ c.toNat < 0xE000) := by omega
  simp only [finishCode, if_neg high, if_neg low, Char.ofNat_toNat]

end Lexer

namespace Reader

variable (done : List Char) (builder : Builder)

/-- A code inside of a literal is read as its character, unless it is one half of a pair. -/
theorem read_code {c : Char} (single : c.toNat < 0xD800) :
    read ⟨.text done, builder⟩ ('\\' :: 'u' :: hexDigits 4 c.toNat) =
      some ⟨.text (c :: done), builder⟩ := by
  -- Four digits of base sixteen tell a number of sixteen bits.
  have digit (n : Nat) := hexValue?_hexDigitChar (Nat.mod_lt n (by decide : 16 > 0))
  have whole : 16 * (16 * (16 * (c.toNat / 16 / 16 / 16 % 16) + c.toNat / 16 / 16 % 16)
      + c.toNat / 16 % 16) + c.toNat % 16 = c.toNat := by omega
  simp [read, step, Lexer.step, hexDigits, digit, whole, Lexer.finishCode_single _ single]

/-- Characters that are each read as they were written are read together. -/
theorem read_flatMap {write : Char → List Char}
    (each : ∀ c done, read ⟨.text done, builder⟩ (write c) = some ⟨.text (c :: done), builder⟩)
    (text : List Char) : read ⟨.text done, builder⟩ (text.flatMap write) =
      some ⟨.text (text.reverse ++ done), builder⟩ := by
  induction text generalizing done with
  | nil => rfl
  | cons c rest ih =>
    -- The first character is read, and then the rest with it in front.
    rw [List.flatMap_cons, read_append, each, Option.bind_some, ih, List.reverse_cons,
      List.append_assoc, List.singleton_append]

/-- Inside of a literal a character is read as it was written. -/
theorem read_escapedChar (c : Char) :
    read ⟨.text done, builder⟩ (escapedChar c) = some ⟨.text (c :: done), builder⟩ := by
  unfold escapedChar
  split
  -- A short escape is read back by its letter.
  next letter short =>
    obtain ⟨back, mark⟩ := unescaped?_of_shortEscape? short
    simp [read, step, Lexer.step, mark, back]
  next long =>
    split
    -- A control character is written by its code, and this is no half of a pair.
    next control => exact read_code done builder (by omega)
    next printed =>
      -- The quote and the backslash have short escapes.
      have quote : c ≠ '"' := by rintro rfl; cases long
      have slash : c ≠ '\\' := by rintro rfl; cases long
      simp [read, step, Lexer.step, quote, slash, printed]

end Reader

end Json

namespace Page

open Json

/-- The characters that are written as codes inside a script. -/
def codedChars : List Char := ['<', '\u2028', '\u2029']

theorem scriptChar_eq (c : Char) : scriptChar c =
    if c ∈ codedChars then '\\' :: 'u' :: hexDigits 4 c.toNat else [c] := by
  unfold scriptChar
  split
  -- The codes of the three characters are spelled out.
  case isTrue less => subst less; decide
  split
  case isTrue line => subst line; decide
  split
  case isTrue paragraph => subst paragraph; decide
  case isFalse less line paragraph =>
    rw [if_neg (by simp [codedChars, less, line, paragraph])]

/-- A text without such characters is the same inside a script. -/
theorem flatMap_scriptChar {text : List Char} (plain : ∀ c ∈ text, c ∉ codedChars) :
    text.flatMap scriptChar = text := by
  calc text.flatMap scriptChar = text.flatMap fun c => [c] :=
        List.flatMap_congr fun c there => by rw [scriptChar_eq, if_neg (plain c there)]
    _ = text := List.flatMap_singleton' text

/-- The digits of a code are not coded themselves. -/
theorem notMem_codedChars_of_hexDigits {count n : Nat} {c : Char} (there : c ∈ hexDigits count n) :
    c ∉ codedChars := by
  have digit : ∀ n < 16, hexDigitChar n ∉ codedChars := by decide
  -- The last digit is one of sixteen, and the others are those of a smaller number.
  induction count generalizing n with
  | zero => cases there
  | succ count ih =>
    rcases List.mem_append.1 there with front | last
    · exact ih front
    · rw [List.mem_singleton.1 last]
      exact digit _ (Nat.mod_lt n (by decide))

/-- No text inside a script has a character that is written as a code there. -/
theorem notMem_codedChars_of_script {text : List Char} {c : Char}
    (there : c ∈ text.flatMap scriptChar) : c ∉ codedChars := by
  obtain ⟨written, -, there⟩ := List.mem_flatMap.1 there
  rw [scriptChar_eq] at there
  split at there
  next =>
    simp only [List.mem_cons] at there
    -- A code is a backslash, the letter and four digits.
    rcases there with rfl | rfl | digit
    · decide
    · decide
    · exact notMem_codedChars_of_hexDigits digit
  -- What is not coded stands for itself.
  next plain => rwa [List.mem_singleton.1 there]

/--
A text is read inside a script as it is without, if no literal is open in front of it.

No literal is open behind it either.
-/
def Faithful (text : List Char) : Prop :=
  ∀ reader : Reader, reader.lexer.IsOutside →
    reader.read (text.flatMap scriptChar) = reader.read text ∧
      ∀ next, reader.read text = some next → next.lexer.IsOutside

theorem Faithful.nil : Faithful [] := by
  intro reader outside
  -- Nothing is read, so nothing is opened.
  refine ⟨rfl, fun next same => ?_⟩
  rwa [← Option.some.inj same]

theorem Faithful.append {text more : List Char} (first : Faithful text) (second : Faithful more) :
    Faithful (text ++ more) := by
  intro reader outside
  obtain ⟨same, kept⟩ := first reader outside
  rw [List.flatMap_append, Reader.read_append, Reader.read_append, same]
  -- Where the first text ends, the second one begins outside of literals.
  cases middle : reader.read text with
  | none => exact ⟨rfl, nofun⟩
  | some between => exact second between (kept between middle)

/-- A character that neither opens a literal nor is coded is read as it is. -/
theorem Faithful.cons {c : Char} (plain : c ∉ '"' :: codedChars) {text : List Char}
    (rest : Faithful text) : Faithful (c :: text) := by
  obtain ⟨quote, coded⟩ := List.ne_and_not_mem_of_not_mem_cons plain
  intro reader outside
  rw [List.flatMap_cons, scriptChar_eq, if_neg coded, List.singleton_append, Reader.read_cons,
    Reader.read_cons]
  -- A character that cannot be read ends both readings.
  cases stepped : reader.step c with
  | none => exact ⟨rfl, nofun⟩
  | some next =>
    -- Only a quote would open a literal.
    obtain ⟨tokens, lexed⟩ := Reader.lexer_of_step stepped
    exact rest next (outside.step quote lexed)

theorem Faithful.of_plain {text : List Char} (plain : ∀ c ∈ text, c ∉ '"' :: codedChars) :
    Faithful text := by
  induction text with
  | nil => exact .nil
  | cons c rest ih =>
    obtain ⟨here, later⟩ := List.forall_mem_cons.1 plain
    exact .cons here (ih later)

/-- Inside of a literal a character is read as it was written, also if it is coded for a script. -/
theorem read_escapedChar_script (c : Char) (done : List Char) (builder : Builder) :
    Reader.read ⟨.text done, builder⟩ ((escapedChar c).flatMap scriptChar) =
      some ⟨.text (c :: done), builder⟩ := by
  by_cases coded : c ∈ codedChars
  · -- A coded character has no escape of its own in front of which a backslash could stand.
    obtain ⟨written, single⟩ : escapedChar c = [c] ∧ c.toNat < 0xD800 := by
      simp only [codedChars, List.mem_cons, List.not_mem_nil, or_false] at coded
      -- None of the three is one of the characters with a short escape.
      rcases coded with rfl | rfl | rfl <;> exact ⟨by simp [escapedChar, shortEscape?], by decide⟩
    rw [written, List.flatMap_singleton, scriptChar_eq, if_pos coded]
    exact Reader.read_code done builder single
  -- Every other character and every escape is written without characters that are coded.
  · have plain : ∀ d ∈ escapedChar c, d ∉ codedChars := by
      intro d there
      -- The cases are those of the escapes: a short one, a code, or the character itself.
      rcases escapedChar_cases c with ⟨letter, short, written⟩ | ⟨-, written⟩ | ⟨-, -, written⟩
      all_goals
        rw [written] at there
        simp only [List.mem_cons, List.not_mem_nil, or_false] at there
      · have letters : letter ∉ codedChars := by
          unfold shortEscape? at short
          split at short <;> cases short <;> decide
        rcases there with rfl | rfl
        · decide
        · exact letters
      · rcases there with rfl | rfl | digit
        · decide
        · decide
        · exact notMem_codedChars_of_hexDigits digit
      · rwa [there]
    rw [flatMap_scriptChar plain]
    exact Reader.read_escapedChar done builder c

/-- A string literal is read as it is. -/
theorem faithful_stringChars (text : String) : Faithful (stringChars text) := by
  intro reader outside
  -- The quotes around a literal are not coded.
  have quote : scriptChar '"' = ['"'] := rfl
  rw [stringChars, List.flatMap_cons, List.flatMap_append, List.flatMap_singleton, quote,
    List.singleton_append, Reader.read_cons, Reader.read_cons]
  cases opened : reader.step '"' with
  | none => exact ⟨rfl, nofun⟩
  | some opening =>
    -- Both ways the inside is read as the characters of the text, up to the closing quote.
    obtain ⟨tokens, lexed⟩ := Reader.lexer_of_step opened
    obtain ⟨lexer, builder⟩ := opening
    obtain rfl : lexer = .text [] := outside.step_quote lexed
    rw [Option.bind_some, Option.bind_some, Reader.read_append, Reader.read_append,
      List.flatMap_assoc, Reader.read_flatMap [] builder fun c done =>
        read_escapedChar_script c done builder, Reader.read_flatMap [] builder fun c done =>
        Reader.read_escapedChar done builder c]
    refine ⟨rfl, fun ⟨lexer, builder⟩ read => ?_⟩
    -- Behind the characters comes the closing quote, and it leaves the literal.
    rw [Option.bind_some, Reader.read_cons] at read
    obtain ⟨closing, closed, same⟩ := Option.bind_eq_some_iff.1 read
    cases same
    obtain ⟨tokens, lexed⟩ := Reader.lexer_of_step closed
    cases lexed
    trivial

/-- A number is read as it is. -/
theorem faithful_number (n : Number) : Faithful n.chars := by
  -- A number is written without quotes and without characters that are coded.
  refine .of_plain fun c there mark => ?_
  have digit := n.isNumberChar_of_mem_chars there
  simp only [codedChars, List.mem_cons, List.not_mem_nil, or_false] at mark
  rcases mark with rfl | rfl | rfl | rfl <;> exact absurd digit (by decide)

mutual

/-- The text of a value is read as it is: what is coded stands in its literals. -/
theorem faithful_chars : (value : Json) → Faithful value.chars
  | .null => .of_plain (by simp [chars, codedChars])
  | .bool true => .of_plain (by simp [chars, codedChars])
  | .bool false => .of_plain (by simp [chars, codedChars])
  | .num n => by
    rw [chars]
    exact faithful_number n
  | .str text => by
    rw [chars]
    exact faithful_stringChars text
  | .arr [] => .of_plain (by simp [chars, codedChars])
  | .arr (item :: rest) => by
    rw [chars]
    exact .cons (by simp [codedChars]) ((faithful_chars item).append (faithful_itemsChars rest))
  | .obj [] => .of_plain (by simp [chars, codedChars])
  | .obj ((name, value) :: rest) => by
    rw [chars]
    -- The colon behind the name is read as it is.
    have field := (faithful_chars value).append (faithful_fieldsChars rest)
    exact .cons (by simp [codedChars])
      ((faithful_stringChars name).append (field.cons (by simp [codedChars])))

/-- The items behind the first one are read as they are. -/
theorem faithful_itemsChars : (items : List Json) → Faithful (itemsChars items)
  | [] => .of_plain (by simp [itemsChars, codedChars])
  | item :: rest => by
    rw [itemsChars]
    exact .cons (by simp [codedChars]) ((faithful_chars item).append (faithful_itemsChars rest))

/-- The fields behind the first one are read as they are. -/
theorem faithful_fieldsChars : (fields : List (String × Json)) → Faithful (fieldsChars fields)
  | [] => .of_plain (by simp [fieldsChars, codedChars])
  | (name, value) :: rest => by
    rw [fieldsChars]
    have field := (faithful_chars value).append (faithful_fieldsChars rest)
    exact .cons (by simp [codedChars])
      ((faithful_stringChars name).append (field.cons (by simp [codedChars])))

end

/--
A value inside a script neither ends the script nor one of its lines, and none of it is lost.

Reading it gives what reading the plain text of the value gives.
-/
theorem scriptLiteral_lossless (value : Json) :
    let text := String.ofList (scriptLiteral value)
    '<' ∉ text.toList ∧ '\u2028' ∉ text.toList ∧ '\u2029' ∉ text.toList ∧
      Json.parse text = Json.parse value.compact := by
  intro text
  have chars : text.toList = value.chars.flatMap scriptChar :=
    String.toList_ofList.trans (scriptText_eq value.chars)
  -- Every character of the text went through the replacements.
  have absent {c : Char} (coded : c ∈ codedChars) : c ∉ text.toList := by
    rw [chars]
    exact fun there => notMem_codedChars_of_script there coded
  refine ⟨absent (by simp [codedChars]), absent (by simp [codedChars]),
    absent (by simp [codedChars]), ?_⟩
  -- At the beginning of a text no literal is open.
  obtain ⟨same, -⟩ := faithful_chars value .initial trivial
  have read (text : List Char) :
      Json.parseChars text = (Reader.initial.read text).bind Reader.finish := rfl
  rw [Json.parse, Json.parse, chars, compact, String.toList_ofList, read, read, same]

/-- A name and a text that would end a script are read back. -/
example :
    let value := Json.obj [("</\u2028", .arr [.str "\\<\"\\\u2029"])]
    Json.parse (String.ofList (scriptLiteral value)) = some value := by
  decide +kernel

end Page

end Minigame
