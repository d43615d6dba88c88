import Minigame.Proofs.Decimal.Shortest
import Minigame.Json.Lexer
import Minigame.Json.Printer

/-!
The compact text of a value tells the value.

The first character of a text tells what kind of value it is. Where the text ends is told by the
text itself, but for a number, which ends in front of the first character that no number has.
-/

namespace Minigame

open Minigame.Text Minigame.Decimal

namespace Number

/-- Integers are written with digits behind an optional minus sign. -/
theorem mem_intChars {a : Int} {c : Char} (there : c ∈ intChars a) :
    isAsciiDigit c = true ∨ c = '-' := by
  cases a with
  | ofNat n => exact .inl (isAsciiDigit_of_mem_toDigits there)
  | negSucc n => exact (List.mem_cons.1 there).symm.imp_left isAsciiDigit_of_mem_toDigits

/-- An integer is told by its text. -/
theorem intChars_inj {a b : Int} (same : intChars a = intChars b) : a = b := by
  -- Digits tell the number, and none of them is a minus sign.
  have digits {m n : Nat} (same : Nat.toDigits 10 m = Nat.toDigits 10 n) : m = n := by
    -- The digits of a number are read back to it.
    rw [← natOfDigits_toDigits m, same, natOfDigits_toDigits]
  have unsigned {n : Nat} {rest : List Char} : Nat.toDigits 10 n ≠ '-' :: rest := fun minus => by
    have digit := isAsciiDigit_of_mem_toDigits (c := '-') (n := n) (by simp [minus])
    cases digit
  -- Numbers of one sign are compared by their digits, and the sign tells the others apart.
  cases a <;> cases b <;> simp only [intChars] at same
  case ofNat.ofNat => rw [digits same]
  case ofNat.negSucc => exact absurd same unsigned
  case negSucc.ofNat => exact absurd same.symm unsigned
  case negSucc.negSucc =>
    have sizes := digits (List.cons.inj same).2
    rw [Nat.add_right_cancel sizes]

/-- A number is written with the characters of numbers. -/
theorem isNumberChar_of_mem_chars {n : Number} {c : Char} (there : c ∈ n.chars) :
    isNumberChar c = true := by
  cases n with
  | int value =>
    rcases mem_intChars there with digit | rfl
    · exact isNumberChar_of_isAsciiDigit digit
    · rfl
  | double value => exact isNumberChar_of_mem_writeFloat there

-- The layout of documents uses no other characters.
/-- Integers are written without the marks that every double is written with. -/
theorem int_chars_ne_double (a : Int) (x : Float) :
    (int a).chars ≠ (double x).chars := fun same => by
  -- A double has a point or an exponent, and an integer has neither.
  obtain ⟨c, there, mark⟩ := exists_mark_writeFloat documentLayout rfl x
  change intChars a = documentLayout.writeFloat x at same
  rcases mem_intChars (same ▸ there) with digit | rfl
  · rcases mark with rfl | rfl <;> cases digit
  · simp at mark

/-- A number is told, with its kind, by its text. -/
theorem chars_inj {a b : Number} (same : a.chars = b.chars) : a = b := by
  cases a <;> cases b
  case int.int => rw [intChars_inj same]
  case int.double => exact absurd same (int_chars_ne_double _ _)
  case double.int => exact absurd same.symm (int_chars_ne_double _ _)
  case double.double => rw [writeFloat_inj same]

/-- A number is told from what stands behind it, if the number cannot go on there. -/
theorem chars_append_inj {a b : Number} {r s : List Char}
    (stopR : ∀ c ∈ r.head?, isNumberChar c = false)
    (stopS : ∀ c ∈ s.head?, isNumberChar c = false)
    (same : a.chars ++ r = b.chars ++ s) : a = b ∧ r = s := by
  -- Both numbers are the longest runs of their characters.
  have cut := cut_unique same (fun _ => isNumberChar_of_mem_chars)
    (fun _ => isNumberChar_of_mem_chars) stopR stopS
  exact cut.imp_left chars_inj

/-- The text of a number has a first character. -/
theorem chars_ne_nil (n : Number) : n.chars ≠ [] := by
  cases n with
  | int value => cases value <;> simp [chars, intChars, Nat.toDigits_ne_nil]
  -- A double has a mark in its text.
  | double value =>
    obtain ⟨c, there, -⟩ := exists_mark_writeFloat documentLayout rfl value
    exact List.ne_nil_of_mem there

end Number

namespace Json

/-- The letter of a short escape tells the character, and is not the mark of a code. -/
theorem unescaped?_of_shortEscape? {c letter : Char} (short : shortEscape? c = some letter) :
    unescaped? letter = some c ∧ letter ≠ 'u' := by
  -- Each letter stands for one character, and none of them is a u.
  unfold shortEscape? at short
  split at short <;> cases short <;> exact ⟨rfl, by decide⟩

/-- A character is escaped by a letter or by a code, or stands for itself. -/
theorem escapedChar_cases (c : Char) :
    (∃ letter, shortEscape? c = some letter ∧ escapedChar c = ['\\', letter])
      ∨ (c.toNat < 0x20 ∧ escapedChar c = '\\' :: 'u' :: hexDigits 4 c.toNat)
      ∨ (c ≠ '"' ∧ c ≠ '\\' ∧ escapedChar c = [c]) := by
  unfold escapedChar
  cases short : shortEscape? c with
  | some letter => exact .inl ⟨letter, rfl, rfl⟩
  | none =>
    -- Control characters without a letter are written by their code.
    by_cases control : c.toNat < 0x20
    · exact .inr (.inl ⟨control, if_pos control⟩)
    · -- A quote and a backslash have letters, so they are not meant here.
      refine .inr (.inr ⟨?_, ?_, if_neg control⟩) <;> rintro rfl <;> cases short

/-- A character inside a literal is told from what stands behind it. -/
theorem escapedChar_append_inj {c d : Char} {r s : List Char}
    (same : escapedChar c ++ r = escapedChar d ++ s) : c = d ∧ r = s := by
  -- The first character tells whether there is an escape, and the second one which.
  rcases escapedChar_cases c with ⟨l, shortC, writtenC⟩ | ⟨smallC, writtenC⟩ | ⟨-, plainC, writtenC⟩ <;>
    rcases escapedChar_cases d with ⟨m, shortD, writtenD⟩ | ⟨smallD, writtenD⟩ | ⟨-, plainD, writtenD⟩ <;>
    rw [writtenC, writtenD] at same <;>
    simp only [List.cons_append, List.nil_append, List.cons.injEq, true_and] at same
  · -- Two letters that are equal stand for one character.
    obtain ⟨rfl, rests⟩ := same
    have back := (unescaped?_of_shortEscape? shortC).1
    rw [(unescaped?_of_shortEscape? shortD).1] at back
    exact ⟨(Option.some.inj back).symm, rests⟩
  · -- A letter is not the mark of a code.
    exact absurd same.1 (unescaped?_of_shortEscape? shortC).2
  · -- An escape starts with a backslash, and a plain character is none.
    exact absurd same.1.symm plainD
  · exact absurd same.1.symm (unescaped?_of_shortEscape? shortD).2
  · -- Four digits tell a code that is this small.
    obtain ⟨codes, rests⟩ := List.append_inj same (by simp)
    have numbers := mod_eq_of_hexDigits codes
    refine ⟨Char.toNat_inj.1 ?_, rests⟩
    omega
  · exact absurd same.1.symm plainD
  · exact absurd same.1 plainC
  · exact absurd same.1 plainC
  · exact same

/-- The inside of a literal does not begin with the quote that closes it. -/
theorem escapedChar_ne_quote (c : Char) (r s : List Char) : escapedChar c ++ r ≠ '"' :: s := by
  -- An escape begins with a backslash.
  rcases escapedChar_cases c with ⟨l, -, written⟩ | ⟨-, written⟩ | ⟨plain, -, written⟩ <;>
    rw [written] <;> simp
  exact fun quote => absurd quote plain

/-- The inside of a literal and its closing quote are told from what stands behind them. -/
theorem escapedChars_append_inj : {a b : List Char} → {r s : List Char} →
    a.flatMap escapedChar ++ '"' :: r = b.flatMap escapedChar ++ '"' :: s → a = b ∧ r = s
  | [], [], r, s, same => ⟨rfl, (List.cons.inj same).2⟩
  | [], d :: b, r, s, same => by
    -- One of the literals is closed where the other one goes on.
    rw [List.flatMap_cons, List.append_assoc] at same
    exact absurd same.symm (escapedChar_ne_quote d _ _)
  | c :: a, [], r, s, same => by
    rw [List.flatMap_cons, List.append_assoc] at same
    exact absurd same (escapedChar_ne_quote c _ _)
  | c :: a, d :: b, r, s, same => by
    rw [List.flatMap_cons, List.flatMap_cons, List.append_assoc, List.append_assoc] at same
    -- The first characters agree, and so do the rests.
    obtain ⟨rfl, rests⟩ := escapedChar_append_inj same
    obtain ⟨rfl, behind⟩ := escapedChars_append_inj rests
    exact ⟨rfl, behind⟩

/-- A literal is told from what stands behind it. -/
theorem stringChars_append_inj {a b : String} {r s : List Char}
    (same : stringChars a ++ r = stringChars b ++ s) : a = b ∧ r = s := by
  rw [stringChars, stringChars, List.cons_append, List.cons_append, List.append_assoc,
    List.append_assoc] at same
  obtain ⟨chars, behind⟩ := escapedChars_append_inj (List.cons.inj same).2
  exact ⟨String.toList_inj.1 chars, behind⟩

/-- What kind of value a text can stand for. -/
inductive Shape where
  | null
  | truth (value : Bool)
  | number
  | text
  | sequence
  | mapping

/-- The shape of a value. -/
def shape : Json → Shape
  | .null => .null
  | .bool value => .truth value
  | .num _ => .number
  | .str _ => .text
  | .arr _ => .sequence
  | .obj _ => .mapping

/-- The shape of the values whose text begins with a character. -/
def shapeOf? (c : Char) : Option Shape :=
  if isNumberChar c then some .number
  -- Words are told by their first letter, and all else by its opening mark.
  else if c = 'n' then some .null
  else if c = 't' then some (.truth true)
  else if c = 'f' then some (.truth false)
  else if c = '"' then some .text
  else if c = '[' then some .sequence
  else if c = '\x7b' then some .mapping
  else none

/-- The first character of a text tells the shape of the value. -/
theorem chars_lead (value : Json) :
    ∃ c rest, chars value = c :: rest ∧ shapeOf? c = some value.shape := by
  -- The first character is written out in each case; only a number needs a look at its text.
  match value with
  | .null => exact ⟨_, _, rfl, rfl⟩
  | .bool true => exact ⟨_, _, rfl, rfl⟩
  | .bool false => exact ⟨_, _, rfl, rfl⟩
  | .str _ => exact ⟨_, _, rfl, rfl⟩
  | .arr [] => exact ⟨_, _, rfl, rfl⟩
  | .arr (_ :: _) => exact ⟨_, _, rfl, rfl⟩
  | .obj [] => exact ⟨_, _, rfl, rfl⟩
  | .obj (_ :: _) => exact ⟨_, _, rfl, rfl⟩
  | .num n =>
    obtain ⟨c, rest, written⟩ := List.exists_cons_of_ne_nil n.chars_ne_nil
    have digit : isNumberChar c = true := n.isNumberChar_of_mem_chars (written ▸ List.mem_cons_self ..)
    exact ⟨c, rest, written, if_pos digit⟩

/-- Texts that go on alike stand for values of one shape. -/
theorem shape_eq {a b : Json} {r s : List Char} (same : chars a ++ r = chars b ++ s) :
    a.shape = b.shape := by
  obtain ⟨c, restA, writtenA, shapeA⟩ := chars_lead a
  obtain ⟨d, restB, writtenB, shapeB⟩ := chars_lead b
  rw [writtenA, writtenB] at same
  -- Both texts begin with the same character.
  obtain rfl : c = d := (List.cons.inj same).1
  exact Option.some.inj (shapeA.symm.trans shapeB)

/-- No text of a value begins with a closing bracket. -/
theorem chars_ne_bracket (value : Json) (r s : List Char) : chars value ++ r ≠ ']' :: s := by
  obtain ⟨c, rest, written, shape⟩ := chars_lead value
  rw [written]
  rintro same
  -- A bracket that closes belongs to no shape.
  obtain rfl : c = ']' := (List.cons.inj same).1
  cases shape

/-- In front of an item that follows a number cannot go on, and neither where there is none. -/
theorem itemsChars_stop (items : List Json) (r : List Char) :
    ∀ c ∈ (itemsChars items ++ r).head?, isNumberChar c = false := by
  -- A comma comes next, or a bracket.
  cases items <;> simp [itemsChars] <;> rfl

/-- In front of a field that follows a number cannot go on, and neither where there is none. -/
theorem fieldsChars_stop (fields : List (String × Json)) (r : List Char) :
    ∀ c ∈ (fieldsChars fields ++ r).head?, isNumberChar c = false := by
  -- A comma comes next, or a brace.
  rcases fields with _ | ⟨⟨name, value⟩, rest⟩ <;> simp [fieldsChars] <;> rfl

mutual

/-- A value is told from what stands behind it, if a number cannot go on there. -/
theorem chars_append_inj : (a b : Json) → {r s : List Char} →
    (∀ c ∈ r.head?, isNumberChar c = false) → (∀ c ∈ s.head?, isNumberChar c = false) →
    chars a ++ r = chars b ++ s → a = b ∧ r = s
  | .null, b, r, s, _, _, same => by
    have shapes := shape_eq same
    cases b <;> cases shapes
    -- There is one null.
    simpa [chars] using same
  | .bool value, b, r, s, _, _, same => by
    have shapes := shape_eq same
    cases b <;> cases shapes
    -- Truth values of one shape are equal.
    exact ⟨rfl, List.append_cancel_left same⟩
  | .num n, b, r, s, stopR, stopS, same => by
    have shapes := shape_eq same
    cases b <;> cases shapes
    obtain ⟨rfl, behind⟩ := Number.chars_append_inj stopR stopS same
    exact ⟨rfl, behind⟩
  | .str text, b, r, s, _, _, same => by
    have shapes := shape_eq same
    cases b <;> cases shapes
    obtain ⟨rfl, behind⟩ := stringChars_append_inj same
    exact ⟨rfl, behind⟩
  | .arr [], b, r, s, _, _, same => by
    have shapes := shape_eq same
    rcases b with _ | _ | _ | _ | (_ | ⟨other, others⟩) | _ <;> cases shapes
    · simpa [chars] using same
    · simp only [chars, List.cons_append, List.append_assoc, List.cons.injEq, true_and] at same
      -- A sequence that closes at once has no first item.
      exact absurd same.symm (chars_ne_bracket other _ _)
  | .arr (item :: rest), b, r, s, _, _, same => by
    have shapes := shape_eq same
    rcases b with _ | _ | _ | _ | (_ | ⟨other, others⟩) | _ <;> cases shapes
    · simp only [chars, List.cons_append, List.append_assoc, List.cons.injEq, true_and] at same
      exact absurd same (chars_ne_bracket item _ _)
    · -- Behind the bracket the items stand as they do behind a comma.
      obtain ⟨same, behind⟩ := itemsChars_append_inj (item :: rest) (other :: others) (r := r) (s := s)
        (congrArg (',' :: ·) (List.cons.inj same).2)
      exact ⟨congrArg Json.arr same, behind⟩
  | .obj [], b, r, s, _, _, same => by
    have shapes := shape_eq same
    rcases b with _ | _ | _ | _ | _ | (_ | ⟨other, others⟩) <;> cases shapes
    · simpa [chars] using same
    · -- A mapping that closes at once has no first name.
      simp [chars, stringChars] at same
  | .obj (field :: rest), b, r, s, _, _, same => by
    have shapes := shape_eq same
    rcases b with _ | _ | _ | _ | _ | (_ | ⟨other, others⟩) <;> cases shapes
    · simp [chars, stringChars] at same
    · -- Behind the brace the fields stand as they do behind a comma.
      obtain ⟨same, behind⟩ := fieldsChars_append_inj (field :: rest) (other :: others) (r := r) (s := s)
        (congrArg (',' :: ·) (List.cons.inj same).2)
      exact ⟨congrArg Json.obj same, behind⟩

/-- The items up to a bracket are told from what stands behind it. -/
theorem itemsChars_append_inj : (a b : List Json) → {r s : List Char} →
    itemsChars a ++ r = itemsChars b ++ s → a = b ∧ r = s
  | [], b, r, s, same => by
    cases b <;> simp [itemsChars] at same
    exact ⟨rfl, same⟩
  | item :: rest, b, r, s, same => by
    rcases b with _ | ⟨other, others⟩
    · simp [itemsChars] at same
    · simp only [itemsChars, List.cons_append, List.append_assoc, List.cons.injEq, true_and] at same
      -- The first items end where a comma or a bracket follows.
      obtain ⟨rfl, tail⟩ := chars_append_inj item other (itemsChars_stop rest r)
        (itemsChars_stop others s) same
      obtain ⟨rfl, behind⟩ := itemsChars_append_inj rest others tail
      exact ⟨rfl, behind⟩

/-- The fields up to a brace are told from what stands behind it. -/
theorem fieldsChars_append_inj : (a b : List (String × Json)) → {r s : List Char} →
    fieldsChars a ++ r = fieldsChars b ++ s → a = b ∧ r = s
  | [], b, r, s, same => by
    cases b <;> simp [fieldsChars] at same
    exact ⟨rfl, same⟩
  | (name, value) :: rest, b, r, s, same => by
    rcases b with _ | ⟨⟨other, content⟩, others⟩
    · simp [fieldsChars] at same
    · simp only [fieldsChars, List.cons_append, List.append_assoc, List.cons.injEq, true_and] at same
      -- The name ends with its quote, and its value in front of a comma or a brace.
      obtain ⟨rfl, marked⟩ := stringChars_append_inj same
      obtain ⟨rfl, tail⟩ := chars_append_inj value content (fieldsChars_stop rest r)
        (fieldsChars_stop others s) (List.cons.inj marked).2
      obtain ⟨rfl, behind⟩ := fieldsChars_append_inj rest others tail
      exact ⟨rfl, behind⟩

end

/-- Values with one compact text are equal. -/
theorem compact_inj {a b : Json} (same : a.compact = b.compact) : a = b := by
  have chars : a.chars ++ [] = b.chars ++ [] := by
    rw [List.append_nil, List.append_nil]
    -- Nothing follows the two texts, so nothing has to stop a number.
    exact String.ofList_inj.1 same
  exact (chars_append_inj a b (by simp) (by simp) chars).1

end Json

end Minigame
