import Minigame.Proofs.Json.Parsed

/-!
The reader of JSON text in the midst of a text.

No literal is open in front of a value, and behind a complete one only white space is read. So a
sequence in brackets that is a value is what any text around it is read as, if the text is read at
all and has no bracket, brace or quote in front of the sequence.
-/

namespace Minigame.Json

open Minigame.Text

namespace Lexer

/-- Whether no string literal is open. -/
def IsOutside : Lexer → Prop
  | .between | .word _ | .number _ => True
  | _ => False

variable {lexer next : Lexer} {c : Char} {tokens : List Token}

/-- No character but a quote begins a literal. -/
theorem isOutside_of_start (other : c ≠ '"') (begun : start c = some (tokens, next)) :
    next.IsOutside := by
  unfold start at begun
  repeat' split at begun
  case isFalse =>
    -- A mark is a token, and nothing is open behind it.
    obtain ⟨mark, -, same⟩ := Option.map_eq_some_iff.1 begun
    cases same
    trivial
  all_goals
    cases begun
    trivial

theorem start_of_restart (read : lexer.restart c = some (tokens, next)) :
    ∃ begun, start c = some (begun, next) := by
  simp only [restart, Option.bind_eq_bind, Option.bind_eq_some_iff] at read
  obtain ⟨ended, -, ⟨begun, lexer⟩, started, same⟩ := read
  -- What is pending ends first, and then the character starts anew.
  cases same
  exact ⟨begun, started⟩

/-- Outside of literals a character goes on with a word or a number, or it begins anew. -/
theorem IsOutside.step_cases (outside : lexer.IsOutside)
    (read : lexer.step c = some (tokens, next)) :
    (next.IsOutside ∧ c ≠ '"') ∨ ∃ begun, start c = some (begun, next) := by
  cases lexer with
  | between => exact .inr ⟨tokens, read⟩
  | word letters =>
    simp only [Lexer.step] at read
    split at read
    -- A letter goes on with the word, and a quote is none.
    next letter =>
      cases read
      exact .inl ⟨trivial, by rintro rfl; cases letter⟩
    next => exact .inr (start_of_restart read)
  | number characters =>
    simp only [Lexer.step] at read
    split at read
    -- A quote is no character of numbers either.
    next digit =>
      cases read
      exact .inl ⟨trivial, by rintro rfl; revert digit; decide⟩
    next => exact .inr (start_of_restart read)
  | _ => exact outside.elim

/-- Outside of literals no character but a quote opens one. -/
theorem IsOutside.step (outside : lexer.IsOutside) (other : c ≠ '"')
    (read : lexer.step c = some (tokens, next)) : next.IsOutside := by
  rcases outside.step_cases read with ⟨kept, -⟩ | ⟨begun, started⟩
  · exact kept
  · exact isOutside_of_start other started

/-- Outside of literals a quote opens one, if it can stand there at all. -/
theorem IsOutside.step_quote (outside : lexer.IsOutside)
    (read : lexer.step '"' = some (tokens, next)) : next = .text [] := by
  rcases outside.step_cases read with ⟨-, other⟩ | ⟨begun, started⟩
  · -- A quote neither goes on with a word nor with a number.
    exact absurd rfl other
  · cases started
    rfl

/-- Outside of literals a mark ends what stands in front of it. -/
theorem IsOutside.step_mark (outside : lexer.IsOutside) {mark : Token}
    (known : punctuation? c = some mark) :
    lexer.step c = lexer.pending.map fun ended => (ended ++ [mark], .between) := by
  -- No mark can go on with a word or a number, or stand for white space or a first character.
  have started : start c = some ([mark], .between) := by
    unfold punctuation? at known
    split at known <;> cases known <;> rfl
  have restarted : lexer.restart c =
      lexer.pending.map fun ended => (ended ++ [mark], .between) := by
    cases ended : lexer.pending <;> simp [restart, ended, started]
  cases lexer with
  | between => exact started
  -- A mark is no letter, so it ends the word.
  | word letters =>
    rw [← restarted, Lexer.step, if_neg]
    unfold punctuation? at known
    split at known <;> cases known <;> decide
  | number characters =>
    rw [← restarted, Lexer.step, if_neg]
    unfold punctuation? at known
    split at known <;> cases known <;> decide
  | _ => exact outside.elim

/-- Behind a closing bracket a literal is still open, or a token has ended. -/
theorem between_or_text_of_bracket (read : lexer.step ']' = some (tokens, next)) :
    next = .between ∨ ∃ done, next = .text done := by
  by_cases outside : lexer.IsOutside
  · -- Outside of literals the bracket is a token of its own.
    rw [outside.step_mark rfl] at read
    obtain ⟨ended, -, same⟩ := Option.map_eq_some_iff.1 read
    cases same
    exact .inl rfl
  · -- An escape or a code cannot go on with a bracket.
    cases lexer with
    | text done =>
      cases read
      exact .inr ⟨_, rfl⟩
    | between | word | number => exact absurd trivial outside
    | _ => cases read

end Lexer

/-- The characters that open a container or a literal. -/
def openingChars : List Char := ['[', '\x7b', '"']

/-- Only an opening character makes a token that opens a container. -/
theorem Token.MadeBy.mem_openingChars {c : Char} {token : Token} (made : token.MadeBy c)
    (opens : token = .openArray ∨ token = .openObject) : c ∈ openingChars := by
  cases made with
  | mark known =>
    unfold punctuation? at known
    split at known <;> cases known <;> simp [openingChars] at opens ⊢
  -- Texts and scalars open nothing.
  | text | scalar => simp at opens

/-- To a complete value no token is added. -/
theorem Builder.eq_of_complete {value : Json} {tokens : List Token} {next : Builder}
    (pushed : tokens.foldlM push (.complete value) = some next) :
    tokens = [] ∧ next = .complete value := by
  cases tokens with
  | nil =>
    cases pushed
    exact ⟨rfl, rfl⟩
  -- No token fits behind a complete value.
  | cons token rest => cases token <;> cases pushed

namespace Reader

/-- Reads a text, unless it cannot go on like this. -/
def read (reader : Reader) (text : List Char) : Option Reader :=
  text.foldlM step reader

@[simp] theorem read_nil (reader : Reader) : reader.read [] = some reader := rfl

theorem read_cons (reader : Reader) (c : Char) (text : List Char) :
    reader.read (c :: text) = (reader.step c).bind (read · text) := rfl

theorem read_append (reader : Reader) (text more : List Char) :
    reader.read (text ++ more) = (reader.read text).bind (read · more) :=
  List.foldlM_append

/-- A character is a step of the lexer, whatever becomes of its tokens. -/
theorem lexer_of_step {reader next : Reader} {c : Char} (read : reader.step c = some next) :
    ∃ tokens, reader.lexer.step c = some (tokens, next.lexer) := by
  simp only [step, Option.bind_eq_bind, Option.bind_eq_some_iff] at read
  obtain ⟨⟨tokens, lexer⟩, lexed, builder, -, same⟩ := read
  cases same
  exact ⟨tokens, lexed⟩

/-- A text is read from the initial state on. -/
theorem parseChars_eq (text : List Char) :
    parseChars text = (Reader.initial.read text).bind finish := rfl

section

variable {reader next : Reader} {value other : Json} (whole : reader.builder = .complete value)
include whole

/-- A complete value stays what it is while a text behind it is read. -/
theorem read_complete {text : List Char} (read : reader.read text = some next) :
    next.builder = .complete value := by
  -- Character by character: no token can be added any more.
  refine foldlM_kept (fun reader => reader.builder = .complete value) ?_ whole read
  intro reader whole c _ next stepped
  simp only [step, whole, Option.bind_eq_bind, Option.bind_eq_some_iff] at stepped
  obtain ⟨⟨tokens, lexer⟩, -, builder, pushed, same⟩ := stepped
  cases same
  exact (Builder.eq_of_complete pushed).2

/-- At the end of a text the complete value is the one that was read. -/
theorem finish_complete (finished : reader.finish = some other) : other = value := by
  -- What is pending at the end is a token, and none can be added.
  simp only [finish, whole, Option.bind_eq_bind, Option.bind_eq_some_iff] at finished
  obtain ⟨tokens, -, builder, pushed, found⟩ := finished
  obtain ⟨-, rfl⟩ := Builder.eq_of_complete pushed
  exact (Option.some.inj found).symm

/-- Whatever stands behind a complete value, no other value is read. -/
theorem eq_of_complete {text : List Char} (read : (reader.read text).bind finish = some other) :
    other = value := by
  obtain ⟨last, ran, finished⟩ := Option.bind_eq_some_iff.1 read
  exact finish_complete (read_complete whole ran) finished

end

/-- A value whose text ends in a bracket is complete behind the bracket. -/
theorem complete_of_bracket {text : List Char} {value : Json} (closing : text.getLast? = some ']')
    (parsed : parseChars text = some value) :
    Reader.initial.read text = some ⟨.between, .complete value⟩ := by
  obtain ⟨front, rfl⟩ := List.getLast?_eq_some_iff.1 closing
  rw [parseChars_eq] at parsed
  obtain ⟨⟨lexer, builder⟩, read, finished⟩ := Option.bind_eq_some_iff.1 parsed
  -- Behind the bracket no literal is open, since nothing is read at the end of one.
  have between : lexer = .between := by
    -- The bracket is the last character that was read.
    obtain ⟨inner, -, last⟩ := Option.bind_eq_some_iff.1 ((read_append ..).symm.trans read)
    obtain ⟨behind, stepped, same⟩ := Option.bind_eq_some_iff.1 ((read_cons ..).symm.trans last)
    cases same
    obtain ⟨tokens, lexed⟩ := lexer_of_step stepped
    rcases Lexer.between_or_text_of_bracket lexed with here | ⟨done, open_⟩
    · exact here
    · -- A text that ends in a literal has no value.
      subst open_
      cases finished
  subst between
  -- No token is pending, so the value is complete already.
  cases builder with
  | complete found =>
    cases finished
    exact read
  | _ => cases finished

/-- No literal is open, and no container either: a single value may have been read, or a part of one. -/
structure Flat (reader : Reader) : Prop where
  outside : reader.lexer.IsOutside
  single : reader.builder = .expectValue [] ∨ ∃ value, reader.builder = .complete value

/-- Without an opening character nothing is opened. -/
theorem Flat.step {reader next : Reader} {c : Char} (flat : reader.Flat)
    (plain : c ∉ openingChars) (read : reader.step c = some next) : next.Flat := by
  have quote : c ≠ '"' := by
    rintro rfl
    exact plain (by simp [openingChars])
  simp only [Reader.step, Option.bind_eq_bind, Option.bind_eq_some_iff] at read
  obtain ⟨⟨tokens, lexer⟩, lexed, builder, pushed, same⟩ := read
  cases same
  refine ⟨flat.outside.step quote lexed, ?_⟩
  -- A token is added to what may become a value of its own alone.
  refine foldlM_kept (fun builder : Builder => builder = .expectValue [] ∨
    ∃ value, builder = .complete value) ?_ flat.single pushed
  rintro builder (rfl | ⟨value, rfl⟩) token there after added
  · -- A value was still expected, so a token of its own completes it.
    have made := Lexer.madeBy_of_step lexed token there
    cases token with
    | text | scalar => exact .inr ⟨_, (Option.some.inj added).symm⟩
    | openArray => exact absurd (made.mem_openingChars (.inl rfl)) plain
    | openObject => exact absurd (made.mem_openingChars (.inr rfl)) plain
    | _ => cases added
  · -- To a complete value nothing can be added.
    cases token <;> cases added

/-- Only white space can stand in front of a bracket, unless something was opened before. -/
theorem Flat.eq_initial {reader next : Reader} (flat : reader.Flat)
    (read : reader.step '[' = some next) : reader = .initial := by
  obtain ⟨lexer, builder⟩ := reader
  have mark := flat.outside.step_mark (show punctuation? '[' = some .openArray from rfl)
  simp only [Reader.step, Option.bind_eq_bind, Option.bind_eq_some_iff] at read
  obtain ⟨⟨tokens, after⟩, lexed, last, pushed, -⟩ := read
  obtain ⟨ended, pending, same⟩ := Option.map_eq_some_iff.1 (mark.symm.trans lexed)
  cases same
  -- A value, be it complete or only just ended, cannot have a bracket behind it.
  rcases flat.single with rfl | ⟨value, rfl⟩
  · rcases Lexer.pending_cases pending with ⟨rfl, -⟩ | ⟨value, -, rfl⟩
    · rfl
    · cases pushed
  · exact absurd (Builder.eq_of_complete pushed).1 (by simp)

/-- In front of a bracket that is read there is white space alone, unless something was opened. -/
theorem read_eq_initial {text : List Char} {reader next : Reader}
    (plain : ∀ c ∈ text, c ∉ openingChars) (read : Reader.initial.read text = some reader)
    (stepped : reader.step '[' = some next) : reader = .initial := by
  -- A reader starts flat, and no character of the text opens anything.
  have start : Reader.initial.Flat := ⟨trivial, .inl rfl⟩
  have flat : reader.Flat :=
    foldlM_kept Flat (fun _ flat c there _ => flat.step (plain c there)) start read
  exact flat.eq_initial stepped

end Reader

/--
A sequence in brackets is what a text around it is read as, if the text is read as a value at all.

Nothing in front of the sequence opens a container or a literal.
-/
theorem parseChars_around {before array behind : List Char} {value other : Json}
    (plain : ∀ c ∈ before, c ∉ openingChars) (opening : array.head? = some '[')
    (closing : array.getLast? = some ']') (parsed : parseChars array = some value)
    (read : parseChars (before ++ array ++ behind) = some other) : other = value := by
  -- The sequence alone is complete behind its bracket.
  have complete := Reader.complete_of_bracket closing parsed
  obtain ⟨rest, rfl⟩ := List.head?_eq_some_iff.1 opening
  rw [Reader.parseChars_eq, List.append_assoc, Reader.read_append, Option.bind_assoc] at read
  obtain ⟨reader, front, read⟩ := Option.bind_eq_some_iff.1 read
  -- The bracket is read behind what stands in front of it, so that is white space.
  have first : ∃ next, reader.step '[' = some next := by
    rw [List.cons_append, Reader.read_cons] at read
    cases stepped : reader.step '[' with
    | none =>
      rw [stepped] at read
      cases read
    | some next => exact ⟨next, rfl⟩
  obtain ⟨next, stepped⟩ := first
  obtain rfl := Reader.read_eq_initial plain front stepped
  -- From there the sequence is read as it is by itself, and nothing can follow it.
  rw [Reader.read_append, complete, Option.bind_some] at read
  exact Reader.eq_of_complete rfl read

end Minigame.Json
