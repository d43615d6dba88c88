import Minigame.Proofs.Text.Lower
import Minigame.Proofs.Text.Pattern
import Minigame.Proofs.Json.Address

/-!
Words in texts.

A pattern that begins and ends at the edges of a word fits at the words of a text alone. Where words
and what is between them are known, so is each place where such a pattern can fit.
-/

namespace Minigame.Text

open Pattern

/-- An ASCII letter is a form of a letter. -/
theorem isLetter_of_isAsciiLetter {c : Char} (letter : isAsciiLetter c = true) :
    isLetter c = true := by
  rwa [isLetter, foldLetter_of_ascii (toNat_lt_of_isAsciiLetter letter),
    asciiLowerChar_congr isAsciiLetter (by decide)]

/-- A word of letters stands in a text between a part in front of it and a part behind it. -/
structure WordAt (text front word back : List Char) : Prop where
  whole : text = front ++ word ++ back
  nonempty : word ≠ []
  letters : ∀ c ∈ word, isLetter c = true
  starts : ∀ c ∈ front.getLast?, isWordChar c = false
  ends : ∀ c ∈ back.head?, isWordChar c = false

section

variable {words : List String} {run front rest : List Char} {captures : List (String × List Char)}

/-- Words that are not empty and have no other characters than ASCII letters. -/
def lettered (words : List String) : Bool :=
  words.all fun word => !word.toList.isEmpty && word.toList.all isAsciiLetter

/-- The forms of words are not empty. -/
theorem ne_nil_of_spelled (proper : lettered words = true) (spells : run ∈ spelled words) :
    run ≠ [] := by
  obtain ⟨word, listed, same⟩ := spells
  -- Each of the words has a letter, and so has a form of it.
  have named := List.all_eq_true.1 proper word listed
  rintro rfl
  rw [← same] at named
  cases named

/-- The forms of words have no other characters than letters. -/
theorem isLetter_of_spelled (proper : lettered words = true) (spells : run ∈ spelled words) {c : Char}
    (there : c ∈ run) : isLetter c = true := by
  obtain ⟨word, listed, same⟩ := spells
  have named := List.all_eq_true.1 proper word listed
  rw [← same, Bool.and_eq_true, List.all_eq_true] at named
  -- A character of the run is folded to a character of the word.
  exact named.2 _ (List.mem_map_of_mem there)

/-- Inside a form of a word no word ends. -/
theorem isWordChar_of_spelled (proper : lettered words = true) (spells : run ∈ spelled words) :
    ∀ c ∈ run, isWordChar c = true :=
  fun _ there => isWordChar_of_isLetter (isLetter_of_spelled proper spells there)

/-- In ASCII characters the forms of words differ in case alone. -/
theorem mem_spelled_iff_of_ascii (ascii : ∀ c ∈ run, c.toNat < 128) :
    run ∈ spelled words ↔ asciiLower (String.ofList run) ∈ words := by
  -- Folding differs from lower case at two letters beyond ASCII only.
  have folded : run.map foldLetter = run.map asciiLowerChar :=
    List.map_congr_left fun c there => foldLetter_of_ascii (ascii c there)
  rw [mem_spelled, folded, asciiLower, String.toList_ofList]
  constructor
  · rintro ⟨word, listed, same⟩
    rwa [same, String.ofList_toList]
  · exact fun listed => ⟨_, listed, String.toList_ofList.symm⟩

/-- A text in the lower case of a word is a form of it. -/
theorem spelled_of_asciiLower (proper : lettered words = true) {text : String}
    (listed : asciiLower text ∈ words) : text.toList ∈ spelled words := by
  have named := List.all_eq_true.1 proper _ listed
  rw [Bool.and_eq_true, List.all_eq_true, asciiLower, String.toList_ofList] at named
  -- The word has ASCII letters alone, and lower case makes no letter of another character.
  refine (mem_spelled_iff_of_ascii fun c there => ?_).2 (by rwa [String.ofList_toList])
  have letter := named.2 _ (List.mem_map_of_mem there)
  rw [asciiLowerChar_congr isAsciiLetter (by decide)] at letter
  exact toNat_lt_of_isAsciiLetter letter

/-- No text is a form of words from two lists that have none in common. -/
theorem notMem_spelled {others : List String} (apart : ∀ word ∈ words, word ∉ others)
    (spells : run ∈ spelled words) : run ∉ spelled others := by
  rintro ⟨other, otherListed, otherSame⟩
  obtain ⟨word, listed, same⟩ := spells
  -- A run that is a form of two words is folded to both of them.
  obtain rfl : word = other := String.toList_injective (same.symm.trans otherSame)
  exact apart word listed otherListed

/-- In front of letters a word begins exactly where none goes on. -/
theorem isWordEdge_front (nonempty : run ≠ []) (word : ∀ c ∈ run, isWordChar c = true) :
    (Place.between front (run ++ rest) captures).isWordEdge = true ↔
      ∀ c ∈ front.getLast?, isWordChar c = false := by
  -- The run has a first character, and it goes on a word.
  obtain ⟨c, run, rfl⟩ := List.exists_cons_of_ne_nil nonempty
  simp [Place.isWordEdge, Place.between, word c (.head _), Option.any_eq_false]

/-- Behind letters a word ends exactly where it does not go on. -/
theorem isWordEdge_back (nonempty : run ≠ []) (word : ∀ c ∈ run, isWordChar c = true) :
    (Place.between (front ++ run) rest captures).isWordEdge = true ↔
      ∀ c ∈ rest.head?, isWordChar c = false := by
  -- The run has a last character, and it goes on a word.
  obtain ⟨run, c, rfl⟩ := List.eq_nil_or_concat' run |>.resolve_left nonempty
  simp [Place.isWordEdge, Place.between, ← List.append_assoc, word c (by simp), Option.any_eq_false]

end

variable {front word back : List Char} {captures : List (String × List Char)} {place later : Place}

/-- Whole words are fitted between edges. -/
theorem mem_ends_whole {inner : Pattern} :
    later ∈ (whole inner).ends place ↔
      place.isWordEdge = true ∧ later ∈ inner.ends place ∧ later.isWordEdge = true := by
  simp only [whole, mem_ends_andThen, mem_ends_edge]
  constructor
  · rintro ⟨_, ⟨starts, rfl⟩, middle, fits, ends, rfl⟩
    exact ⟨starts, fits, ends⟩
  · rintro ⟨starts, fits, ends⟩
    exact ⟨place, ⟨starts, rfl⟩, later, fits, ends, rfl⟩

/-- The forms of words that stand between edges are words of the text. -/
theorem wordAt_of_edges {words : List String} (proper : lettered words = true)
    (spells : word ∈ spelled words)
    (starts : (Place.between front (word ++ back) captures).isWordEdge = true)
    {others : List (String × List Char)}
    (ends : (Place.between (front ++ word) back others).isWordEdge = true) :
    WordAt (front ++ (word ++ back)) front word back := by
  have nonempty := ne_nil_of_spelled proper spells
  have inside := isWordChar_of_spelled proper spells
  -- The edges say that no word goes on in front of the form or behind it.
  exact ⟨(List.append_assoc ..).symm, nonempty, fun _ => isLetter_of_spelled proper spells,
    (isWordEdge_front nonempty inside).1 starts, (isWordEdge_back nonempty inside).1 ends⟩

namespace WordAt

variable {text : List Char}

/-- All characters of a word go on a word. -/
theorem isWordChar_of_mem (here : WordAt text front word back) {c : Char} (there : c ∈ word) :
    isWordChar c = true :=
  isWordChar_of_isLetter (here.letters c there)

/-- Where letters alone make up a text, its only word is the text. -/
theorem of_letters (letters : ∀ c ∈ text, isLetter c = true)
    (here : WordAt text front word back) : front = [] ∧ word = text ∧ back = [] := by
  obtain ⟨rfl, -, -, starts, ends⟩ := here
  have inside {c : Char} (there : c ∈ front ++ word ++ back) : isWordChar c = true :=
    isWordChar_of_isLetter (letters c there)
  -- A character beside the word would be a letter, and there the word would go on.
  have noFront : front = [] := List.getLast?_eq_none_iff.1 <| Option.eq_none_iff_forall_not_mem.2
    fun c last => by
      have := inside (List.mem_append_left _ (List.mem_append_left _ (List.mem_of_getLast? last)))
      simp [starts c last] at this
  have noBack : back = [] := List.head?_eq_none_iff.1 <| Option.eq_none_iff_forall_not_mem.2
    fun c first => by
      have := inside (List.mem_append_right _ (List.mem_of_head? first))
      simp [ends c first] at this
  simp [noFront, noBack]

/-- Where no letters are, no word is. -/
theorem false_of_no_letters (none : ∀ c ∈ text, isLetter c = false)
    (here : WordAt text front word back) : False := by
  -- The word has a first character, which would be a letter.
  obtain ⟨c, others, same⟩ := List.exists_cons_of_ne_nil here.nonempty
  have letter := here.letters c (same ▸ .head _)
  rw [none c (by simp [here.whole, same])] at letter
  cases letter

/-- A word stands in front of a character that is part of no word, or behind it. -/
theorem split {first second : List Char} {mark : Char} (apart : isWordChar mark = false)
    (here : WordAt (first ++ mark :: second) front word back) :
    (∃ left, back = left ++ mark :: second ∧ WordAt first front word left)
      ∨ ∃ right, front = first ++ mark :: right ∧ WordAt second right word back := by
  -- The mark goes on no word, so the word lies on one side of it.
  have outside : mark ∉ word := fun there => by
    simp [here.isWordChar_of_mem there] at apart
  obtain ⟨whole, nonempty, letters, starts, ends⟩ := here
  rw [List.append_assoc, List.append_eq_append_iff] at whole
  rcases whole with ⟨between, rfl, behind⟩ | ⟨between, rfl, inside⟩
  · cases between with
    -- The word cannot begin with the mark.
    | nil =>
      obtain ⟨c, others, rfl⟩ := List.exists_cons_of_ne_nil nonempty
      cases behind
      exact absurd (.head _) outside
    | cons c right =>
      -- The mark lies in front of the word, and the word in the second part.
      obtain ⟨rfl, rfl⟩ := List.cons.inj behind
      refine .inr ⟨right, rfl, (List.append_assoc ..).symm, nonempty, letters, fun d last => ?_, ends⟩
      exact starts d (by simp [List.getLast?_append, List.getLast?_cons, Option.mem_def.1 last])
  · rw [List.append_eq_append_iff] at inside
    rcases inside with ⟨left, rfl, rfl⟩ | ⟨later, rfl, behind⟩
    · -- The word lies in the first part, and the mark comes behind it.
      refine .inl ⟨left, rfl, (List.append_assoc ..).symm, nonempty, letters, starts, fun d first => ?_⟩
      exact ends d (by simp [Option.mem_def.1 first])
    · cases later with
      | nil => exact .inl ⟨[], behind.symm, by simp, nonempty, letters, starts, nofun⟩
      | cons c others =>
        obtain ⟨rfl, -⟩ := List.cons.inj behind
        -- Otherwise the mark would lie in the word.
        exact absurd (by simp) outside

/-- In a text of letters and blanks the words are among the pieces between blanks. -/
theorem mem_splitChars {text front : List Char} (chars : ∀ c ∈ text, isLetter c = true ∨ c = ' ')
    (here : WordAt text front word back) : word ∈ splitChars ' ' text := by
  -- The text is cut at its first blank, and the rest is shorter.
  by_cases blank : ' ' ∈ text
  · obtain ⟨piece, rest, same, whole⟩ := List.eq_append_cons_of_mem blank
    have shorter : rest.length < text.length := by simp [same]; omega
    rw [same] at here
    rw [same, splitChars_append_cons whole]
    rcases here.split (by decide) with ⟨left, rfl, inside⟩ | ⟨right, rfl, behind⟩
    · have letters : ∀ c ∈ piece, isLetter c = true := fun c there =>
        (chars c (by simp [same, there])).resolve_right fun same => whole (same ▸ there)
      -- The piece has letters alone, so it is the word.
      obtain ⟨-, rfl, -⟩ := inside.of_letters letters
      exact .head _
    · -- The word is one of the rest, which is cut in the same way.
      exact .tail _ (mem_splitChars (fun c there => chars c (by simp [same, there])) behind)
  · have letters : ∀ c ∈ text, isLetter c = true := fun c there =>
      (chars c there).resolve_right fun same => blank (same ▸ there)
    obtain ⟨-, rfl, -⟩ := here.of_letters letters
    simp [splitChars_of_notMem blank]
termination_by text.length

end WordAt

end Minigame.Text
