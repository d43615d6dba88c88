import Mathlib.Computability.Language
import Minigame.Proofs.Text.Classes

/-!
What patterns fit.

A pattern without edges and captures reads a language: it fits the texts of the language, wherever
they stand. What a pattern finds is one of its fits, at a place of the text.
-/

namespace Minigame.Text

/-- The place in a text between two parts of it. -/
def Place.between (front rest : List Char) (captures : List (String × List Char)) : Place :=
  ⟨front.getLast?, rest, captures⟩

namespace Pattern

variable {front text : List Char} {captures : List (String × List Char)} {later : Place}

theorem mem_ends_empty {place : Place} : later ∈ empty.ends place ↔ later = place :=
  List.mem_singleton

/-- What one of two patterns fits is what the one or the other fits. -/
theorem mem_ends_orElse {first second : Pattern} {place : Place} :
    later ∈ (orElse first second).ends place ↔
      later ∈ first.ends place ∨ later ∈ second.ends place :=
  List.mem_append

/-- What one of several patterns fits is what some one of them fits. -/
theorem mem_ends_choice {patterns : List Pattern} {place later : Place} :
    later ∈ (choice patterns).ends place ↔ ∃ pattern ∈ patterns, later ∈ pattern.ends place := by
  fun_induction choice patterns with
  | case1 =>
    -- No character is of the empty class.
    simp only [ends, List.not_mem_nil, false_and, exists_false, iff_false]
    split <;> simp
  | case2 pattern => simp
  | case3 pattern rest _ ih => simp [mem_ends_orElse, ih]

/-- What two patterns behind one another fit. -/
theorem mem_ends_andThen {first second : Pattern} {place : Place} :
    later ∈ (andThen first second).ends place ↔
      ∃ middle ∈ first.ends place, later ∈ second.ends middle :=
  List.mem_flatMap

theorem mem_ends_sequence_cons {first : Pattern} {others : List Pattern} {place : Place} :
    later ∈ (sequence (first :: others)).ends place ↔
      ∃ middle ∈ first.ends place, later ∈ (sequence others).ends middle :=
  mem_ends_andThen

theorem mem_ends_sequence_nil {place : Place} : later ∈ (sequence []).ends place ↔ later = place :=
  mem_ends_empty

theorem mem_ends_edge {place : Place} :
    later ∈ edge.ends place ↔ place.isWordEdge = true ∧ later = place := by
  change later ∈ (if place.isWordEdge = true then [place] else []) ↔ _
  split <;> simp [*]

theorem mem_ends_optional {pattern : Pattern} {place : Place} :
    later ∈ (Pattern.optional pattern).ends place ↔ later ∈ pattern.ends place ∨ later = place := by
  rw [Pattern.optional, mem_ends_orElse, mem_ends_empty]

/-- A pattern reads a language if it fits the texts of the language and captures nothing. -/
def Reads (pattern : Pattern) (language : Language Char) : Prop :=
  ∀ front text captures later, later ∈ pattern.ends (.between front text captures) ↔
    ∃ run ∈ language, ∃ rest, text = run ++ rest ∧ later = .between (front ++ run) rest captures

/-- The texts of characters of a class. -/
def allOf (accepts : Char → Bool) : Language Char :=
  {run | ∀ c ∈ run, accepts c = true}

/-- The texts of characters of a class, without the empty one. -/
def someOf (accepts : Char → Bool) : Language Char :=
  {run | run ≠ [] ∧ ∀ c ∈ run, accepts c = true}

/-- The single characters of a class. -/
def oneOf (accepts : Char → Bool) : Language Char :=
  {run | ∃ c, run = [c] ∧ accepts c = true}

/-- The forms of a text in lower case, where case does not matter. -/
def formsOf (letters : List Char) : Language Char :=
  {run | run.map foldLetter = letters}

/-- The forms of some words. -/
def spelled (words : List String) : Language Char :=
  {run | ∃ word ∈ words, run.map foldLetter = word.toList}

theorem mem_allOf {accepts : Char → Bool} {run : List Char} :
    run ∈ allOf accepts ↔ ∀ c ∈ run, accepts c = true :=
  Iff.rfl

theorem mem_someOf {accepts : Char → Bool} {run : List Char} :
    run ∈ someOf accepts ↔ run ≠ [] ∧ ∀ c ∈ run, accepts c = true :=
  Iff.rfl

theorem mem_oneOf {accepts : Char → Bool} {run : List Char} :
    run ∈ oneOf accepts ↔ ∃ c, run = [c] ∧ accepts c = true :=
  Iff.rfl

theorem mem_spelled {words : List String} {run : List Char} :
    run ∈ spelled words ↔ ∃ word ∈ words, run.map foldLetter = word.toList :=
  Iff.rfl

/-- A form of one of some words is a form of one of more words. -/
theorem spelled_mono {words others : List String} (listed : ∀ word ∈ words, word ∈ others)
    {run : List Char} : run ∈ spelled words → run ∈ spelled others :=
  fun ⟨word, inWords, same⟩ => ⟨word, listed word inWords, same⟩

theorem reads_empty : empty.Reads 1 := by
  intro front text captures later
  simp [mem_ends_empty, Language.mem_one]

theorem reads_one (accepts : Char → Bool) : (one accepts).Reads (oneOf accepts) := by
  intro front text captures later
  unfold ends
  cases text with
  -- There is no character to fit.
  | nil => simp [Place.between, mem_oneOf]
  | cons c rest =>
    simp only [Place.between]
    constructor
    · -- The character in front is fitted if the class accepts it.
      intro fits
      split at fits
      · next accepted =>
        refine ⟨[c], ⟨c, rfl, accepted⟩, rest, rfl, ?_⟩
        simpa using fits
      · cases fits
    · -- A text of one character is the first one of the whole.
      rintro ⟨_, ⟨d, rfl, accepted⟩, others, whole, rfl⟩
      obtain ⟨rfl, rfl⟩ := List.cons.inj whole
      simp [accepted]

/-- A run of characters of a class leads behind every part of it. -/
theorem mem_runs {accepts : Char → Bool} {before : Option Char} :
    later ∈ runs accepts captures before text ↔
      ∃ run ∈ allOf accepts, ∃ rest, text = run ++ rest
        ∧ later = ⟨run.getLast?.or before, rest, captures⟩ := by
  -- By induction on the text: each further place lies behind one more accepted character.
  fun_induction runs accepts captures before text with
  | case1 before => simp [mem_allOf]
  | case2 before c rest ih =>
    rw [List.mem_cons]
    constructor
    · rintro (rfl | later)
      · -- The place in front of all of them belongs to the empty run.
        exact ⟨[], nofun, c :: rest, rfl, rfl⟩
      · split at later
        · next accepted =>
          -- A place farther on lies behind the character and a run of the rest.
          obtain ⟨run, all, behind, rfl, rfl⟩ := ih.1 later
          refine ⟨c :: run, List.forall_mem_cons.2 ⟨accepted, all⟩, behind, rfl, ?_⟩
          cases run <;> rfl
        · cases later
    · rintro ⟨run, all, behind, whole, rfl⟩
      cases run with
      -- Nothing has been run through yet.
      | nil => exact .inl (by rw [whole]; rfl)
      | cons d run =>
        obtain ⟨rfl, rfl⟩ := List.cons.inj whole
        obtain ⟨accepted, all⟩ := List.forall_mem_cons.1 all
        rw [if_pos accepted]
        refine .inr (ih.2 ⟨run, all, behind, rfl, ?_⟩)
        cases run <;> rfl

theorem reads_most (accepts : Char → Bool) : (most accepts).Reads (allOf accepts) := by
  intro front text captures later
  change later ∈ (runs accepts captures front.getLast? text).reverse ↔ _
  -- The places are the same as for the fewest characters, and only their order differs.
  rw [List.mem_reverse, mem_runs]
  simp only [Place.between, List.getLast?_append]

theorem reads_fewest (accepts : Char → Bool) : (fewest accepts).Reads (allOf accepts) := by
  intro front text captures later
  change later ∈ runs accepts captures front.getLast? text ↔ _
  rw [mem_runs]
  simp only [Place.between, List.getLast?_append]

section

variable {first second : Pattern} {language other : Language Char}

theorem Reads.andThen (reads : first.Reads language) (readsOther : second.Reads other) :
    (andThen first second).Reads (language * other) := by
  intro front text captures later
  rw [mem_ends_andThen]
  constructor
  · rintro ⟨middle, fits, behind⟩
    -- The second pattern goes on where the first one has ended.
    obtain ⟨run, listed, rest, rfl, rfl⟩ := (reads _ _ _ _).1 fits
    obtain ⟨more, moreListed, rest, rfl, rfl⟩ := (readsOther _ _ _ _).1 behind
    exact ⟨run ++ more, Language.mem_mul.2 ⟨run, listed, more, moreListed, rfl⟩, rest, by simp⟩
  · rintro ⟨_, both, rest, rfl, rfl⟩
    -- A text of the product is cut into its two parts, and each pattern fits one of them.
    obtain ⟨run, listed, more, moreListed, rfl⟩ := Language.mem_mul.1 both
    exact ⟨.between (front ++ run) (more ++ rest) captures,
      (reads _ _ _ _).2 ⟨run, listed, more ++ rest, by simp, rfl⟩,
      (readsOther _ _ _ _).2 ⟨more, moreListed, rest, by simp⟩⟩

theorem Reads.orElse (reads : first.Reads language) (readsOther : second.Reads other) :
    (orElse first second).Reads (language + other) := by
  intro front text captures later
  rw [mem_ends_orElse, reads, readsOther]
  simp only [Language.mem_add, or_and_right, exists_or]

theorem Reads.optional (reads : first.Reads language) : (optional first).Reads (language + 1) :=
  reads.orElse reads_empty

end

/-! ### Runs and words -/

/-- One character of a class and then as many as there are. -/
theorem reads_some (accepts : Char → Bool) :
    (andThen (one accepts) (most accepts)).Reads (someOf accepts) := by
  -- The pattern reads a product of languages, which is the language in question.
  have split : oneOf accepts * allOf accepts = someOf accepts := by
    ext run
    rw [Language.mem_mul, mem_someOf]
    constructor
    · rintro ⟨_, ⟨c, rfl, accepted⟩, more, all, rfl⟩
      exact ⟨nofun, List.forall_mem_cons.2 ⟨accepted, all⟩⟩
    · -- The run has a first character, and the others follow it.
      rintro ⟨nonempty, all⟩
      cases run with
      | nil => exact absurd rfl nonempty
      | cons c more =>
        obtain ⟨accepted, all⟩ := List.forall_mem_cons.1 all
        exact ⟨[c], ⟨c, rfl, accepted⟩, more, all, rfl⟩
  exact split ▸ (reads_one accepts).andThen (reads_most accepts)

theorem reads_gap : gap.Reads (someOf isBlank) :=
  reads_some isBlank

theorem reads_digits : digits.Reads (someOf isDecimalDigit) :=
  reads_some isDecimalDigit

/-- Letters behind one another fit their forms. -/
theorem reads_letters (letters : List Char) :
    (sequence (letters.map fun letter => one fun c => foldLetter c = letter)).Reads
      (formsOf letters) := by
  induction letters with
  | nil =>
    -- Without letters there is only the empty text.
    have none : 1 = formsOf [] := by
      ext run
      exact (Language.mem_one run).trans List.map_eq_nil_iff.symm
    exact none ▸ reads_empty
  | cons letter letters ih =>
    -- A form of the letters is a form of the first one in front of a form of the others.
    have split : oneOf (fun c => foldLetter c = letter) * formsOf letters
        = formsOf (letter :: letters) := by
      ext run
      rw [Language.mem_mul]
      constructor
      · rintro ⟨_, ⟨c, rfl, same⟩, more, rest, rfl⟩
        exact congrArg₂ List.cons (of_decide_eq_true same) rest
      · intro folded
        obtain ⟨c, more, rfl, same, rest⟩ := List.map_eq_cons_iff.1 folded
        exact ⟨[c], ⟨c, rfl, decide_eq_true same⟩, more, rest, rfl⟩
    exact split ▸ (reads_one _).andThen ih

/-- A word fits its forms. -/
theorem reads_word (text : String) : (word text).Reads (spelled [text]) := by
  have single : formsOf text.toList = spelled [text] := by
    ext run
    simp only [mem_spelled, List.mem_singleton, exists_eq_left]
    rfl
  exact single ▸ reads_letters text.toList

/-- What patterns of words read together. -/
theorem reads_choice {patterns : List Pattern} {groups : List (List String)}
    (each : List.Forall₂ (fun pattern words => pattern.Reads (spelled words)) patterns groups) :
    (choice patterns).Reads (spelled groups.flatten) := by
  intro front text captures later
  rw [mem_ends_choice]
  -- Pattern by pattern, with the words of each.
  induction each with
  | nil => simp [mem_spelled]
  | cons reads _ ih =>
    rename_i pattern words patterns groups
    simp only [List.exists_mem_cons_iff, ih, reads front text captures later, mem_spelled,
      List.flatten_cons, List.mem_append, or_and_right, exists_or]

theorem reads_words (texts : List String) : (words texts).Reads (spelled texts) := by
  have each : List.Forall₂ (fun pattern words => pattern.Reads (spelled words)) (texts.map word)
      (texts.map ([·])) := by
    -- Each word is a group of its own.
    rw [List.forall₂_map_left_iff, List.forall₂_map_right_iff, List.forall₂_same]
    exact fun text _ => reads_word text
  rw [words]
  simpa only [← List.flatMap_def, List.flatMap_singleton'] using reads_choice each

/-- A noun fits the forms of its singular and of its plural. -/
theorem reads_noun (text : String) : (noun text).Reads (spelled [text, text ++ "s"]) := by
  -- With the ending the word is a form of the plural, and without it one of the singular.
  have both : spelled [text] * (spelled ["s"] + 1) = spelled [text, text ++ "s"] := by
    ext run
    simp only [Language.mem_mul, Language.mem_add, Language.mem_one, mem_spelled, exists_eq_left,
      List.mem_cons, List.not_mem_nil, or_false, exists_eq_or_imp, String.toList_append]
    constructor
    · -- The name comes first, with the ending behind it or with nothing.
      rintro ⟨name, spells, rest, plural | rfl, rfl⟩
      · exact .inr (by rw [List.map_append, spells, plural])
      · exact .inl (by rwa [List.append_nil])
    · rintro (singular | plural)
      · exact ⟨run, singular, [], .inr rfl, by simp⟩
      · -- The last letter of a plural is cut off.
        obtain ⟨name, rest, rfl, spells, last⟩ := List.map_eq_append_iff.1 plural
        exact ⟨name, spells, rest, .inl last, rfl⟩
  exact both ▸ (reads_word text).andThen (reads_word "s").optional

/-! ### Captures and finds -/

/-- What is captured is the text that is fitted. -/
theorem Reads.mem_ends_capture {inner : Pattern} {language : Language Char}
    (reads : inner.Reads language) (name : String) :
    later ∈ (capture name inner).ends (.between front text captures) ↔
      ∃ run ∈ language, ∃ rest, text = run ++ rest
        ∧ later = .between (front ++ run) rest ((name, run) :: captures) := by
  -- What lies between two places is what the second one has less behind it.
  have taken (run rest : List Char) :
      (Place.between front (run ++ rest) captures).upTo (.between (front ++ run) rest captures)
        = run := by
    simp [Place.upTo, Place.between]
  refine List.mem_map.trans ⟨?_, ?_⟩
  · -- The inner pattern has ended somewhere, and what it ran through is captured.
    rintro ⟨middle, fits, rfl⟩
    obtain ⟨run, listed, rest, rfl, rfl⟩ := (reads _ _ _ _).1 fits
    exact ⟨run, listed, rest, rfl, by rw [taken]; rfl⟩
  · rintro ⟨run, listed, rest, rfl, rfl⟩
    refine ⟨_, (reads _ _ _ _).2 ⟨run, listed, rest, rfl, rfl⟩, ?_⟩
    rw [taken]
    rfl

theorem mem_of_findFrom? {pattern : Pattern}
    (found : pattern.findFrom? front.getLast? text = some later) :
    ∃ skipped rest, text = skipped ++ rest
      ∧ later ∈ pattern.ends (.between (front ++ skipped) rest []) := by
  -- By induction on the text, with the place of the search moving along.
  induction text generalizing front with
  | nil => exact ⟨[], [], rfl, by simpa [Place.between] using List.mem_of_head? found⟩
  | cons c text ih =>
    rw [findFrom?, Option.orElse_eq_orElse, Option.orElse_eq_or, Option.or_eq_some_iff] at found
    -- It is a fit here, or one farther on with one more character skipped.
    rcases found with here | ⟨-, beyond⟩
    · -- Nothing is skipped where the pattern fits at once.
      exact ⟨[], c :: text, rfl, by simpa [Place.between] using List.mem_of_head? here⟩
    · rw [← List.getLast?_concat (l := front)] at beyond
      obtain ⟨skipped, rest, rfl, fits⟩ := ih beyond
      exact ⟨c :: skipped, rest, rfl, by simpa using fits⟩

/-- What is found is a fit at a place of the text. -/
theorem mem_of_find? {pattern : Pattern} {text : String} (found : pattern.find? text = some later) :
    ∃ front rest, text.toList = front ++ rest ∧ later ∈ pattern.ends (.between front rest []) := by
  have atStart : pattern.findFrom? ([] : List Char).getLast? text.toList = some later := found
  exact mem_of_findFrom? atStart

/-- A fit at the start of a text is found first. -/
theorem find?_of_start {pattern : Pattern} {text : String}
    (fits : later ∈ pattern.ends (.between [] text.toList [])) :
    ∃ found ∈ pattern.ends (.between [] text.toList []), pattern.find? text = some found := by
  -- There is some fit at the start, so the search ends there with the preferred one.
  have nonempty := List.ne_nil_of_mem fits
  refine ⟨_, List.head_mem nonempty, ?_⟩
  rw [find?, ← List.head?_eq_some_head nonempty]
  generalize text.toList = chars at nonempty
  cases chars with
  -- At the end of the text the search looks at this place alone.
  | nil => rfl
  | cons c rest =>
    rw [findFrom?, Option.orElse_eq_orElse, Option.orElse_eq_or]
    exact Option.or_of_isSome (List.isSome_head?.2 nonempty)

end Pattern

end Minigame.Text
