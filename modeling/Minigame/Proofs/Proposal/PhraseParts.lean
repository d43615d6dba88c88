import Minigame.Proofs.Text.Words
import Minigame.Proposal.Phrases

/-!
The parts of a phrase about spawning: a number of objects and a period.

Each part begins with a word of the text. Behind that word a number of objects, or a number with its
unit, is read in one way only.
-/

namespace Minigame.Phrase

open Minigame.Text Minigame.Text.Pattern Minigame.Decimal

/-- The words in front of a number of objects. -/
def verbs : List String := ["add", "adds", "spawn", "spawns"]

/-- The words in front of an interval. -/
def connectors : List String := ["every", "per", "each"]

/-- The names of the unit of an interval. -/
def units : List String := ["s", "sec", "secs", "second", "seconds"]

/-- The words for other rates than a number of objects in each interval. -/
def rates : List String := ["fixed", "double", "doubles", "doubling"]

variable {ws : List String} {others : List Pattern} {front text tail run number time unit : List Char}
  {captures : List (String × List Char)} {later : Place}

/-- Characters that are not of a class end it. -/
theorem stops {p : Char → Bool} (nonempty : run ≠ []) (apart : ∀ c ∈ run, p c = false) :
    ∀ c ∈ (run ++ tail).head?, p c = false := by
  -- What comes first is the first character of the run.
  obtain ⟨d, run, rfl⟩ := List.exists_cons_of_ne_nil nonempty
  rintro c ⟨⟩
  exact apart d (.head _)

/-- In front of a word a single blank is all the white space. -/
theorem cut_blank {blanks rest : List Char} (whole : ' ' :: text = blanks ++ rest)
    (areBlanks : ∀ c ∈ blanks, isBlank c = true) (first : ∀ c ∈ text.head?, isBlank c = false)
    (restFirst : ∀ c ∈ rest.head?, isBlank c = false) : blanks = [' '] ∧ text = rest := by
  obtain ⟨one, same⟩ := cut_unique (show [' '] ++ text = blanks ++ rest from whole)
    (List.forall_mem_singleton.2 (by decide)) areBlanks first restFirst
  exact ⟨one.symm, same⟩

/-- A word with white space behind it is a word of the text. -/
theorem mem_ends_word (proper : lettered ws = true) :
    later ∈ (sequence (edge :: words ws :: gap :: others)).ends (.between front text captures) ↔
      ∃ word ∈ spelled ws, ∃ back, WordAt (front ++ text) front word back
        ∧ later ∈ (sequence (gap :: others)).ends (.between (front ++ word) back captures) := by
  constructor
  · intro fits
    -- The edge is where the word starts.
    obtain ⟨_, atEdge, fits⟩ := mem_ends_sequence_cons.1 fits
    obtain ⟨starts, rfl⟩ := mem_ends_edge.1 atEdge
    obtain ⟨_, fitsWord, behind⟩ := mem_ends_sequence_cons.1 fits
    -- What the words fit is a form of one of them.
    obtain ⟨word, spells, back, rfl, rfl⟩ := (reads_words ws _ _ _ _).1 fitsWord
    have nonempty := ne_nil_of_spelled proper spells
    have starts := (isWordEdge_front nonempty (isWordChar_of_spelled proper spells)).1 starts
    -- White space follows, so the word ends.
    have ends : ∀ c ∈ back.head?, isWordChar c = false := by
      obtain ⟨middle, blank, -⟩ := mem_ends_sequence_cons.1 behind
      obtain ⟨blanks, ⟨some, all⟩, rest, rfl, rfl⟩ := (reads_gap _ _ _ _).1 blank
      exact stops some fun c there => isWordChar_of_isBlank (all c there)
    exact ⟨word, spells, back, ⟨(List.append_assoc ..).symm, nonempty,
      fun _ => isLetter_of_spelled proper spells, starts, ends⟩, behind⟩
  · -- The parts of the pattern fit one behind the other.
    rintro ⟨word, spells, back, here, behind⟩
    obtain rfl : text = word ++ back :=
      List.append_cancel_left (here.whole.trans (List.append_assoc ..))
    have starts : (Place.between front (word ++ back) captures).isWordEdge = true :=
      (isWordEdge_front here.nonempty fun c => here.isWordChar_of_mem).2 here.starts
    exact mem_ends_sequence_cons.2 ⟨_, mem_ends_edge.2 ⟨starts, rfl⟩, mem_ends_sequence_cons.2
      ⟨_, (reads_words ws _ _ _ _).2 ⟨word, spells, back, rfl, rfl⟩, behind⟩⟩

/-- Where a word begins, it is read as a whole. -/
theorem mem_ends_word_here (proper : lettered ws = true) {word rest : List Char}
    (spells : word ∈ spelled ws) (starts : ∀ c ∈ front.getLast?, isWordChar c = false) :
    later ∈ (sequence (edge :: words ws :: gap :: others)).ends
        (.between front (word ++ ' ' :: rest) captures) ↔
      later ∈ (sequence (gap :: others)).ends (.between (front ++ word) (' ' :: rest) captures) := by
  have space : ∀ c ∈ (' ' :: rest).head?, isWordChar c = false := by
    rintro c ⟨⟩
    decide
  rw [mem_ends_word proper]
  constructor
  · -- A word that is read here starts as this one does.
    rintro ⟨other, -, back, here, fits⟩
    have same : word ++ ' ' :: rest = other ++ back :=
      List.append_cancel_left (here.whole.trans (List.append_assoc ..))
    -- Both words go on up to the space, and no farther.
    obtain ⟨rfl, rfl⟩ := cut_unique same (isWordChar_of_spelled proper spells)
      (fun c => here.isWordChar_of_mem) space here.ends
    exact fits
  · exact fun fits => ⟨word, spells, _, ⟨(List.append_assoc ..).symm, ne_nil_of_spelled proper spells,
      fun _ => isLetter_of_spelled proper spells, starts, space⟩, fits⟩

/-- The number behind a blank is read as a whole. -/
theorem mem_ends_number (isNumber : number ∈ someOf isDecimalDigit)
    (ends : ∀ c ∈ tail.head?, isWordChar c = false) :
    later ∈ (sequence [gap, capture "count" digits, edge]).ends
        (.between front (' ' :: (number ++ tail)) captures) ↔
      later = .between (front ++ ' ' :: number) tail (("count", number) :: captures) := by
  have inside {run : List Char} (isRun : run ∈ someOf isDecimalDigit) :
      ∀ c ∈ run, isWordChar c = true :=
    fun c there => isWordChar_of_isDecimalDigit (isRun.2 c there)
  simp only [mem_ends_sequence_cons, mem_ends_sequence_nil, mem_ends_edge]
  constructor
  · -- Each part of the pattern ends where the next one starts.
    rintro ⟨_, blank, _, fits, _, ⟨edge, rfl⟩, rfl⟩
    obtain ⟨blanks, areBlanks, rest, whole, rfl⟩ := (reads_gap _ _ _ _).1 blank
    obtain ⟨other, isOther, rest, rfl, rfl⟩ := (reads_digits.mem_ends_capture "count").1 fits
    -- The number does not begin with white space, so the blank is read by itself, and then all
    -- digits.
    obtain ⟨rfl, same⟩ := cut_blank whole areBlanks.2
      (stops isNumber.1 fun c there => isBlank_of_isWordChar (inside isNumber c there))
      (stops isOther.1 fun c there => isBlank_of_isWordChar (inside isOther c there))
    obtain ⟨rfl, rfl⟩ := cut_unique same (inside isNumber) (inside isOther) ends
      ((isWordEdge_back isOther.1 (inside isOther)).1 edge)
    simp
  · -- The blank is read first, then the number, and an edge follows.
    rintro rfl
    refine ⟨_, (reads_gap _ _ _ _).2 ⟨[' '], by simp [mem_someOf]; decide, _, rfl, rfl⟩, _,
      (reads_digits.mem_ends_capture "count").2 ⟨number, isNumber, tail, rfl, rfl⟩, _, ⟨?_, rfl⟩, ?_⟩
    · exact (isWordEdge_back isNumber.1 (inside isNumber)).2 ends
    · simp

/-- Behind white space a text with letters in front does not go on with a number. -/
theorem ne_blanks_number {chars blanks rest : List Char}
    (plain : ∀ c ∈ chars, isBlank c = true ∨ isLetter c = true)
    (letter : ∃ c ∈ chars, isLetter c = true) (areBlanks : ∀ c ∈ blanks, isBlank c = true)
    (isNumber : number ∈ someOf isDecimalDigit) : chars ++ tail ≠ blanks ++ (number ++ rest) := by
  -- Each blank in front is no letter, so the letter is still to come.
  induction chars generalizing blanks with
  | nil => simp at letter
  | cons c chars ih =>
    intro same
    cases blanks with
    | nil =>
      -- Without blanks the first character would have to be a digit.
      obtain ⟨d, number, rfl⟩ := List.exists_cons_of_ne_nil isNumber.1
      obtain ⟨rfl, -⟩ := List.cons.inj same
      have digit := isNumber.2 c (.head _)
      rcases plain c (.head _) with blank | letter
      · simp [isDecimalDigit_of_isBlank blank] at digit
      · simp [isDecimalDigit_of_isLetter letter] at digit
    | cons b blanks =>
      obtain ⟨rfl, behind⟩ := List.cons.inj same
      obtain ⟨blank, areBlanks⟩ := List.forall_mem_cons.1 areBlanks
      have notLetter : ¬ isLetter c = true := fun letter => by
        simp [isBlank_of_isWordChar (isWordChar_of_isLetter letter)] at blank
      have later : ∃ c ∈ chars, isLetter c = true := by simpa [notLetter] using letter
      exact ih (List.forall_mem_cons.1 plain).2 later areBlanks behind

/-- Where letters stand in front of everything but white space, no number is read. -/
theorem notMem_ends_number {chars : List Char}
    (plain : ∀ c ∈ chars, isBlank c = true ∨ isLetter c = true)
    (letter : ∃ c ∈ chars, isLetter c = true) :
    later ∉ (sequence [gap, capture "count" digits, edge]).ends
      (.between front (chars ++ tail) captures) := by
  intro fits
  simp only [mem_ends_sequence_cons] at fits
  -- White space comes first, and the number right behind it.
  obtain ⟨_, blank, _, captured, -⟩ := fits
  obtain ⟨blanks, areBlanks, text, whole, rfl⟩ := (reads_gap _ _ _ _).1 blank
  obtain ⟨number, isNumber, rest, rfl, rfl⟩ := (reads_digits.mem_ends_capture "count").1 captured
  exact ne_blanks_number plain letter areBlanks.2 isNumber whole

/-- A number with or without decimal places. -/
def decimals : Language Char :=
  someOf isDecimalDigit * (spelled ["."] * someOf isDecimalDigit + 1)

theorem reads_decimal : decimal.Reads decimals :=
  reads_digits.andThen ((reads_word ".").andThen reads_digits).optional

theorem reads_unit : (choice [word "s", noun "sec", noun "second"]).Reads (spelled units) :=
  reads_choice (.cons (reads_word "s") (.cons (reads_noun "sec") (.cons (reads_noun "second") .nil)))

/-- The characters of numbers with decimal places. -/
def isTimeChar (c : Char) : Bool :=
  isDecimalDigit c || c = '.'

theorem isTimeChar_of_isBlank {c : Char} (blank : isBlank c = true) : isTimeChar c = false := by
  have notPoint : c ≠ '.' := by
    -- A point is no blank, and no digit is one either.
    rintro rfl
    cases blank
  simp [isTimeChar, isDecimalDigit_of_isBlank blank, notPoint]

theorem isTimeChar_of_isLetter {c : Char} (letter : isLetter c = true) : isTimeChar c = false := by
  have notPoint : c ≠ '.' := by
    rintro rfl
    cases letter
  simp [isTimeChar, isDecimalDigit_of_isLetter letter, notPoint]

/-- A point has one form. -/
theorem eq_point_of_foldLetter {c : Char} (same : foldLetter c = '.') : c = '.' := by
  -- Only two characters are folded to a letter of another kind, and neither becomes a point.
  unfold foldLetter at same
  split at same
  · cases same
  · split at same
    · cases same
    · simpa [same] using asciiLowerChar_congr (fun c => decide (c = '.')) (by decide) c

/-- A number with decimal places has no other characters. -/
theorem isTimeChar_of_mem (isTime : time ∈ decimals) :
    time ≠ [] ∧ ∀ c ∈ time, isTimeChar c = true := by
  have ofDigit {c : Char} (digit : isDecimalDigit c = true) : isTimeChar c = true := by
    simp [isTimeChar, digit]
  -- First come the digits of the whole number.
  obtain ⟨whole, ⟨some, digits⟩, rest, isRest, rfl⟩ := Language.mem_mul.1 isTime
  refine ⟨by simp [some], fun c there => ?_⟩
  rcases List.mem_append.1 there with inWhole | inRest
  · exact ofDigit (digits c inWhole)
  -- The optional part is a point with more digits, or nothing.
  · rcases (Language.mem_add ..).1 isRest with isPlaces | isNone
    · obtain ⟨point, ⟨_, listed, isPoint⟩, places, ⟨-, digits⟩, rfl⟩ := Language.mem_mul.1 isPlaces
      rcases List.mem_append.1 inRest with inPoint | inPlaces
      · obtain rfl := List.mem_singleton.1 listed
        have folded : foldLetter c ∈ point.map foldLetter := List.mem_map_of_mem inPoint
        rw [isPoint] at folded
        simp [isTimeChar, eq_point_of_foldLetter (List.mem_singleton.1 folded)]
      · exact ofDigit (digits c inPlaces)
    · rw [(Language.mem_one _).1 isNone] at inRest
      cases inRest

theorem isLetter_of_unit (isUnit : unit ∈ spelled units) :
    unit ≠ [] ∧ ∀ c ∈ unit, isLetter c = true :=
  ⟨ne_nil_of_spelled (by decide) isUnit, fun _ => isLetter_of_spelled (by decide) isUnit⟩

/-- The unit of an interval is a whole word. -/
theorem mem_ends_seconds :
    later ∈ seconds.ends (.between front text captures) ↔
      ∃ unit ∈ spelled units, ∃ rest, text = unit ++ rest ∧ (∀ c ∈ rest.head?, isWordChar c = false)
        ∧ later = .between (front ++ unit) rest captures := by
  have ends {unit rest : List Char} (isUnit : unit ∈ spelled units) :
      (Place.between (front ++ unit) rest captures).isWordEdge = true ↔
        ∀ c ∈ rest.head?, isWordChar c = false :=
    isWordEdge_back (isLetter_of_unit isUnit).1 (isWordChar_of_spelled (by decide) isUnit)
  simp only [seconds, mem_ends_andThen, mem_ends_edge]
  constructor
  · -- The edge behind the unit says that no word goes on there.
    rintro ⟨_, fits, edge, rfl⟩
    obtain ⟨unit, isUnit, rest, rfl, rfl⟩ := (reads_unit _ _ _ _).1 fits
    exact ⟨unit, isUnit, rest, rfl, (ends isUnit).1 edge, rfl⟩
  · rintro ⟨unit, isUnit, rest, rfl, behind, rfl⟩
    exact ⟨_, (reads_unit _ _ _ _).2 ⟨unit, isUnit, rest, rfl, rfl⟩, (ends isUnit).2 behind, rfl⟩

/-- An interval has a number in front of its unit, or none. -/
theorem mem_ends_interval :
    later ∈ interval.ends (.between front text captures) ↔
      (∃ time ∈ decimals, ∃ blanks ∈ allOf isBlank, ∃ unit ∈ spelled units, ∃ rest,
        text = time ++ (blanks ++ (unit ++ rest)) ∧ (∀ c ∈ rest.head?, isWordChar c = false)
          ∧ later = .between (front ++ time ++ blanks ++ unit) rest (("seconds", time) :: captures))
      ∨ ∃ unit ∈ spelled units, ∃ rest, text = unit ++ rest
        ∧ (∀ c ∈ rest.head?, isWordChar c = false) ∧ later = .between (front ++ unit) rest captures := by
  simp only [interval, mem_ends_andThen, mem_ends_optional, or_and_right, exists_or, exists_eq_left,
    mem_ends_seconds]
  refine or_congr_left ⟨?_, ?_⟩
  · -- The number, the white space and the unit follow each other.
    rintro ⟨_, ⟨_, captured, spaces⟩, behind⟩
    obtain ⟨time, isTime, text, rfl, rfl⟩ := (reads_decimal.mem_ends_capture "seconds").1 captured
    obtain ⟨blanks, areBlanks, text, rfl, rfl⟩ := (reads_most isBlank _ _ _ _).1 spaces
    obtain ⟨unit, isUnit, rest, rfl, ends, rfl⟩ := mem_ends_seconds.1 behind
    exact ⟨time, isTime, blanks, areBlanks, unit, isUnit, rest, rfl, ends, rfl⟩
  · rintro ⟨time, isTime, blanks, areBlanks, unit, isUnit, rest, rfl, ends, rfl⟩
    exact ⟨_, ⟨_, (reads_decimal.mem_ends_capture "seconds").2 ⟨time, isTime, _, rfl, rfl⟩,
      (reads_most isBlank _ _ _ _).2 ⟨blanks, areBlanks, _, rfl, rfl⟩⟩,
      mem_ends_seconds.2 ⟨unit, isUnit, rest, rfl, ends, rfl⟩⟩

/-- Behind a blank, a number and a unit behind another blank are read as a whole. -/
theorem mem_ends_gap_interval (isTime : time ∈ decimals) (isUnit : unit ∈ spelled units)
    (ends : ∀ c ∈ tail.head?, isWordChar c = false) :
    later ∈ (sequence [gap, interval]).ends
        (.between front (' ' :: (time ++ ' ' :: (unit ++ tail))) captures) ↔
      later = .between (front ++ ' ' :: (time ++ ' ' :: unit)) tail (("seconds", time) :: captures) := by
  -- Numbers and units do not begin with white space, so each blank is cut off where it stands.
  have firstOfTime {time rest : List Char} (isTime : time ∈ decimals) :
      ∀ c ∈ (time ++ rest).head?, isBlank c = false := by
    obtain ⟨some, chars⟩ := isTimeChar_of_mem isTime
    exact stops some fun c there => Bool.eq_false_iff.2 fun blank => by
      simpa [isTimeChar_of_isBlank blank] using chars c there
  have inside {unit : List Char} (isUnit : unit ∈ spelled units) : ∀ c ∈ unit, isWordChar c = true :=
    isWordChar_of_spelled (by decide) isUnit
  have firstOfUnit {unit rest : List Char} (isUnit : unit ∈ spelled units) :
      ∀ c ∈ (unit ++ rest).head?, isBlank c = false :=
    stops (isLetter_of_unit isUnit).1 fun c there => isBlank_of_isWordChar (inside isUnit c there)
  simp only [mem_ends_sequence_cons, mem_ends_sequence_nil]
  constructor
  · rintro ⟨_, blank, _, fits, rfl⟩
    obtain ⟨blanks, areBlanks, text, whole, rfl⟩ := (reads_gap _ _ _ _).1 blank
    rcases mem_ends_interval.1 fits with
      ⟨other, isOther, more, areMore, name, isName, rest, rfl, behind, rfl⟩
      | ⟨name, isName, rest, rfl, behind, rfl⟩
    -- One part after the other is fixed: the blank, the number, the blank behind it and the unit.
    · obtain ⟨rfl, timed⟩ := cut_blank whole areBlanks.2 (firstOfTime isTime) (firstOfTime isOther)
      have behindOther : ∀ c ∈ (more ++ (name ++ rest)).head?, isTimeChar c = false := by
        rw [← List.append_assoc]
        refine stops (by simp [(isLetter_of_unit isName).1]) fun c there => ?_
        exact (List.mem_append.1 there).elim (fun blank => isTimeChar_of_isBlank (areMore c blank))
          fun inName => isTimeChar_of_isLetter ((isLetter_of_unit isName).2 c inName)
      obtain ⟨rfl, named⟩ := cut_unique timed (isTimeChar_of_mem isTime).2 (isTimeChar_of_mem isOther).2
        (by rintro c ⟨⟩; decide) behindOther
      obtain ⟨rfl, same⟩ := cut_blank named areMore (firstOfUnit isUnit) (firstOfUnit isName)
      obtain ⟨rfl, rfl⟩ := cut_unique same (inside isUnit) (inside isName) ends behind
      simp
    · -- A unit without a number would have to begin like the number.
      obtain ⟨rfl, same⟩ := cut_blank whole areBlanks.2 (firstOfTime isTime) (firstOfUnit isName)
      have first : ∀ c ∈ (time ++ ' ' :: (unit ++ tail)).head?, isTimeChar c = false := by
        rw [same]
        exact stops (isLetter_of_unit isName).1 fun c there =>
          isTimeChar_of_isLetter ((isLetter_of_unit isName).2 c there)
      obtain ⟨some, all⟩ := isTimeChar_of_mem isTime
      obtain ⟨c, others, rfl⟩ := List.exists_cons_of_ne_nil some
      simpa [all c (.head _)] using first c rfl
  · rintro rfl
    refine ⟨_, (reads_gap _ _ _ _).2 ⟨[' '], by simp [mem_someOf]; decide, _, rfl, rfl⟩, _,
      mem_ends_interval.2 (.inl ⟨time, isTime, [' '], by simp [mem_allOf]; decide, unit, isUnit, tail,
        rfl, ends, rfl⟩), ?_⟩
    simp

/-! ### Parts -/

section

variable {connector verb : List Char}

/-- A number of objects stands behind a verb of the text. -/
theorem mem_ends_increment :
    later ∈ increment.ends (.between front text captures) ↔
      ∃ verb ∈ spelled verbs, ∃ back, WordAt (front ++ text) front verb back
        ∧ later ∈ (sequence [gap, capture "count" digits, edge]).ends
          (.between (front ++ verb) back captures) :=
  mem_ends_word (by decide)

/-- A period stands behind a connector of the text. -/
theorem mem_ends_period :
    later ∈ (period connectors).ends (.between front text captures) ↔
      ∃ connector ∈ spelled connectors, ∃ back, WordAt (front ++ text) front connector back
        ∧ later ∈ (sequence [gap, interval]).ends (.between (front ++ connector) back captures) :=
  mem_ends_word (by decide)

/-- Between two parts there can be anything on the line. -/
theorem mem_ends_filler {first last : Pattern} {place : Place} :
    later ∈ (sequence [first, filler, last]).ends place ↔
      ∃ middle ∈ first.ends place, ∃ next ∈ filler.ends middle, later ∈ last.ends next := by
  simp only [mem_ends_sequence_cons, mem_ends_sequence_nil, exists_eq_right']

variable (starts : ∀ c ∈ front.getLast?, isWordChar c = false)
  (ends : ∀ c ∈ tail.head?, isWordChar c = false)
include starts ends

/-- Where a number of objects begins, it is read as a whole. -/
theorem mem_ends_increment_here (isVerb : verb ∈ spelled verbs)
    (isNumber : number ∈ someOf isDecimalDigit) :
    later ∈ increment.ends (.between front (verb ++ ' ' :: (number ++ tail)) captures) ↔
      later = .between (front ++ verb ++ ' ' :: number) tail (("count", number) :: captures) :=
  (mem_ends_word_here (by decide) isVerb starts).trans (mem_ends_number isNumber ends)

/-- Where a period begins, it is read as a whole. -/
theorem mem_ends_period_here (isConnector : connector ∈ spelled connectors) (isTime : time ∈ decimals)
    (isUnit : unit ∈ spelled units) :
    later ∈ (period connectors).ends
        (.between front (connector ++ ' ' :: (time ++ ' ' :: (unit ++ tail))) captures) ↔
      later = .between (front ++ connector ++ ' ' :: (time ++ ' ' :: unit)) tail
        (("seconds", time) :: captures) :=
  (mem_ends_word_here (by decide) isConnector starts).trans (mem_ends_gap_interval isTime isUnit ends)

end

/-! ### Other rates -/

section

variable {prompt : String} (plain : ∀ {front word back}, WordAt prompt.toList front word back →
  word ∉ spelled rates)
include plain

/-- Without a word for another rate a prompt does not double. -/
theorem doublingRule?_eq_none : doublingRule? prompt = none := by
  cases finds : doubling.find? prompt with
  | none => simp [doublingRule?, finds]
  | some found =>
    obtain ⟨front, rest, whole, fits⟩ := mem_of_find? finds
    obtain ⟨_, atEdge, fits⟩ := mem_ends_sequence_cons.1 fits
    obtain ⟨starts, rfl⟩ := mem_ends_edge.1 atEdge
    obtain ⟨_, fitsWord, fits⟩ := mem_ends_sequence_cons.1 fits
    obtain ⟨word, spells, back, rfl, rfl⟩ := (reads_words _ _ _ _ _).1 fitsWord
    obtain ⟨_, ends, -⟩ := mem_ends_sequence_cons.1 fits
    -- What was found would be a word for another rate.
    have here := wordAt_of_edges (by decide) spells starts (mem_ends_edge.1 ends).1
    exact absurd (spelled_mono (by decide) spells) (plain (whole ▸ here))

/-- Without a word for another rate a prompt does not ask for a fixed one. -/
theorem fixedRate_occursIn_eq_false : fixedRate.occursIn prompt = false := by
  cases finds : fixedRate.find? prompt with
  | none => simp [occursIn, finds]
  | some found =>
    obtain ⟨front, rest, whole, fits⟩ := mem_of_find? finds
    obtain ⟨starts, fits, ends⟩ := mem_ends_whole.1 fits
    obtain ⟨word, spells, back, rfl, rfl⟩ := (reads_word _ _ _ _ _).1 fits
    have here := wordAt_of_edges (by decide) spells starts ends
    exact absurd (spelled_mono (by decide) spells) (plain (whole ▸ here))

end

end Minigame.Phrase
