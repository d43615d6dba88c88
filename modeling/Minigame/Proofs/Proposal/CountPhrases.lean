import Minigame.Proofs.Proposal.PhraseParts

/-!
Phrases with a number of objects and a period.

The words that such a phrase is made of tell its parts, whatever stands between them. So both orders
of the parts state the same rule.
-/

namespace Minigame.Phrase

open Minigame.Text Minigame.Text.Pattern Minigame.Decimal

/-- ASCII digits, with a point and more of them behind it or not. -/
def IsDecimalText (text : List Char) : Prop :=
  ∃ whole ∈ someOf isAsciiDigit,
    text = whole ∨ ∃ places ∈ someOf isAsciiDigit, text = whole ++ '.' :: places

/-- ASCII digits are among the digits of all scripts. -/
theorem decimalDigits_of_ascii {run : List Char} (digits : run ∈ someOf isAsciiDigit) :
    run ∈ someOf isDecimalDigit :=
  ⟨digits.1, fun c there => isDecimalDigit_of_isAsciiDigit (digits.2 c there)⟩

theorem IsDecimalText.mem_decimals {text : List Char} (isText : IsDecimalText text) :
    text ∈ decimals := by
  -- Without places the optional part is empty; with them it is a point and more digits.
  obtain ⟨whole, isWhole, rfl | ⟨places, isPlaces, rfl⟩⟩ := isText
  · exact Language.mem_mul.2 ⟨text, decimalDigits_of_ascii isWhole, [], .inr rfl, by simp⟩
  · have point : ['.'] ∈ spelled ["."] := ⟨".", .head _, by decide⟩
    have rest : '.' :: places ∈ spelled ["."] * someOf isDecimalDigit :=
      Language.mem_mul.2 ⟨['.'], point, places, decimalDigits_of_ascii isPlaces, rfl⟩
    exact Language.mem_mul.2 ⟨whole, decimalDigits_of_ascii isWhole, _, .inl rest, rfl⟩

/-- The parts of a phrase with a number of objects and a period. -/
structure CountPhrase where
  verb : String
  number : String
  filler : String
  connector : String
  interval : String
  unit : String
  isVerb : asciiLower verb ∈ verbs
  isNumber : number.toList ∈ someOf isAsciiDigit
  isSmall : natOfDigits number.toList < 2 ^ 32
  fillerChars : ∀ c ∈ filler.toList, isAsciiLetter c = true ∨ c = ' '
  fillerWords : ∀ word ∈ splitChars ' ' filler.toList,
    asciiLower (String.ofList word) ∉ connectors ++ rates
  isConnector : asciiLower connector ∈ connectors
  isInterval : IsDecimalText interval.toList
  isUnit : asciiLower unit ∈ units

namespace CountPhrase

/-- The phrase with the number of objects in front of the period. -/
def countFirst (phrase : CountPhrase) : String :=
  " ".intercalate
    [phrase.verb, phrase.number, phrase.filler, phrase.connector, phrase.interval, phrase.unit]

/-- The phrase with the period in front of the number of objects. -/
def periodFirst (phrase : CountPhrase) : String :=
  " ".intercalate
    [phrase.connector, phrase.interval, phrase.unit, phrase.filler, phrase.verb, phrase.number]

variable (phrase : CountPhrase)

theorem toList_countFirst : phrase.countFirst.toList = phrase.verb.toList ++ ' ' ::
    (phrase.number.toList ++ ' ' :: (phrase.filler.toList ++ ' ' :: (phrase.connector.toList
      ++ ' ' :: (phrase.interval.toList ++ ' ' :: phrase.unit.toList)))) := by
  simp [countFirst]

theorem toList_periodFirst : phrase.periodFirst.toList = phrase.connector.toList ++ ' ' ::
    (phrase.interval.toList ++ ' ' :: (phrase.unit.toList ++ ' ' :: (phrase.filler.toList
      ++ ' ' :: (phrase.verb.toList ++ ' ' :: phrase.number.toList)))) := by
  simp [periodFirst]

/-! ### The parts -/

theorem verb_spelled : phrase.verb.toList ∈ spelled verbs :=
  spelled_of_asciiLower (by decide) phrase.isVerb

theorem connector_spelled : phrase.connector.toList ∈ spelled connectors :=
  spelled_of_asciiLower (by decide) phrase.isConnector

theorem unit_spelled : phrase.unit.toList ∈ spelled units :=
  spelled_of_asciiLower (by decide) phrase.isUnit

theorem verb_letters : ∀ c ∈ phrase.verb.toList, isLetter c = true :=
  fun _ => isLetter_of_spelled (by decide) phrase.verb_spelled

theorem connector_letters : ∀ c ∈ phrase.connector.toList, isLetter c = true :=
  fun _ => isLetter_of_spelled (by decide) phrase.connector_spelled

theorem unit_letters : ∀ c ∈ phrase.unit.toList, isLetter c = true :=
  fun _ => isLetter_of_spelled (by decide) phrase.unit_spelled

theorem number_digits : phrase.number.toList ∈ someOf isDecimalDigit :=
  decimalDigits_of_ascii phrase.isNumber

theorem interval_decimal : phrase.interval.toList ∈ decimals :=
  phrase.isInterval.mem_decimals

theorem number_noLetters : ∀ c ∈ phrase.number.toList, isLetter c = false := fun c there =>
  -- A letter is no digit of any script.
  Bool.eq_false_iff.2 fun letter => by
    simpa [isDecimalDigit_of_isLetter letter] using phrase.number_digits.2 c there

theorem interval_noLetters : ∀ c ∈ phrase.interval.toList, isLetter c = false := fun c there =>
  Bool.eq_false_iff.2 fun letter => by
    simpa [isTimeChar_of_isLetter letter] using (isTimeChar_of_mem phrase.interval_decimal).2 c there

/-- The number of objects is read as it is written. -/
theorem readUnsigned?_number :
    readUnsigned? 32 phrase.number.toList = some (natOfDigits phrase.number.toList) := by
  -- The digits are ASCII, so the number is read, and it has 32 bits.
  obtain ⟨nonempty, digits⟩ := phrase.isNumber
  -- A plus sign could be left out in front, but digits do not begin with one.
  have unsigned : phrase.number.toList.head? ≠ some '+' := fun plus => by
    simpa [isAsciiDigit] using digits '+' (List.mem_of_head? plus)
  rw [readUnsigned?, dropPlus_of_head? unsigned, readDigits?,
    if_pos ⟨nonempty, List.all_eq_true.2 digits⟩]
  simpa using phrase.isSmall

variable {phrase} {front word back : List Char}

/-- No word of the filler is a connector or states another rate. -/
theorem notMem_filler (here : WordAt phrase.filler.toList front word back) :
    word ∉ spelled (connectors ++ rates) := by
  have letters {c : Char} (there : c ∈ phrase.filler.toList) : isLetter c = true ∨ c = ' ' :=
    (phrase.fillerChars c there).imp_left isLetter_of_isAsciiLetter
  -- The filler has letters and spaces of ASCII only, so each word has one spelling up to case.
  have ascii : ∀ c ∈ word, c.toNat < 128 := fun c there => by
    have inFiller : c ∈ phrase.filler.toList := by simp [here.whole, there]
    rcases phrase.fillerChars c inFiller with letter | rfl
    · exact toNat_lt_of_isAsciiLetter letter
    · decide
  rw [mem_spelled_iff_of_ascii ascii]
  exact phrase.fillerWords word (here.mem_splitChars fun c => letters)

/-- The words of a phrase with the number of objects in front. -/
theorem word_of_countFirst (here : WordAt phrase.countFirst.toList front word back) :
    word = phrase.verb.toList ∨ (∃ left right, WordAt phrase.filler.toList left word right)
      ∨ (word = phrase.connector.toList
        ∧ back = ' ' :: (phrase.interval.toList ++ ' ' :: phrase.unit.toList))
      ∨ word = phrase.unit.toList := by
  -- No word holds a space, so it lies within one of the parts: those of letters are words as a
  -- whole, and those of digits hold none.
  rw [toList_countFirst] at here
  have space : isWordChar ' ' = false := by decide
  rcases here.split space with ⟨_, rfl, inVerb⟩ | ⟨_, -, here⟩
  · exact .inl (inVerb.of_letters phrase.verb_letters).2.1
  rcases here.split space with ⟨_, rfl, inNumber⟩ | ⟨_, -, here⟩
  · exact (inNumber.false_of_no_letters phrase.number_noLetters).elim
  rcases here.split space with ⟨_, rfl, inFiller⟩ | ⟨_, -, here⟩
  · exact .inr (.inl ⟨_, _, inFiller⟩)
  rcases here.split space with ⟨_, rfl, inConnector⟩ | ⟨_, -, here⟩
  · obtain ⟨-, rfl, rfl⟩ := inConnector.of_letters phrase.connector_letters
    exact .inr (.inr (.inl ⟨rfl, rfl⟩))
  rcases here.split space with ⟨_, rfl, inInterval⟩ | ⟨_, -, inUnit⟩
  · exact (inInterval.false_of_no_letters phrase.interval_noLetters).elim
  · exact .inr (.inr (.inr (inUnit.of_letters phrase.unit_letters).2.1))

/-- The words of a phrase with the period in front. -/
theorem word_of_periodFirst (here : WordAt phrase.periodFirst.toList front word back) :
    word = phrase.connector.toList ∨ word = phrase.unit.toList
      ∨ (∃ left right, WordAt phrase.filler.toList left word right
        ∧ back = right ++ ' ' :: (phrase.verb.toList ++ ' ' :: phrase.number.toList))
      ∨ (word = phrase.verb.toList ∧ back = ' ' :: phrase.number.toList) := by
  -- The parts are gone through in the other order.
  rw [toList_periodFirst] at here
  have space : isWordChar ' ' = false := by decide
  rcases here.split space with ⟨_, rfl, inConnector⟩ | ⟨_, -, here⟩
  · exact .inl (inConnector.of_letters phrase.connector_letters).2.1
  rcases here.split space with ⟨_, rfl, inInterval⟩ | ⟨_, -, here⟩
  · exact (inInterval.false_of_no_letters phrase.interval_noLetters).elim
  rcases here.split space with ⟨_, rfl, inUnit⟩ | ⟨_, -, here⟩
  · exact .inr (.inl (inUnit.of_letters phrase.unit_letters).2.1)
  rcases here.split space with ⟨right, rfl, inFiller⟩ | ⟨_, -, here⟩
  · exact .inr (.inr (.inl ⟨_, right, inFiller, rfl⟩))
  rcases here.split space with ⟨_, rfl, inVerb⟩ | ⟨_, -, inNumber⟩
  · obtain ⟨-, rfl, rfl⟩ := inVerb.of_letters phrase.verb_letters
    exact .inr (.inr (.inr ⟨rfl, rfl⟩))
  · exact (inNumber.false_of_no_letters phrase.number_noLetters).elim

/-- A phrase with the number of objects in front has no word for another rate. -/
theorem plain_countFirst (here : WordAt phrase.countFirst.toList front word back) :
    word ∉ spelled rates := by
  -- The lists of words have none in common, and the filler has none by assumption.
  rcases word_of_countFirst here with rfl | ⟨_, _, inFiller⟩ | ⟨rfl, -⟩ | rfl
  · exact notMem_spelled (by decide) phrase.verb_spelled
  · exact fun spells => notMem_filler inFiller (spelled_mono (by decide) spells)
  · exact notMem_spelled (by decide) phrase.connector_spelled
  · exact notMem_spelled (by decide) phrase.unit_spelled

/-- A phrase with the period in front has no word for another rate. -/
theorem plain_periodFirst (here : WordAt phrase.periodFirst.toList front word back) :
    word ∉ spelled rates := by
  -- The parts are those of the other order, so the reasons are the same.
  rcases word_of_periodFirst here with rfl | rfl | ⟨_, _, inFiller, -⟩ | ⟨rfl, -⟩
  · exact notMem_spelled (by decide) phrase.connector_spelled
  · exact notMem_spelled (by decide) phrase.unit_spelled
  · exact fun spells => notMem_filler inFiller (spelled_mono (by decide) spells)
  · exact notMem_spelled (by decide) phrase.verb_spelled

/-- The filler with the blanks around it. -/
def middle (phrase : CountPhrase) : List Char :=
  ' ' :: (phrase.filler.toList ++ [' '])

/-- The middle stands on one line. -/
theorem middle_line : ∀ c ∈ phrase.middle, decide (c ≠ '\n') = true := by
  -- The filler has letters and spaces, and neither is a line break.
  intro c there
  refine decide_eq_true ?_
  rintro rfl
  simp only [middle, List.mem_cons, List.mem_append, List.not_mem_nil, or_false,
    Char.reduceEq, false_or] at there
  exact (phrase.fillerChars _ there).elim (by decide) (by decide)

/-- No word goes on into the middle. -/
theorem middle_head {rest : List Char} :
    -- It begins with a space.
    ∀ c ∈ (phrase.middle ++ rest).head?, isWordChar c = false := by
  rintro c ⟨⟩
  decide

/-- No word goes on out of the middle. -/
theorem middle_getLast :
    ∀ c ∈ (front ++ phrase.middle).getLast?, isWordChar c = false := by
  -- The middle ends with a space, whatever stands in front of it.
  have last : (front ++ phrase.middle).getLast? = some ' ' := by
    rw [middle, List.getLast?_append, List.getLast?_cons, List.getLast?_concat]
    rfl
  rw [last]
  rintro c ⟨⟩
  decide

/-! ### The number of objects in front -/

section

variable {text : List Char} {captures : List (String × List Char)} {later : Place}

/-- The only period of the phrase is the one behind the filler. -/
theorem period_countFirst (whole : front ++ text = phrase.countFirst.toList)
    (fits : later ∈ (period connectors).ends (.between front text captures)) :
    later.captures = ("seconds", phrase.interval.toList) :: captures := by
  -- A period begins with a connector, and only one word of the phrase is a connector.
  obtain ⟨word, spells, back, here, fits⟩ := mem_ends_period.1 fits
  rw [whole] at here
  rcases word_of_countFirst here with rfl | ⟨_, _, inFiller⟩ | ⟨rfl, rfl⟩ | rfl
  · exact absurd spells (notMem_spelled (by decide) phrase.verb_spelled)
  · exact absurd (spelled_mono (by decide) spells) (notMem_filler inFiller)
  · rw [← List.append_nil phrase.unit.toList] at fits
    rw [(mem_ends_gap_interval phrase.interval_decimal phrase.unit_spelled (by simp)).1 fits]
    rfl
  · exact absurd spells (notMem_spelled (by decide) phrase.unit_spelled)

/-- With the number of objects in front, the number and the interval are captured. -/
theorem captures_countFirst
    (fits : later ∈ incrementThenPeriod.ends (.between [] phrase.countFirst.toList [])) :
    later.captures = [("seconds", phrase.interval.toList), ("count", phrase.number.toList)] := by
  -- The fit begins with the phrase, so its first part is fixed; what is skipped decides nothing.
  obtain ⟨_, first, _, skips, last⟩ := mem_ends_filler.1 fits
  rw [toList_countFirst] at first
  obtain rfl := (mem_ends_increment_here (by simp) (by rintro c ⟨⟩; decide) phrase.verb_spelled
    phrase.number_digits).1 first
  obtain ⟨skipped, -, rest, behind, rfl⟩ := (reads_fewest _ _ _ _ _).1 skips
  have whole : [] ++ phrase.verb.toList ++ ' ' :: phrase.number.toList ++ skipped ++ rest
      = phrase.countFirst.toList := by
    simp [toList_countFirst, behind]
  exact period_countFirst whole last

/-- With the number of objects in front, the phrase is found. -/
theorem fits_countFirst :
    ∃ later, later ∈ incrementThenPeriod.ends (.between [] phrase.countFirst.toList []) := by
  have whole : phrase.countFirst.toList = phrase.verb.toList ++ ' ' :: (phrase.number.toList
      ++ (phrase.middle ++ (phrase.connector.toList ++ ' ' :: (phrase.interval.toList
        ++ ' ' :: (phrase.unit.toList ++ []))))) := by
    simp [toList_countFirst, middle]
  rw [whole]
  -- The filler is skipped together with the blanks around it.
  exact ⟨_, mem_ends_filler.2 ⟨_, (mem_ends_increment_here (by simp) phrase.middle_head
      phrase.verb_spelled phrase.number_digits).2 rfl,
    _, (reads_fewest _ _ _ _ _).2 ⟨phrase.middle, phrase.middle_line, _, rfl, rfl⟩,
    (mem_ends_period_here phrase.middle_getLast (by simp) phrase.connector_spelled
      phrase.interval_decimal phrase.unit_spelled).2 rfl⟩⟩

/-! ### The period in front -/

/-- The only number of objects is the one at the end of the phrase. -/
theorem increment_periodFirst (whole : front ++ text = phrase.periodFirst.toList)
    (fits : later ∈ increment.ends (.between front text captures)) :
    ∃ front, later = .between front [] (("count", phrase.number.toList) :: captures) := by
  -- An increment begins with a verb; a verb of the filler is the case to look at.
  obtain ⟨word, spells, back, here, fits⟩ := mem_ends_increment.1 fits
  rw [whole] at here
  rcases word_of_periodFirst here with rfl | rfl | ⟨_, right, inFiller, rfl⟩ | ⟨rfl, rfl⟩
  · exact absurd spells (notMem_spelled (by decide) phrase.connector_spelled)
  · exact absurd spells (notMem_spelled (by decide) phrase.unit_spelled)
  · -- Between a verb of the filler and the number stands the verb in front of the number.
    have plain : ∀ c ∈ right ++ ' ' :: phrase.verb.toList, isBlank c = true ∨ isLetter c = true := by
      intro c there
      rcases List.mem_append.1 there with inRight | behind
      · have inside : c ∈ phrase.filler.toList := by simp [inFiller.whole, inRight]
        rcases phrase.fillerChars c inside with letter | rfl
        · exact .inr (isLetter_of_isAsciiLetter letter)
        · exact .inl (by decide)
      · rcases List.mem_cons.1 behind with rfl | inVerb
        · exact .inl (by decide)
        · exact .inr (phrase.verb_letters c inVerb)
    have letter : ∃ c ∈ right ++ ' ' :: phrase.verb.toList, isLetter c = true := by
      obtain ⟨c, others, same⟩ :=
        List.exists_cons_of_ne_nil (ne_nil_of_spelled (by decide) phrase.verb_spelled)
      exact ⟨c, by simp [same], phrase.verb_letters c (by simp [same])⟩
    rw [show right ++ ' ' :: (phrase.verb.toList ++ ' ' :: phrase.number.toList)
      = (right ++ ' ' :: phrase.verb.toList) ++ ' ' :: phrase.number.toList by simp] at fits
    exact absurd fits (notMem_ends_number plain letter)
  · rw [← List.append_nil phrase.number.toList] at fits
    exact ⟨_, (mem_ends_number phrase.number_digits (by simp)).1 fits⟩

/-- Behind the number of objects no period is found. -/
theorem incrementThenPeriod_periodFirst : incrementThenPeriod.find? phrase.periodFirst = none := by
  -- Were it found, a period would have to stand behind the number of objects.
  cases finds : incrementThenPeriod.find? phrase.periodFirst with
  | none => rfl
  | some found =>
    obtain ⟨front, rest, whole, fits⟩ := mem_of_find? finds
    -- The number of objects is the end of the phrase, and the empty rest holds no connector.
    obtain ⟨_, first, _, skips, last⟩ := mem_ends_filler.1 fits
    obtain ⟨_, rfl⟩ := increment_periodFirst whole.symm first
    obtain ⟨skipped, -, rest, none, rfl⟩ := (reads_fewest _ _ _ _ _).1 skips
    obtain ⟨connector, -, back, here, -⟩ := mem_ends_period.1 last
    obtain ⟨-, rfl⟩ := List.append_eq_nil_iff.1 none.symm
    have ⟨nothing, _⟩ : connector = [] ∧ back = [] := by simpa using here.whole
    exact absurd nothing here.nonempty

/-- With the period in front, the number and the interval are captured. -/
theorem captures_periodFirst
    (fits : later ∈ periodThenIncrement.ends (.between [] phrase.periodFirst.toList [])) :
    later.captures = [("count", phrase.number.toList), ("seconds", phrase.interval.toList)] := by
  -- The fit begins with the period, and what is skipped behind it decides nothing.
  obtain ⟨_, first, _, skips, last⟩ := mem_ends_filler.1 fits
  rw [toList_periodFirst] at first
  obtain rfl := (mem_ends_period_here (by simp) (by rintro c ⟨⟩; decide) phrase.connector_spelled
    phrase.interval_decimal phrase.unit_spelled).1 first
  obtain ⟨skipped, -, rest, behind, rfl⟩ := (reads_fewest _ _ _ _ _).1 skips
  have whole : [] ++ phrase.connector.toList ++ ' ' :: (phrase.interval.toList ++ ' ' ::
      phrase.unit.toList) ++ skipped ++ rest = phrase.periodFirst.toList := by
    simp [toList_periodFirst, behind]
  obtain ⟨_, rfl⟩ := increment_periodFirst whole last
  rfl

/-- With the period in front, the phrase is found. -/
theorem fits_periodFirst :
    ∃ later, later ∈ periodThenIncrement.ends (.between [] phrase.periodFirst.toList []) := by
  -- The phrase is cut where its parts meet.
  have whole : phrase.periodFirst.toList = phrase.connector.toList ++ ' ' :: (phrase.interval.toList
      ++ ' ' :: (phrase.unit.toList ++ (phrase.middle ++ (phrase.verb.toList ++ ' ' ::
        (phrase.number.toList ++ []))))) := by
    simp [toList_periodFirst, middle]
  rw [whole]
  exact ⟨_, mem_ends_filler.2 ⟨_, (mem_ends_period_here (by simp) phrase.middle_head
      phrase.connector_spelled phrase.interval_decimal phrase.unit_spelled).2 rfl,
    _, (reads_fewest _ _ _ _ _).2 ⟨phrase.middle, phrase.middle_line, _, rfl, rfl⟩,
    (mem_ends_increment_here phrase.middle_getLast (by simp) phrase.verb_spelled
      phrase.number_digits).2 rfl⟩⟩

end

/-! ### The rule -/

section

variable {ms : Nat} (converts : intervalMs? (some phrase.interval.toList) = some ms)
include converts

/-- What captures the parts of the phrase, where no other rate is stated, gives the linear rule. -/
theorem spawnRule?_of_found {prompt : String} {found : Place}
    (plain : ∀ {front word back}, WordAt prompt.toList front word back → word ∉ spelled rates)
    (finds : (incrementThenPeriod.find? prompt <|> periodThenIncrement.find? prompt) = some found)
    (count : found.captured? "count" = some phrase.number.toList)
    (seconds : found.captured? "seconds" = some phrase.interval.toList) :
    spawnRule? prompt = some (.linear (natOfDigits phrase.number.toList) ms) := by
  -- The parts are read as they were captured.
  have linear : incrementRule? prompt = some (.linear (natOfDigits phrase.number.toList) ms) := by
    simp [incrementRule?, finds, count, seconds, phrase.readUnsigned?_number, converts,
      fixedRate_occursIn_eq_false plain, SpawnRule.linear]
  rw [spawnRule?, doublingRule?_eq_none plain, linear]
  rfl

end

/-- In either order a number of objects and a period state the linear rule with both. -/
theorem spawnRule?_either_order (phrase : CountPhrase) {ms : Nat}
    (converts : intervalMs? (some phrase.interval.toList) = some ms) :
    spawnRule? phrase.countFirst = some (.linear (natOfDigits phrase.number.toList) ms)
      ∧ spawnRule? phrase.periodFirst = some (.linear (natOfDigits phrase.number.toList) ms) := by
  constructor
  · -- This order is looked for first, so what is found is a fit of it.
    obtain ⟨later, fits⟩ := phrase.fits_countFirst
    obtain ⟨found, isFit, finds⟩ := find?_of_start fits
    have captures := captures_countFirst isFit
    exact spawnRule?_of_found converts plain_countFirst (by rw [finds]; rfl)
      (by rw [Place.captured?, captures]; rfl) (by rw [Place.captured?, captures]; rfl)
  · -- The other order is looked for only where the first one is not found.
    obtain ⟨later, fits⟩ := phrase.fits_periodFirst
    obtain ⟨found, isFit, finds⟩ := find?_of_start fits
    have captures := captures_periodFirst isFit
    exact spawnRule?_of_found converts plain_periodFirst
      (by rw [incrementThenPeriod_periodFirst, finds]; rfl)
      (by rw [Place.captured?, captures]; rfl) (by rw [Place.captured?, captures]; rfl)

/-- A phrase in mixed case, with zeros in front of the number and a verb among the words between. -/
def sample : CountPhrase where
  verb := "AdDs"
  number := "007"
  filler := "add everyone  more"
  connector := "PER"
  interval := "1.50"
  unit := "Secs"
  isVerb := by decide
  isNumber := ⟨by decide, List.all_eq_true.1 (by decide)⟩
  isSmall := by decide
  fillerChars c there := by
    have all : "add everyone  more".toList.all (fun c => isAsciiLetter c || c = ' ') = true := by decide
    simpa using List.all_eq_true.1 all c there
  fillerWords := by decide
  isConnector := by decide
  isInterval := ⟨['1'], ⟨by decide, List.all_eq_true.1 (by decide)⟩,
    .inr ⟨['5', '0'], ⟨by decide, List.all_eq_true.1 (by decide)⟩, by decide⟩⟩
  isUnit := by decide

/-- Seven objects are added each one and a half seconds. -/
theorem spawnRule?_either_order_sample :
    spawnRule? "AdDs 007 add everyone  more PER 1.50 Secs" = some (.linear 7 1500)
      ∧ spawnRule? "PER 1.50 Secs add everyone  more AdDs 007" = some (.linear 7 1500) := by
  have converts : intervalMs? (some sample.interval.toList) = some 1500 := by decide +kernel
  exact spawnRule?_either_order sample converts

end CountPhrase

end Minigame.Phrase
