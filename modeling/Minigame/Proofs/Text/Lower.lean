import Minigame.Proofs.Text.Classes
import Minigame.Proofs.Text.Trim

/-!
Lower case of texts.

The case of ASCII letters does not matter for the lower case of a text. A text in front of another one
keeps its lower case, unless it ends in a capital sigma that ends a word: such a sigma has another
form where the word goes on.
-/

namespace Minigame.Text

/-! ### The case of ASCII letters -/

/-- What is the same for the two forms of every ASCII letter does not depend on the form. -/
theorem asciiLowerChar_congr {α : Type} (read : Char → α)
    (same : ∀ code ≤ 90, 65 ≤ code → read (Char.ofNat (code + 32)) = read (Char.ofNat code))
    (c : Char) : read (asciiLowerChar c) = read c := by
  unfold asciiLowerChar
  split
  -- Only a capital letter is changed, and its two forms are in the list.
  · next upper =>
    rw [same c.toNat upper.2 upper.1, Char.ofNat_toNat]
  · rfl

@[simp] theorem isBlank_asciiLowerChar (c : Char) : isBlank (asciiLowerChar c) = isBlank c :=
  asciiLowerChar_congr isBlank (by decide) c

/-- Trimming does not look at the case of letters. -/
theorem trimChars_map_asciiLowerChar (text : List Char) :
    trimChars (text.map asciiLowerChar) = (trimChars text).map asciiLowerChar := by
  -- Only white space is trimmed, and it has no two forms.
  have blank : isBlank ∘ asciiLowerChar = isBlank := funext isBlank_asciiLowerChar
  simp only [trimChars, trimStartChars, trimEndChars, List.dropWhile_map, blank,
    ← List.map_reverse]

/-- Whether a character is skipped in the search for a cased one. -/
def isCaseIgnorable (c : Char) : Bool :=
  inRanges caseIgnorableRanges c.toNat

/-- Whether a character has a case. -/
def isCased (c : Char) : Bool :=
  inRanges casedRanges c.toNat

/-- A text starts cased by the first of its characters that is not skipped. -/
theorem startsCased_eq (text : List Char) :
    startsCased text = ((text.dropWhile isCaseIgnorable).head?.any isCased) := by
  have ignorable : isCaseIgnorable = fun c => inRanges caseIgnorableRanges c.toNat := rfl
  rw [startsCased, ignorable]
  cases text.dropWhile fun c => inRanges caseIgnorableRanges c.toNat <;> rfl

theorem startsCased_map_asciiLowerChar (text : List Char) :
    startsCased (text.map asciiLowerChar) = startsCased text := by
  -- Neither class tells the two forms of an ASCII letter apart.
  have ignorable : isCaseIgnorable ∘ asciiLowerChar = isCaseIgnorable :=
    funext (asciiLowerChar_congr isCaseIgnorable (by decide))
  have cased : (fun c => isCased (asciiLowerChar c)) = isCased :=
    funext (asciiLowerChar_congr isCased (by decide))
  rw [startsCased_eq, startsCased_eq, List.dropWhile_map, ignorable, List.head?_map,
    Option.any_map, cased]

theorem lowerChar_asciiLowerChar (c : Char) : lowerChar (asciiLowerChar c) = lowerChar c :=
  asciiLowerChar_congr lowerChar (by decide) c

theorem lowerAfter_map_asciiLowerChar (before text : List Char) :
    lowerAfter (before.map asciiLowerChar) (text.map asciiLowerChar) = lowerAfter before text := by
  induction text generalizing before with
  | nil => rfl
  | cons c rest ih =>
    -- No letter becomes a sigma, and what stands before and behind starts cased as it did.
    have sigma : (asciiLowerChar c = 'Σ') = (c = 'Σ') :=
      asciiLowerChar_congr (· = 'Σ') (by decide) c
    rw [List.map_cons, lowerAfter, lowerAfter, ← List.map_cons, ih]
    simp only [sigma, startsCased_map_asciiLowerChar, lowerChar_asciiLowerChar]

/-- Texts that differ in the case of ASCII letters alone have the same lower case. -/
theorem lowerChars_congr {text other : List Char}
    (same : text.map asciiLowerChar = other.map asciiLowerChar) :
    lowerChars text = lowerChars other := by
  rw [lowerChars, lowerChars, ← lowerAfter_map_asciiLowerChar, same, lowerAfter_map_asciiLowerChar]

/-! ### A text in front of another one -/

/-- White space has no case. -/
theorem isCased_of_isBlank {c : Char} (blank : isBlank c = true) : isCased c = false :=
  forall_inRanges (fun code => inRanges casedRanges code = false) (by decide) blank

/-- A text in front of another one decides whether both start cased, unless all of it is skipped. -/
theorem startsCased_append (text rest : List Char) :
    startsCased (text ++ rest)
      = if text.all isCaseIgnorable then startsCased rest else startsCased text := by
  rw [startsCased_eq, List.dropWhile_append]
  by_cases skipped : text.all isCaseIgnorable = true
  · have nothing : text.dropWhile isCaseIgnorable = [] :=
      List.dropWhile_eq_nil_iff.2 (List.all_eq_true.1 skipped)
    rw [if_pos skipped, nothing, startsCased_eq]
    rfl
  · have something : text.dropWhile isCaseIgnorable ≠ [] := fun nothing =>
      skipped (List.all_eq_true.2 (List.dropWhile_eq_nil_iff.1 nothing))
    rw [if_neg skipped, if_neg (by simpa using something), startsCased_eq,
      List.head?_append_of_ne_nil _ something]

theorem startsCased_of_all {text : List Char} (skipped : text.all isCaseIgnorable = true) :
    startsCased text = false := by
  rw [startsCased_eq, List.dropWhile_eq_nil_iff.2 (List.all_eq_true.1 skipped)]
  rfl

theorem startsCased_of_blank {text : List Char} (blank : ∀ c ∈ text, isBlank c = true) :
    startsCased text = false := by
  rw [startsCased_eq, Option.any_eq_false]
  -- The first character that is not skipped is white space like all others.
  intro c there
  have listed : c ∈ text := (List.dropWhile_sublist _).subset (List.mem_of_head? there)
  simp [isCased_of_isBlank (blank c listed)]

/-- White space behind a text does not matter for whether it starts cased. -/
theorem startsCased_trimEndChars (text : List Char) :
    startsCased (trimEndChars text) = startsCased text := by
  -- What the trimming takes away is white space.
  have split : trimEndChars text ++ (text.reverse.takeWhile isBlank).reverse = text := by
    rw [trimEndChars, ← List.reverse_append, List.takeWhile_append_dropWhile, List.reverse_reverse]
  have blank : ∀ c ∈ (text.reverse.takeWhile isBlank).reverse, isBlank c = true :=
    fun c there => List.mem_takeWhile_imp (List.mem_reverse.1 there)
  conv_rhs => rw [← split, startsCased_append]
  split
  · -- A text that is skipped as a whole starts cased as what is behind it, and that is blank.
    next skipped => rw [startsCased_of_all skipped, startsCased_of_blank blank]
  · rfl

/--
A capital sigma ends a word of the text, and the text does not say whether the word goes on.

The characters in front of the text are handed over nearest first.
-/
def EndsInSigma (before text : List Char) : Prop :=
  ∃ front back, text = front ++ 'Σ' :: back ∧ startsCased (front.reverse ++ before) = true
    ∧ back.all isCaseIgnorable = true

theorem endsInSigma_nil (before : List Char) : ¬ EndsInSigma before [] := by
  -- Without characters there is no sigma.
  rintro ⟨front, back, whole, -⟩
  simp at whole

/-- Such a sigma is the first character or one of the others. -/
theorem endsInSigma_cons {before rest : List Char} {c : Char} :
    EndsInSigma before (c :: rest) ↔
      (c = 'Σ' ∧ startsCased before = true ∧ rest.all isCaseIgnorable = true)
        ∨ EndsInSigma (c :: before) rest := by
  constructor
  · rintro ⟨front, back, whole, cased, skipped⟩
    -- The sigma is the first character, or it comes later.
    cases front with
    | nil =>
      obtain ⟨rfl, rfl⟩ := List.cons.inj whole
      exact .inl ⟨rfl, cased, skipped⟩
    | cons first front =>
      obtain ⟨rfl, rfl⟩ := List.cons.inj whole
      exact .inr ⟨front, back, rfl, by simpa using cased, skipped⟩
  · rintro (⟨rfl, cased, skipped⟩ | ⟨front, back, rfl, cased, skipped⟩)
    · exact ⟨[], rest, rfl, cased, skipped⟩
    · exact ⟨c :: front, back, rfl, by simpa using cased, skipped⟩

instance EndsInSigma.decidable : (before text : List Char) → Decidable (EndsInSigma before text)
  | before, [] => .isFalse (endsInSigma_nil before)
  | before, c :: rest =>
    have := EndsInSigma.decidable (c :: before) rest
    decidable_of_iff _ endsInSigma_cons.symm

/-- The lower case of a text begins as that of its front, unless a sigma there is in a word that goes on. -/
theorem lowerAfter_prefix_iff (before text rest : List Char) :
    lowerAfter before text <+: lowerAfter before (text ++ rest) ↔
      ¬ (EndsInSigma before text ∧ startsCased rest = true) := by
  induction text generalizing before with
  | nil => simp [lowerAfter, endsInSigma_nil]
  | cons c text ih =>
    rw [List.cons_append, lowerAfter, lowerAfter, endsInSigma_cons]
    by_cases sigma : c = 'Σ'
    · rw [if_pos sigma, if_pos sigma, List.cons_prefix_cons, ih, startsCased_append]
      by_cases skipped : text.all isCaseIgnorable = true
      · -- Only what is behind the text tells whether this sigma ends a word.
        rw [if_pos skipped, startsCased_of_all skipped]
        cases startsCased before <;> cases startsCased rest <;> simp [sigma, skipped]
      · -- Another cased letter follows inside of the text, whatever is behind it.
        simp [skipped]
    · -- Every other character has one lower case.
      rw [if_neg sigma, if_neg sigma, List.prefix_append_right_inj, ih]
      simp [sigma]

end Minigame.Text
