import Mathlib.Data.List.DropRight
import Minigame.Text.Blank

/-! Trimming: what it leaves has no white space at its ends, so a second trimming finds nothing. -/

namespace Minigame.Text

/-- A trimmed text has no white space in front. -/
theorem trimStartChars_trimChars (text : List Char) :
    trimStartChars (trimChars text) = trimChars text := by
  -- The first character that is left is the first one that the trimming in front had left.
  refine List.dropWhile_eq_self_iff.2 fun nonempty => ?_
  have front : trimChars text <+: trimStartChars text := List.rdropWhile_prefix ..
  have longer := Nat.lt_of_lt_of_le nonempty front.length_le
  rw [front.getElem nonempty]
  exact List.dropWhile_get_zero_not isBlank text longer

/-- Trimming a second time changes nothing. -/
theorem trimChars_trimChars (text : List Char) : trimChars (trimChars text) = trimChars text := by
  calc trimChars (trimChars text)
      = trimEndChars (trimChars text) := by rw [trimChars, trimStartChars_trimChars]
    _ = trimChars text := List.rdropWhile_idempotent ..

theorem trim_trim (text : String) : trim (trim text) = trim text := by
  rw [trim, trim, String.toList_ofList, trimChars_trimChars]

/-- A text is trimmed exactly if there is no white space at its ends. -/
theorem trimChars_eq_self_iff {text : List Char} :
    trimChars text = text ↔
      (∀ c ∈ text.head?, isBlank c = false) ∧ ∀ c ∈ text.getLast?, isBlank c = false := by
  constructor
  · intro trimmed
    -- Neither of the two trimmings finds anything.
    have front : trimStartChars text = text := by rw [← trimmed, trimStartChars_trimChars]
    have back : trimEndChars text = text := by rwa [trimChars, front] at trimmed
    constructor
    · intro first there
      obtain ⟨rest, rfl⟩ := List.head?_eq_some_iff.1 there
      exact Bool.eq_false_iff.2 (List.dropWhile_eq_self_iff.1 front (by simp))
    · intro last there
      obtain ⟨nonempty, rfl⟩ := List.mem_getLast?_eq_getLast there
      exact Bool.eq_false_iff.2 (List.rdropWhile_eq_self_iff.1 back nonempty)
  · rintro ⟨front, back⟩
    have nothing_front : trimStartChars text = text := by
      refine List.dropWhile_eq_self_iff.2 fun nonempty => ?_
      simp [front text[0] (by simp [List.head?_eq_getElem?])]
    have nothing_back : trimEndChars text = text := by
      refine List.rdropWhile_eq_self_iff.2 fun nonempty => ?_
      simp [back _ (List.getLast?_eq_some_getLast nonempty)]
    rw [trimChars, nothing_front, nothing_back]

/-- White space around a text does not matter for what trimming leaves. -/
theorem trimChars_between {front back : List Char} (blankFront : ∀ c ∈ front, isBlank c = true)
    (blankBack : ∀ c ∈ back, isBlank c = true) (text : List Char) :
    trimChars (front ++ text ++ back) = trimChars text := by
  have started : trimStartChars (front ++ text ++ back) = trimStartChars (text ++ back) := by
    rw [List.append_assoc]
    exact List.dropWhile_append_of_pos blankFront
  rw [trimChars, trimChars, started, trimStartChars, List.dropWhile_append]
  split
  · -- Where the text is white space as well, nothing is left in either case.
    next nothing =>
      rw [List.dropWhile_eq_nil_iff.2 blankBack, trimStartChars, List.isEmpty_iff.1 nothing]
  · have behind : ∀ c ∈ back.reverse, isBlank c = true :=
      fun c there => blankBack c (List.mem_reverse.1 there)
    rw [trimEndChars, List.reverse_append, List.dropWhile_append_of_pos behind]
    rfl

/-- Trimming a text in front of another one can only take from the other one. -/
theorem trimChars_append {text : List Char} (trimmed : trimChars text = text) (nonempty : text ≠ [])
    (rest : List Char) : trimChars (text ++ rest) = text ++ trimEndChars rest := by
  have front : trimStartChars text = text := by rw [← trimmed, trimStartChars_trimChars]
  have back : trimEndChars text = text := by rwa [trimChars, front] at trimmed
  have started : trimStartChars (text ++ rest) = text ++ rest := by
    rw [trimStartChars, List.dropWhile_append, ← trimStartChars, front,
      if_neg (by simpa using nonempty)]
  rw [trimChars, started]
  clear started
  -- From the end, a character of the other text is taken in both texts or in neither.
  induction rest using List.reverseRecOn with
  | nil => rw [List.append_nil, back]; exact (List.append_nil text).symm
  | append_singleton rest c ih =>
    change List.rdropWhile isBlank _ = text ++ List.rdropWhile isBlank _
    rw [← List.append_assoc, List.rdropWhile_concat, List.rdropWhile_concat]
    split
    · exact ih
    · rw [List.append_assoc]

/-- What trimming leaves of a text that is not blank. -/
theorem trimChars_ne_nil {text : String} (proper : isBlankText text = false) :
    trimChars text.toList ≠ [] := by
  intro nothing
  -- Then what is behind the white space in front would be white space as well.
  have behind : ∀ c ∈ trimStartChars text.toList, isBlank c = true :=
    List.rdropWhile_eq_nil_iff.1 nothing
  have blank : ∀ c ∈ text.toList, isBlank c = true := fun c there => by
    rw [← List.takeWhile_append_dropWhile (p := isBlank) (l := text.toList)] at there
    exact (List.mem_append.1 there).elim List.mem_takeWhile_imp (behind c)
  rw [isBlankText, List.all_eq_true.2 blank] at proper
  cases proper

/-- A trimmed text that is not empty is not blank. -/
theorem isBlankText_eq_false {text : String} (trimmed : trim text = text) (nonempty : text ≠ "") :
    isBlankText text = false := by
  -- Nothing would be left of white space.
  by_contra blank
  have all : ∀ c ∈ text.toList, isBlank c = true := by simpa [isBlankText] using blank
  have gone : trimStartChars text.toList = [] := List.dropWhile_eq_nil_iff.2 all
  exact nonempty (by rw [← trimmed, trim, trimChars, gone]; rfl)

end Minigame.Text
