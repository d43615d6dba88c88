import Minigame.Proofs.Text.Lower
import Minigame.Proposal.Rules

/-!
The keyword of direct mode.

A prompt that begins with the keyword asks for direct mode, whatever follows, except where the keyword
ends in a capital sigma and the word goes on. White space around the prompt and the case of ASCII
letters never matter.
-/

namespace Minigame.Proposal

open Minigame.Text

/-- Direct mode is asked for by what trimming and lower case leave of the prompt and the keyword. -/
theorem isDirectMode_iff {prompt keyword : String} :
    isDirectMode prompt keyword = true ↔
      trimChars keyword.toList ≠ []
        ∧ lowerChars (trimChars keyword.toList) <+: lowerChars (trimChars prompt.toList) := by
  simp [isDirectMode]

/-- The case of ASCII letters and white space around the prompt do not matter for direct mode. -/
theorem isDirectMode_congr {prompt other keyword otherKeyword front back : String}
    (keywords : eqIgnoringAsciiCase otherKeyword keyword = true)
    (prompts : eqIgnoringAsciiCase other prompt = true)
    (blankFront : isBlankText front = true) (blankBack : isBlankText back = true) :
    isDirectMode (front ++ other ++ back) otherKeyword = isDirectMode prompt keyword := by
  -- Trimming looks at white space only, which has no case, so it can be done before or after
  -- folding.
  have folded {a b : String} (same : eqIgnoringAsciiCase a b = true) :
      (trimChars a.toList).map asciiLowerChar = (trimChars b.toList).map asciiLowerChar := by
    rw [← trimChars_map_asciiLowerChar, ← trimChars_map_asciiLowerChar]
    exact congrArg trimChars (String.ofList_injective (beq_iff_eq.1 same))
  have bare : trimChars (front ++ other ++ back).toList = trimChars other.toList := by
    rw [String.toList_append, String.toList_append]
    exact trimChars_between (List.all_eq_true.1 blankFront) (List.all_eq_true.1 blankBack) _
  have empty : trimChars otherKeyword.toList = [] ↔ trimChars keyword.toList = [] := by
    rw [← List.map_eq_nil_iff, folded keywords, List.map_eq_nil_iff]
  rw [Bool.eq_iff_iff, isDirectMode_iff, isDirectMode_iff, bare, lowerChars_congr (folded keywords),
    lowerChars_congr (folded prompts), Ne, Ne, empty]

/--
A prompt that begins with the keyword asks for direct mode, unless a sigma at the end of the keyword
stands in a word that goes on.

It makes no difference in which case the ASCII letters of the prompt and the keyword are written and
how much white space is around the prompt.
-/
theorem isDirectMode_keyword {keyword : String} (named : isBlankText keyword = false)
    (rest : String) :
    (isDirectMode (trim keyword ++ rest) keyword = true ↔
      ¬ (EndsInSigma [] (trim keyword).toList ∧ startsCased rest.toList = true))
    ∧ ∀ otherKeyword prompt front back : String, eqIgnoringAsciiCase otherKeyword keyword = true →
      eqIgnoringAsciiCase prompt (trim keyword ++ rest) = true →
      isBlankText front = true → isBlankText back = true →
      isDirectMode (front ++ prompt ++ back) otherKeyword
        = isDirectMode (trim keyword ++ rest) keyword := by
  have nonempty := trimChars_ne_nil named
  -- In front the keyword keeps trimming from going on, so only the end of the prompt is trimmed.
  have begins : trimChars (trim keyword ++ rest).toList
      = trimChars keyword.toList ++ trimEndChars rest.toList := by
    rw [String.toList_append, trim, String.toList_ofList]
    exact trimChars_append (trimChars_trimChars _) nonempty _
  refine ⟨?_, fun _ _ _ _ keywords prompts => isDirectMode_congr keywords prompts⟩
  rw [isDirectMode_iff, and_iff_right nonempty, begins, lowerChars, lowerChars,
    lowerAfter_prefix_iff, startsCased_trimEndChars, trim, String.toList_ofList]

/-- A sigma by itself ends no word, so a keyword with one is recognized also where letters follow. -/
theorem isDirectMode_keyword_sigma :
    isBlankText " To Σ " = false ∧ isDirectMode ("\n" ++ "tO Σα: a maze" ++ "\t ") " TO Σ " = true := by
  have named : isBlankText " To Σ " = false := by decide
  obtain ⟨begins, same⟩ := isDirectMode_keyword named "α: A maze"
  -- Behind a blank the sigma has no letter in front of it.
  have alone : ¬ EndsInSigma [] (trim " To Σ ").toList := by decide
  have recognized := begins.2 fun both => alone both.1
  exact ⟨named, (same " TO Σ " "tO Σα: a maze" "\n" "\t " (by decide) (by decide) (by decide)
    (by decide)).trans recognized⟩

/-- A keyword that ends in a sigma is not recognized where the word goes on behind it. -/
theorem isDirectMode_sigma_goes_on :
    isBlankText "ΑΣ" = false ∧ isDirectMode (trim "ΑΣ" ++ "Α") "ΑΣ" = false := by
  decide

end Minigame.Proposal
