import Minigame.Proofs.Session.Summary

/-!
How long a summary is.

What is cut keeps the limit, because the ellipsis takes the place of the last character. A limit of
zero has no such place, so there a summary of anything that was said is the ellipsis alone.
-/

namespace Minigame

open Minigame.Text Minigame.Proposal

/-- Nothing is left of a text exactly if it is white space. -/
theorem Text.trimChars_eq_nil_iff {text : List Char} :
    trimChars text = [] ↔ ∀ c ∈ text, isBlank c = true := by
  constructor
  · intro nothing
    -- A text with a proper character would keep it.
    by_contra proper
    have filled : isBlankText (String.ofList text) = false := by
      simpa [isBlankText] using proper
    exact trimChars_ne_nil filled (by rwa [String.toList_ofList])
  · intro blank
    -- Everything is dropped from the front.
    rw [trimChars, trimStartChars, List.dropWhile_eq_nil_iff.2 blank]
    rfl

section

variable {limit : Nat} {text : List Char}

/-- With room for the ellipsis a text that is cut has as many characters as it may have. -/
theorem length_ellipsize_le (room : limit ≠ 0) : (ellipsize limit text).length ≤ limit := by
  by_cases short : text.length ≤ limit
  · rwa [ellipsize, if_pos short]
  · -- One place is left for the ellipsis.
    rw [ellipsize_of_lt (Nat.lt_of_not_le short), List.length_append, List.length_take,
      List.length_singleton]
    omega

/-- Without room for anything, all that is left of a text is the ellipsis. -/
theorem ellipsize_zero (nonempty : text ≠ []) : ellipsize 0 text = ['…'] :=
  ellipsize_of_lt (List.length_pos_iff.2 nonempty)

/-- A text that is cut keeps the limit, unless that is zero and there is something to cut. -/
theorem ellipsize_outcome (limit : Nat) (text : List Char) :
    if limit = 0 ∧ text ≠ [] then ellipsize limit text = ['…']
    else (ellipsize limit text).length ≤ limit := by
  split
  · next cut =>
    obtain ⟨rfl, nonempty⟩ := cut
    exact ellipsize_zero nonempty
  · next fits =>
    -- A limit of zero keeps its word only for the empty text.
    by_cases none : limit = 0
    · have nothing : text = [] := by simpa [none] using fits
      subst nothing
      exact Nat.zero_le _
    · exact length_ellipsize_le none

end

/-- A summary keeps its limit, unless that is zero and something was said. -/
theorem summarize_outcome (previous prompt : String) (limit : Nat) :
    if limit = 0 ∧ ¬ (isBlankText previous = true ∧ isBlankText prompt = true) then
      summarize previous prompt limit = "…"
    else (summarize previous prompt limit).length ≤ limit := by
  -- The space between the two parts is white space itself, so it decides nothing.
  have said : trimChars (previous.toList ++ ' ' :: prompt.toList) ≠ []
      ↔ ¬ (isBlankText previous = true ∧ isBlankText prompt = true) := by
    have space : isBlank ' ' = true := by decide
    rw [ne_eq, trimChars_eq_nil_iff, isBlankText, isBlankText, List.all_eq_true, List.all_eq_true]
    simp only [List.forall_mem_append, List.forall_mem_cons, space, true_and]
  have cut := ellipsize_outcome limit (trimChars (previous.toList ++ ' ' :: prompt.toList))
  simp only [said] at cut
  -- The summary is what is left of both parts, cut at the limit.
  split at cut
  · next none => rw [if_pos none, summarize, cut]
  · next fits => rwa [if_neg fits, summarize, String.length_ofList]

namespace GameRecord.Summed

variable {limit : Nat} {record : GameRecord}

/-- The summary of a conversation keeps its limit, unless that is zero and there was a turn. -/
theorem outcome (summed : record.Summed limit) :
    if limit = 0 ∧ record.history ≠ [] then record.summary = "…"
    else record.summary.length ≤ limit := by
  -- A prompt is not blank, so a conversation is empty only before the first turn.
  have said : (conversation record.history).toList ≠ [] ↔ record.history ≠ [] := by
    refine ⟨fun filled none => filled ?_, fun going => (summed.front going).1⟩
    rw [none]
    rfl
  have cut := ellipsize_outcome limit (conversation record.history).toList
  simp only [said] at cut
  -- The summary of the record is the conversation, cut at the limit.
  rw [← toList_shortened, ← summed.summary] at cut
  split at cut
  · next none =>
    rw [if_pos none]
    exact String.toList_injective cut
  · next fits => rwa [if_neg fits, ← String.length_toList]

end GameRecord.Summed

namespace Studio

variable {κ : Type} {studio : Studio κ Records}

/--
A summary has no more characters than it may have, but a limit of zero leaves the ellipsis.

This is so for any summary and prompt, and for all summaries that are stored after any calls,
however they overlap.
-/
theorem summary_bounded (inMemory : studio.records = .memory) (proposals : Memory κ)
    (events : List (SessionEvent κ)) (previous prompt : String) (limit : Nat) :
    (if limit = 0 ∧ ¬ (isBlankText previous = true ∧ isBlankText prompt = true) then
        summarize previous prompt limit = "…"
      else (summarize previous prompt limit).length ≤ limit)
      ∧ ∀ id record, (studio.run events (.fresh proposals)).state.records.get? id = some record →
        if studio.settings.summaryChars = 0 ∧ record.history ≠ [] then record.summary = "…"
        else record.summary.length ≤ studio.settings.summaryChars := by
  refine ⟨summarize_outcome previous prompt limit, fun id record there => ?_⟩
  -- What the summary is made of is an invariant of all calls; its length follows.
  have holds : (studio.run events (.fresh proposals)).Holds
      (GameRecord.Summed studio.settings.summaryChars) fun _ => True :=
    .reached inMemory studio.keeps_summed trivial fun event _ => event.stirs_true
  exact (holds.stored id record there).2.outcome

/-- A summary with room for one character keeps to it, and so does one that is not cut at all. -/
theorem summary_bounded_one :
    let studio := Studio.inMemory { SessionSettings.default with summaryChars := 1 } none
    let events : List (SessionEvent (List (Digest × Patch))) :=
      [.create "ann" none ⟨1⟩ ⟨0, 0⟩, .read "ann" ⟨1⟩ (.turn false "bubbles"),
        .read "ann" ⟨1⟩ (.turn false "maze"), .write 1 ⟨1, 0⟩]
    let state := (studio.run events (.fresh ⟨[], []⟩)).state
    studio.records = .memory ∧ (summarize "" "maze" 4).length ≤ 4
      ∧ ∃ record, state.records.get? ⟨1⟩ = some record ∧ record.history ≠ []
        ∧ record.summary.length ≤ 1 := by
  intro studio events state
  -- Of the two turns that were read only the second one has been written.
  have said : (state.records.get? ⟨1⟩).map GameRecord.history = some [⟨.user, "maze"⟩] := by
    decide +kernel
  obtain ⟨record, there, history⟩ := Option.map_eq_some_iff.1 said
  have inMemory : studio.records = .memory := rfl
  obtain ⟨cut, stored⟩ := summary_bounded inMemory ⟨[], []⟩ events "" "maze" 4
  exact ⟨inMemory, cut, record, there, by simp [history], stored ⟨1⟩ record there⟩

/-- Where a summary may have no characters, one turn leaves it with one. -/
theorem summary_exceeds_zero :
    let studio := Studio.inMemory { SessionSettings.default with summaryChars := 0 } none
    let events : List (SessionEvent (List (Digest × Patch))) :=
      [.create "ann" none ⟨1⟩ ⟨0, 0⟩, .read "ann" ⟨1⟩ (.turn false "maze"), .write 0 ⟨1, 0⟩]
    let state := (studio.run events (.fresh ⟨[], []⟩)).state
    ¬ (summarize "" "maze" 0).length ≤ 0
      ∧ studio.settings.summaryChars = 0
      ∧ (state.records.get? ⟨1⟩).map (·.summary.length) = some 1 := by
  intro studio events state
  exact ⟨by decide +kernel, rfl, by decide +kernel⟩

end Studio

end Minigame
