import Minigame.Proofs.Proposal.Rules

/-!
What a kept proposal has in common with a new one where the rules decide alone.

The key of a request tells all that the rules look at but the display. So a kept proposal is the one
that would be made anew, unless a game is made one of survival and the display is there in one of
the two documents alone.
-/

namespace Minigame.Proposal

open Minigame.Text

/-- Requests have different keys unless they agree in what their keys are made of. -/
def KeysApart (settings : ProposalSettings) (requests : List Request) : Prop :=
  ∀ request ∈ requests, ∀ other ∈ requests, ∀ key,
    request.usedKey? settings = some key → other.usedKey? settings = some key →
    (request.bounded settings).keyInput settings = (other.bounded settings).keyInput settings

/-- Requests that agree in what keys are made of have keys apart. -/
theorem KeysApart.of_keyInput {settings : ProposalSettings} {requests : List Request}
    (input : Json × String × String)
    (same : ∀ request ∈ requests, (request.bounded settings).keyInput settings = input) :
    KeysApart settings requests :=
  fun request listed other other_listed _ _ _ =>
    (same request listed).trans (same other other_listed).symm

namespace Resolver

/--
Without a service a kept proposal is the rules' own answer up to the display.

Their answer is their own patch with the operations for what the prompt says outright behind it. A
call is given their answer to the first call with the key. It is exactly their answer to this call
unless they turn the game into one of survival and the display is there in one of the two documents
alone.
-/
theorem rules_kept {settings : ProposalSettings} {requests : List Request}
    (short : ∀ request ∈ requests, request.prompt.length ≤ settings.promptKeyChars)
    (apart : KeysApart settings requests) {call : Call (List (Digest × Patch))}
    (listed : call ∈ (inMemory settings none).calls requests .fresh) {key : Digest}
    (used : call.request.usedKey? settings = some key) :
    let own (request : Request) : Patch :=
      let base := fallbackPatch request.doc request.prompt
      base ++ overrides request.prompt (Design.template (base.apply request.doc))
    ∃ first, firstWith settings key ((inMemory settings none).calls requests .fresh) = some first ∧
      call.proposal.patch = own first.request ∧
      besideHud call.proposal.patch = besideHud (own call.request) ∧
      (call.proposal.patch = own call.request ↔
        (turns call.request.doc call.request.prompt = true →
          showsHud first.request.doc = showsHud call.request.doc)) := by
  intro own
  obtain ⟨first, found, first_used, patch⟩ := rules_settled listed used
  have first_requested := request_mem _ (mem_of_firstWith found)
  have requested := request_mem _ listed
  -- The two calls agree in what the key is made of, and their prompts are not cut for it.
  have agree := apart _ first_requested _ requested key first_used used
  obtain ⟨doc, cut, _⟩ : _ ∧ _ ∧ _ := by simpa [Request.keyInput, Request.bounded] using agree
  have prompt : first.request.prompt = call.request.prompt := by
    rwa [truncate_of_length_le (short _ first_requested),
      truncate_of_length_le (short _ requested)] at cut
  -- What a resolver settles for a request is what the rules say with the words behind it.
  have answer (request : Request) : rulePatch request = own request := withOverrides_eq request _
  refine ⟨first, found, patch.trans (answer _), ?_, ?_⟩
  · rw [patch, ← answer, besideHud_rulePatch_eq doc prompt]
  · rw [patch, ← answer, rulePatch_eq_iff doc prompt]

/-- What the prompt `pop slimes, add 3 every 2 s` says outright: a skin and a rule for spawning. -/
def slimeWords : Patch :=
  [put ["meta", "skin"] (.str "slime"), put ["rules", "spawn"] (SpawnRule.linear 3 2000).toJson]

/-- Notes that the rules do not look at do not keep a kept proposal from being their own answer. -/
theorem rules_kept_notes :
    let prompt := "pop slimes, add 3 every 2 s"
    let first : Request := ⟨.obj [], prompt, ""⟩
    let second : Request := ⟨.obj [("notes", .str "scratch")], prompt, ""⟩
    let run := (inMemory .default none).calls [first, second] .fresh
    ∀ call ∈ run,
      call.proposal.patch = fallbackPatch call.request.doc call.request.prompt ++ slimeWords := by
  intro prompt first second run call listed
  have short : ∀ request ∈ [first, second],
      request.prompt.length ≤ ProposalSettings.default.promptKeyChars := by decide
  have apart : KeysApart .default [first, second] :=
    .of_keyInput ((first.bounded .default).keyInput .default) (by decide)
  have indirect : ∀ request ∈ [first, second],
      isDirectMode request.prompt ProposalSettings.default.directModeKeyword = false := by decide
  have used := Request.usedKey?_of_indirect (indirect _ (request_mem _ listed))
  obtain ⟨other, found, _, _, own⟩ := rules_kept short apart listed used
  -- Neither document has a display.
  have plain : ∀ request ∈ [first, second], showsHud request.doc = false := by decide
  have patch := own.2 fun _ => (plain _ (request_mem _ (mem_of_firstWith found))).trans
    (plain _ (request_mem _ listed)).symm
  -- The words of the prompt are the same in games of every template.
  have same : call.request.prompt = prompt := by
    have both : ∀ request ∈ [first, second], request.prompt = prompt := by decide
    exact both _ (request_mem _ listed)
  have words : overrides prompt .sandbox = slimeWords := by decide +kernel
  refine patch.trans (congrArg (fallbackPatch _ _ ++ ·) ?_)
  rw [overrides_template _ _ .sandbox, same, words]

/--
A kept proposal may put a display where there is one already.

The first document has none and the second one does, and no other part of them is looked at. What the
prompt says outright stands behind the patch of the rules in either case.
-/
theorem rules_kept_hud :
    let settings := ProposalSettings.default
    let prompt := "pop slimes, add 3 every 2 s"
    let first : Request := ⟨.obj [], prompt, ""⟩
    let second : Request := ⟨.obj [("hud", .obj [])], prompt, ""⟩
    let requests := [first, second]
    (∀ request ∈ requests, request.prompt.length ≤ settings.promptKeyChars ∧
      isDirectMode request.prompt settings.directModeKeyword = false) ∧
    KeysApart settings requests ∧
    ∃ call ∈ (inMemory settings none).calls requests .fresh, call.request = second ∧
      call.proposal.patch = fallbackPatch first.doc prompt ++ slimeWords ∧
      call.proposal.patch ≠ fallbackPatch second.doc prompt ++ slimeWords := by
  intro settings prompt first second requests
  have plain : ∀ request ∈ requests, request.prompt.length ≤ settings.promptKeyChars ∧
      isDirectMode request.prompt settings.directModeKeyword = false := by decide
  have input : ∀ request ∈ requests, (request.bounded settings).keyInput settings =
      (first.bounded settings).keyInput settings := by decide
  have used : first.usedKey? settings = some ((first.bounded settings).key settings) :=
    Request.usedKey?_of_indirect (by decide)
  have again : second.usedKey? settings = some ((first.bounded settings).key settings) := by
    rw [Request.usedKey?_of_indirect (by decide)]
    exact congrArg some (Request.key_of_keyInput (input second (by simp [requests])))
  obtain ⟨call, listed, asked, patch⟩ := rules_settled_pair used again
  -- The words stand behind what the rules say to either request.
  have words : overrides prompt .sandbox = slimeWords := by decide +kernel
  have answer : ∀ request ∈ requests,
      rulePatch request = fallbackPatch request.doc prompt ++ slimeWords := by
    intro request listed
    have same : ∀ request ∈ requests, request.prompt = prompt := by decide
    rw [rulePatch, withOverrides_eq, overrides_template _ _ .sandbox, same request listed, words]
  rw [answer first (by simp [requests])] at patch
  refine ⟨plain, .of_keyInput _ input, call, listed, asked, patch, fun same => ?_⟩
  -- The game turns, and only the first document lacks its display.
  have docs : Design.projection first.doc = Design.projection second.doc := by decide
  have equal : fallbackPatch first.doc prompt = fallbackPatch second.doc prompt :=
    List.append_cancel_right (patch.symm.trans same)
  rw [fallbackPatch_eq_iff docs] at equal
  exact absurd (equal (by decide)) (by decide)

end Resolver

end Minigame.Proposal
