import Minigame.Proposal.Resolver

/-!
One call for a proposal: the way it takes, and what its report says about failures on that way.

A store that fails and a service that fails are seen in the report alone: the proposal is the one
that an empty store that works would have led to.
-/

namespace Minigame.Proposal

/--
When a failure is noted.

`read` and `written` are what came of reading the store and of writing to it, where nothing stands
for a failure, and `reply` is what the service said, where nothing stands for no service.
-/
def Arises {σ : Type} (read : Option (Option Patch)) (written : Option σ) (reply : Option Reply) :
    Degradation → Prop
  | .serviceUnavailable => reply = none
  | .serviceTimeout => reply = some .late
  | .serviceError => ∃ error, reply = some (.failed error)
  | .unparseableResponse =>
    ∃ text error, reply = some (.text text) ∧ Patch.ofText text = .error error
  -- Where reading fails nothing is written, so the store is noted once at most.
  | .cacheUnavailable => read = none ∨ read = some none ∧ written = none

/-- The operations that a service offered: those of a text that holds a patch. -/
def offered : Option Reply → Patch
  | some (.text text) =>
    match Patch.ofText text with
    | .ok patch => patch
    | .error _ => []
  | _ => []

/-- Failures on the way to a proposal, with a failed reading in front and a failed writing behind. -/
def noted {σ : Type} (read : Option (Option Patch)) (written : Option σ)
    (failures : List Degradation) : List Degradation :=
  match read, written with
  | none, _ => .cacheUnavailable :: failures
  | some _, none => failures ++ [.cacheUnavailable]
  | some _, some _ => failures

section

variable {σ : Type} {read : Option (Option Patch)} {written : Option σ} {reply : Option Reply}
  {failures : List Degradation} {failure : Degradation}

/-- A failure arises in the service, or it is one of the store. -/
theorem arises_iff :
    Arises read written reply failure ↔
      Arises (some none) (some ()) reply failure ∨
        failure = .cacheUnavailable ∧ (read = none ∨ read = some none ∧ written = none) := by
  cases failure <;> simp [Arises]

/-- The store is noted where reading failed, or where nothing was found and writing failed. -/
theorem mem_noted (unkept : ∀ patch, read ≠ some (some patch)) :
    failure ∈ noted read written failures ↔
      failure ∈ failures ∨
        failure = .cacheUnavailable ∧ (read = none ∨ read = some none ∧ written = none) := by
  cases read with
  -- Where reading failed nothing was written, so the store is noted in front.
  | none => simp [noted, or_comm]
  | some found =>
    cases found with
    -- What was found is given out as it is, so this cannot be.
    | some patch => exact absurd rfl (unkept patch)
    | none => cases written <;> simp [noted]

/-- One failure of the service at most is noted, and the store once at most beside it. -/
theorem nodup_noted (few : failures.length ≤ 1) (apart : .cacheUnavailable ∉ failures) :
    (noted read written failures).Nodup := by
  -- A list of one entry at most has nothing twice.
  have single : failures.Nodup := by
    rcases failures with _ | ⟨first, _ | ⟨second, rest⟩⟩
    · exact List.nodup_nil
    · simp
    · simp at few
  unfold noted
  split
  · exact List.nodup_cons.2 ⟨apart, single⟩
  · refine List.nodup_append.2 ⟨single, by simp, fun failure listed other last => ?_⟩
    rintro rfl
    exact apart (List.mem_singleton.1 last ▸ listed)
  · exact single

end

section

variable (request : Request) (contribution : Contribution)

/-- Behind a patch stands what the prompt says outright, for the template that the patch leaves. -/
theorem withOverrides_eq (patch : Patch) :
    withOverrides request patch =
      patch ++ overrides request.prompt (Design.template (patch.apply request.doc)) := rfl

/--
A proposal holds the contribution if that has an operation, and what the rules give otherwise.

What the prompt says outright stands behind either.
-/
theorem settle_patch :
    let base :=
      if contribution.patch = [] then fallbackPatch request.doc request.prompt
      else contribution.patch
    (settle request contribution).patch =
      base ++ overrides request.prompt (Design.template (base.apply request.doc)) := by
  -- Whether there is an operation is asked in the same way on both sides.
  cases given : contribution.patch <;> simp [settle, rulePatch, withOverrides_eq, given]

/-- The source of a proposal is the service, the rules, or nothing at all where its patch is empty. -/
theorem settle_source :
    let settled := settle request contribution
    (settled.source = .service ↔ contribution.patch ≠ []) ∧
    (settled.source = .empty ↔ contribution.patch = [] ∧ settled.patch = []) ∧
    (settled.source = .fallback ↔ contribution.patch = [] ∧ settled.patch ≠ []) := by
  cases given : contribution.patch with
  -- Nothing was offered, so the rules decide whether there is anything at all.
  | nil => by_cases empty : rulePatch request = [] <;> simp [settle, given, empty]
  -- A patch that starts with an operation of the service is not empty.
  | cons operation rest => simp [settle, withOverrides, given]

/-- What is settled comes from the service, from the rules or from nowhere. -/
theorem settle_source_ne :
    let settled := settle request contribution
    settled.source ≠ .directMode ∧ settled.source ≠ .cache := by
  simp only [settle]
  repeat' split
  all_goals simp

end

namespace Resolver

variable {σ : Type} (resolver : Resolver σ) (request : Request) (memory : Memory σ)

/-- What the service says to a request, if there is a service. -/
def reply? (sent : List String) : Option Reply :=
  resolver.service.map fun service => service.reply (payload request :: sent)

/-- What a service contributes: the operations it offered and the one failure of it, if any. -/
theorem ask_contribution (sent : List String) :
    let contribution := (resolver.ask request sent).1
    let reply := resolver.reply? request sent
    contribution.patch = offered reply ∧
    contribution.model = resolver.service.map (·.model) ∧
    contribution.degradations.length ≤ 1 ∧
    ∀ failure, failure ∈ contribution.degradations ↔
      Arises (some none) (some ()) reply failure := by
  -- One case for each thing that may come of asking, and one for each name of a failure.
  unfold ask reply?
  cases resolver.service with
  | none =>
    refine ⟨rfl, rfl, Nat.le_refl 1, fun failure => ?_⟩
    cases failure <;> simp [Contribution.absent, Arises]
  | some service =>
    cases said : service.reply (payload request :: sent) with
    | late =>
      simp only [Option.map_some, said]
      refine ⟨rfl, rfl, Nat.le_refl 1, fun failure => ?_⟩
      cases failure <;> simp [Contribution.ofReply, Reply.patch, Arises]
    | failed error =>
      simp only [Option.map_some, said]
      refine ⟨rfl, rfl, Nat.le_refl 1, fun failure => ?_⟩
      cases failure <;> simp [Contribution.ofReply, Reply.patch, Arises]
    | text reply =>
      simp only [Option.map_some, said, Contribution.ofReply, Reply.patch, offered]
      cases held : Patch.ofText reply with
      | ok patch =>
        refine ⟨rfl, rfl, Nat.zero_le 1, fun failure => ?_⟩
        cases failure <;> simp [Arises, held]
      | error problem =>
        refine ⟨rfl, rfl, Nat.le_refl 1, fun failure => ?_⟩
        cases failure <;> simp [Arises, held]

/-- In direct mode the prompt is kept as it is, and nothing else is looked at. -/
theorem propose_direct
    (direct : isDirectMode request.prompt resolver.settings.directModeKeyword = true) :
    resolver.propose request memory =
      (⟨directModePatch request.prompt, .directMode, [], none⟩, memory) := by
  rw [propose, if_pos direct]

section

variable (indirect : isDirectMode request.prompt resolver.settings.directModeKeyword = false)
include indirect

/-- A proposal that is kept is given out as it is. -/
theorem propose_kept {patch : Patch}
    (kept : resolver.store.get ((request.bounded resolver.settings).key resolver.settings)
      memory.kept = some (some patch)) :
    resolver.propose request memory = (⟨patch, .cache, [], none⟩, memory) := by
  rw [propose, if_neg (by simp [indirect])]
  simp only [kept]

/-- A proposal that is not kept is settled from what the service contributes. -/
theorem propose_settled
    (unkept : ∀ patch, resolver.store.get
      ((request.bounded resolver.settings).key resolver.settings) memory.kept ≠ some (some patch)) :
    let bounded := request.bounded resolver.settings
    let key := bounded.key resolver.settings
    let contribution := (resolver.ask bounded memory.sent).1
    let settled := settle bounded contribution
    let failures := noted (resolver.store.get key memory.kept)
      (resolver.store.put key settled.patch memory.kept) contribution.degradations
    (resolver.propose request memory).1 =
      ⟨settled.patch, settled.source, failures, contribution.model⟩ := by
  -- What is noted depends on the reading and then on the writing; what is proposed does not.
  simp only [propose, indirect, Bool.false_eq_true, if_false]
  cases read : resolver.store.get ((request.bounded resolver.settings).key resolver.settings)
      memory.kept with
  -- Reading failed, so nothing is written.
  | none => rfl
  | some found =>
    cases found with
    | some patch => exact absurd read (unkept patch)
    | none =>
      simp only [make, keep, if_true]
      -- The patch is settled before it is written, so writing can fail without harm.
      split
      · next kept written => simp only [written, noted]; rfl
      · next written => simp only [written, noted]; rfl

/--
Failures on the way to a proposal change its report only, and the report tells the way.

Whatever comes of the store, the patch, its source and the model are those of a store that works and
keeps nothing. The patch is what the service offered or else what the rules give, and the operations
for what the prompt says outright behind it, and the source tells which. Each failure is noted once
if it arises.
-/
theorem propose_unkept
    (unkept : ∀ patch, resolver.store.get
      ((request.bounded resolver.settings).key resolver.settings) memory.kept ≠ some (some patch)) :
    let bounded := request.bounded resolver.settings
    let key := bounded.key resolver.settings
    let reply := resolver.reply? bounded memory.sent
    let proposal := (resolver.propose request memory).1
    let plain :=
      ((inMemory resolver.settings resolver.service).propose request ⟨[], memory.sent⟩).1
    let base :=
      if offered reply = [] then fallbackPatch request.doc request.prompt else offered reply
    (proposal.patch = plain.patch ∧ proposal.source = plain.source ∧
      proposal.model = plain.model) ∧
    proposal.patch = base ++ overrides request.prompt (Design.template (base.apply request.doc)) ∧
    (proposal.source = .service ↔ offered reply ≠ []) ∧
    (proposal.source = .empty ↔ offered reply = [] ∧ proposal.patch = []) ∧
    (proposal.source = .fallback ↔ offered reply = [] ∧ proposal.patch ≠ []) ∧
    proposal.model = resolver.service.map (·.model) ∧
    proposal.degradations.Nodup ∧
    ∀ failure, failure ∈ proposal.degradations ↔
      Arises (resolver.store.get key memory.kept)
        (resolver.store.put key proposal.patch memory.kept) reply failure := by
  intro bounded key reply proposal plain base
  obtain ⟨given, model, few, arising⟩ := resolver.ask_contribution bounded memory.sent
  let contribution := (resolver.ask bounded memory.sent).1
  let settled := settle bounded contribution
  have answer : proposal = ⟨settled.patch, settled.source, _, contribution.model⟩ :=
    resolver.propose_settled request memory indirect unkept
  -- Beside a store that keeps nothing the service contributes the same.
  have plainAnswer : plain = ⟨settled.patch, settled.source, _, contribution.model⟩ :=
    (inMemory resolver.settings resolver.service).propose_settled request ⟨[], memory.sent⟩ indirect
      (by intro patch found; cases found)
  have patch : proposal.patch =
      base ++ overrides request.prompt (Design.template (base.apply request.doc)) := by
    -- The bounded request has the document and the prompt of the request itself.
    rw [answer]
    simp only [base, reply, ← given]
    exact settle_patch bounded contribution
  have sources : (proposal.source = .service ↔ offered reply ≠ []) ∧
      (proposal.source = .empty ↔ offered reply = [] ∧ proposal.patch = []) ∧
      (proposal.source = .fallback ↔ offered reply = [] ∧ proposal.patch ≠ []) := by
    rw [answer, ← given]
    exact settle_source bounded contribution
  -- What the service failed in is noted, and the store is noted beside it.
  have failures : proposal.degradations = noted (resolver.store.get key memory.kept)
      (resolver.store.put key proposal.patch memory.kept) contribution.degradations := by
    rw [answer]
  have apart : .cacheUnavailable ∉ contribution.degradations := by
    simp [contribution, arising, Arises]
  have alike : proposal.patch = plain.patch ∧ proposal.source = plain.source ∧
      proposal.model = plain.model := by
    rw [answer, plainAnswer]
    exact ⟨rfl, rfl, rfl⟩
  refine ⟨alike, patch, sources.1, sources.2.1, sources.2.2, ?_, ?_, fun failure => ?_⟩
  · -- The model is that of the service, whatever came of asking.
    rw [answer, ← model]
  · rw [failures]
    exact nodup_noted few apart
  · rw [failures, mem_noted unkept, arises_iff, arising]

end

/--
Where the store is broken and the service is late the rules decide, and both are noted.

What the prompt says outright stands behind what the rules say: a skin and a rule for spawning.
-/
theorem propose_unkept_broken :
    let broken : Store Unit := ⟨fun _ _ => none, fun _ _ _ => none⟩
    let service : Service := ⟨"model", fun _ => .late⟩
    let request : Request := ⟨.obj [], "pop slimes, add 3 every 2 s", ""⟩
    let proposal := ((Resolver.mk .default (some service) broken).propose request ⟨(), []⟩).1
    isDirectMode request.prompt ProposalSettings.default.directModeKeyword = false ∧
      proposal.patch = fallbackPatch request.doc request.prompt ++
        [put ["meta", "skin"] (.str "slime"),
          put ["rules", "spawn"] (SpawnRule.linear 3 2000).toJson] ∧
      proposal.source ≠ .service ∧
      .cacheUnavailable ∈ proposal.degradations ∧ .serviceTimeout ∈ proposal.degradations ∧
      .serviceError ∉ proposal.degradations := by
  intro broken service request proposal
  have indirect : isDirectMode request.prompt ProposalSettings.default.directModeKeyword = false := by
    decide
  obtain ⟨_, patch, source, _, _, _, _, failures⟩ :=
    (Resolver.mk .default (some service) broken).propose_unkept request ⟨(), []⟩ indirect nofun
  -- The service offered nothing, so the patch of the rules is the base.
  have outright : overrides request.prompt .sandbox =
      [put ["meta", "skin"] (.str "slime"),
        put ["rules", "spawn"] (SpawnRule.linear 3 2000).toJson] := by
    decide +kernel
  -- No template has a skin of its own, so what is said outright is the same for all of them.
  refine ⟨indirect, patch.trans (congrArg _ outright), ?_, (failures _).2 (.inl rfl),
    (failures _).2 rfl, ?_⟩
  · -- Nothing was offered, so the service is not the source.
    exact fun answered => source.1 answered rfl
  · -- A service that is late has not failed otherwise.
    intro noted
    obtain ⟨error, failed⟩ := (failures _).1 noted
    cases failed

end Resolver

end Minigame.Proposal
