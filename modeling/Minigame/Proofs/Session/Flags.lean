import Minigame.Proofs.Session.Documents
import Minigame.Proofs.Session.Interleaving

/-!
The flag that the outcome of a turn carries for direct mode.

It is read from the document, where a turn in direct mode sets it and nothing takes it away. So it
tells of all turns of the game so far, and not of the one that it is given out with.
-/

namespace Minigame

open Minigame.Text Minigame.Proposal

/-- Where a document says that it was written in direct mode. -/
def flagPlace : List String := ["meta", "direct_mode"]

/-- The flag is what is read at one place. -/
theorem Design.directMode_congr {doc other : Json} (same : doc.at? flagPlace = other.at? flagPlace) :
    Design.directMode doc = Design.directMode other := by
  -- What the pointer reads is the part that the place leads to.
  have read : doc.pointer? "/meta/direct_mode" = other.pointer? "/meta/direct_mode" :=
    Json.pointer?_congr same
  rw [Design.directMode, Design.directMode, Json.boolAt?, Json.boolAt?, read]

theorem Design.directMode_of_flag {doc : Json} (there : doc.at? flagPlace = some (.bool true)) :
    Design.directMode doc = true := by
  have read : doc.pointer? "/meta/direct_mode" = some (.bool true) :=
    (Json.pointer?_text ⟨flagPlace⟩ doc).trans there
  rw [Design.directMode, Json.boolAt?, read]
  rfl

theorem Design.directMode_starter (prompt : String) :
    Design.directMode (Design.starter prompt) = false := rfl

/-- A patch leaves the flag of direct mode alone. -/
def Patch.SparesFlag (patch : Patch) : Prop :=
  ∀ operation ∈ patch, operation.Apart flagPlace

namespace Proposal

/-- A service never offers an operation that works at the flag, above it or below it. -/
def Service.SparesFlag (service : Service) : Prop :=
  ∀ sent, Patch.SparesFlag (offered (some (service.reply sent)))

/-- Every proposal that is kept leaves the flag alone. -/
def Memory.SparesFlag (memory : Memory (List (Digest × Patch))) : Prop :=
  ∀ key patch, memory.kept.lookup key = some patch → Patch.SparesFlag patch

theorem overrides_sparesFlag (prompt : String) (template : Template) :
    Patch.SparesFlag (overrides prompt template) := by
  -- The two places that a prompt can speak of outright lie apart from the flag.
  have spots : ∀ spot ∈ [["meta", "skin"], ["rules", "spawn"]],
      ¬ spot <+: flagPlace ∧ ¬ flagPlace <+: spot := by decide
  exact fun operation listed => spots _ (mem_overrides listed)

theorem rulePatch_sparesFlag (request : Request) : Patch.SparesFlag (rulePatch request) := by
  -- The rules write at the template and at four places of the rules, which lie apart from it too.
  have spots : ∀ spot ∈ ["meta", "template"] :: ruleSpots,
      ¬ spot <+: flagPlace ∧ ¬ flagPlace <+: spot := by decide
  exact fun operation listed => spots _ (mem_rulePatch listed)

/-- Whatever is settled leaves the flag alone, if the contribution does. -/
theorem settle_sparesFlag (request : Request) {contribution : Contribution}
    (spares : Patch.SparesFlag contribution.patch) :
    Patch.SparesFlag (settle request contribution).patch := by
  -- Either the rules decide alone, or what the prompt says outright follows what was offered.
  rw [settle_patch]
  split
  · exact rulePatch_sparesFlag request
  · intro operation listed
    rcases List.mem_append.1 listed with offered | outright
    · exact spares operation offered
    · exact overrides_sparesFlag _ _ operation outright

namespace Resolver

variable {settings : ProposalSettings} {service : Option Service}
  (spares : ∀ asked ∈ service, asked.SparesFlag) (request : Request)
  {memory : Memory (List (Digest × Patch))} (kept : memory.SparesFlag)
include spares kept

/--
A proposal comes from direct mode exactly if its prompt asks for it.

It then sets the flag; every other proposal leaves the flag alone, and so do those that are kept.
-/
theorem propose_flag :
    let made := (inMemory settings service).propose request memory
    (made.1.source = .directMode ↔
      isDirectMode request.prompt settings.directModeKeyword = true) ∧
    (isDirectMode request.prompt settings.directModeKeyword = true →
      made.1.patch = directModePatch request.prompt) ∧
    (isDirectMode request.prompt settings.directModeKeyword = false →
      made.1.patch.SparesFlag) ∧
    made.2.SparesFlag := by
  intro made
  -- What a service contributes leaves the flag alone, and without a service there is nothing.
  have contributed : Patch.SparesFlag
      ((inMemory settings service).ask (request.bounded settings) memory.sent).1.patch := by
    rw [(ask_contribution ..).1, reply?]
    -- Nothing is offered by nobody.
    cases asked : service with
    | none => exact fun operation listed => by cases listed
    | some other => exact spares other asked _
  -- What was made under a key and kept leaves the flag alone.
  have settled (key : Digest) (_ : request.usedKey? settings = some key) :=
    settle_sparesFlag (request.bounded settings) contributed
  obtain ⟨own, all⟩ :=
    (inMemory settings service).patch_propose Store.memory_lossy kept settled
  refine ⟨?_, fun direct => ?_, fun indirect => ?_, all⟩
  · -- A prompt for direct mode uses no key; with a key the source is another one.
    rcases propose_inMemory settings service request memory with
      ⟨unused, answer⟩ | ⟨key, _, used, _, answer⟩ | ⟨key, used, _, answer⟩
    · simpa [made, answer, Request.usedKey?] using unused
    all_goals
      -- A prompt for direct mode would have used no key.
      have indirect : isDirectMode request.prompt settings.directModeKeyword = false := by
        by_contra direct
        simp [Request.usedKey?, direct] at used
    · simp [made, answer, indirect]
    · simp [made, answer, indirect, (settle_source_ne _ _).1]
  · simp only [made, propose_direct (inMemory settings service) request memory direct]
  · exact own _ (Request.usedKey?_of_indirect indirect)

end Resolver

end Proposal

namespace GameRecord

/-- Whether a turn of a game's conversation asked for direct mode. -/
def AskedDirect (keyword : String) (history : List Turn) : Prop :=
  ∃ turn ∈ history, isDirectMode turn.content keyword = true

/-- A game's document has a mapping for the flag, and the flag tells of the whole conversation. -/
structure FlagTold (keyword : String) (record : GameRecord) : Prop where
  mapping : ∀ prompt, (record.current prompt).HasSection "meta"
  flag : ∀ prompt, Design.directMode (record.current prompt) = true ↔
    AskedDirect keyword record.history

section

variable (record : GameRecord) (summaryChars : Nat) (pages : Page.Registry) (prompt : String)
  (compiles : Bool) (model : String) (now : Timestamp) (proposal : Proposal)

@[simp] theorem afterTurn_history :
    (record.afterTurn summaryChars pages prompt compiles model now proposal).2.history =
      record.history ++ [⟨.user, prompt⟩] := rfl

@[simp] theorem afterTurn_source :
    (record.afterTurn summaryChars pages prompt compiles model now proposal).2.source =
      proposal.source := rfl

/-- The flag that a turn gives out is that of the document that it leaves. -/
@[simp] theorem afterTurn_directMode :
    (record.afterTurn summaryChars pages prompt compiles model now proposal).2.directMode =
      Design.directMode (record.next prompt compiles proposal.patch).1 := rfl

end

namespace FlagTold

variable {keyword : String} {record : GameRecord}

/-- A new game has no conversation and no flag. -/
theorem draft (id : GameId) (user : String) (creatorName : Option String) (now : Timestamp)
    (autoDeleteHours : Int) :
    (GameRecord.draft id user creatorName now autoDeleteHours).FlagTold keyword where
  mapping := Design.starter_hasSection
  flag prompt := by
    -- There are no turns, and the starting document has no flag.
    have unset := Design.directMode_starter prompt
    simp [GameRecord.draft, current, unset, AskedDirect]

variable (told : record.FlagTold keyword) {prompt : String} (compiles : Bool) {patch : Patch}
  (direct : isDirectMode prompt keyword = true → patch = directModePatch prompt)
  (indirect : isDirectMode prompt keyword = false → patch.SparesFlag)
include told direct indirect

/-- After a turn the flag is there if the turn asked for direct mode or an earlier one did. -/
theorem next :
    let doc := (record.next prompt compiles patch).1
    doc.HasSection "meta" ∧
    (Design.directMode doc = true ↔
      isDirectMode prompt keyword = true ∨ AskedDirect keyword record.history) := by
  have has := told.mapping prompt
  -- The patch of the turn decides, since the flag is not touched where bubbles are brought in.
  have patched : (patch.apply (record.current prompt)).HasSection "meta" ∧
      (Design.directMode (patch.apply (record.current prompt)) = true ↔
        isDirectMode prompt keyword = true ∨ AskedDirect keyword record.history) := by
    cases asked : isDirectMode prompt keyword with
    | true =>
      -- A direct turn sets the flag.
      rw [direct asked]
      have flag := Design.directMode_of_flag (at?_directModePatch has prompt)
      exact ⟨directModePatch_hasSection has prompt, by simp [flag]⟩
    | false =>
      -- The flag is as it was, and an operation at the whole section would have been above it.
      have spares := indirect asked
      have same := Design.directMode_congr (Patch.at?_apply has spares (by decide))
      refine ⟨Patch.hasSection_apply has fun operation listed whole => ?_, ?_⟩
      · exact (spares operation listed).1 (by rw [whole]; decide)
      · rw [same, told.flag prompt]
        simp
  rw [next_fst]
  cases compiles with
  | false => exact patched
  | true =>
    -- What is brought in for bubbles lies elsewhere.
    have kept : (ensureBubbles prompt _).at? flagPlace = _ :=
      at?_ensureBubbles patched.1 prompt (by decide) (by decide)
    have same := Design.directMode_congr kept
    exact ⟨ensureBubbles_hasSection patched.1 prompt, by rw [if_pos rfl, same]; exact patched.2⟩

/-- After a turn the flag tells of the conversation with that turn. -/
theorem afterTurn (summaryChars : Nat) (pages : Page.Registry) (model : String) (now : Timestamp)
    {proposal : Proposal} (same : proposal.patch = patch) :
    (record.afterTurn summaryChars pages prompt compiles model now proposal).1.FlagTold keyword := by
  subst same
  obtain ⟨has, flag⟩ := told.next compiles direct indirect
  refine ⟨fun _ => has, fun _ => flag.trans ?_⟩
  -- The turn joins the conversation, so it is one of those that are asked about.
  simp [AskedDirect, GameRecord.afterTurn, or_and_right, exists_or, or_comm]

end FlagTold

end GameRecord

namespace Studio

section

variable {settings : SessionSettings} {service : Option Service}
  (spares : ∀ asked ∈ service, asked.SparesFlag)
include spares

/-- Whatever a call has read, it writes a record whose flag tells of its conversation. -/
theorem keeps_flag :
    (Studio.inMemory settings service).Keeps
      (GameRecord.FlagTold settings.proposals.directModeKeyword) Memory.SparesFlag where
  draft id user creatorName now := .draft id user creatorName now settings.autoDeleteHours
  written now memory pending kept _ told := by
    -- Only a turn touches the document and the conversation; the other calls keep both.
    obtain ⟨id, record, work⟩ := pending
    cases work with
    | turn compiles prompt =>
      obtain ⟨_, direct, indirect, _⟩ := Resolver.propose_flag spares (record.request prompt) kept
      exact told.afterTurn compiles direct indirect _ _ _ now rfl
    | compile => exact ⟨told.mapping, told.flag⟩
    | publish title description html => exact ⟨told.mapping, told.flag⟩
  remembered memory pending kept _ _ := by
    unfold remembered
    cases pending.request? with
    | none => exact kept
    | some request => exact (Resolver.propose_flag spares request kept).2.2.2

end

/-- A turn that succeeds gives out what it has made of the record of its game. -/
theorem turn_ok {κ : Type} {studio : Studio κ Records} (inMemory : studio.records = .memory)
    {compiles : Bool} {user : String} {id : GameId} {prompt : String} {now : Timestamp}
    {state after : StudioState κ Records} {outcome : TurnOutcome}
    (answered : studio.turn compiles user id prompt now state = (.ok outcome, after)) :
    ∃ record, state.records.get? id = some record ∧
      let proposal := (studio.resolver.propose (record.request (trim prompt)) state.proposals).1
      outcome = (record.afterTurn studio.settings.summaryChars studio.templates (trim prompt)
        compiles (studio.modelName proposal) now proposal).2 := by
  unfold turn at answered
  -- The two refusals come before the game is read.
  by_cases blank : trim prompt = ""
  · simp only [blank, if_true] at answered
    cases answered
  · simp only [blank, if_false] at answered
    cases found : studio.find user id state with
    | error error =>
      simp only [found] at answered
      cases answered
    | ok record =>
      simp only [found, save, inMemory, RecordStore.memory] at answered
      -- What is given out is made of the record that was found.
      exact ⟨record, (find_ok inMemory found).1, (Except.ok.inj (Prod.mk.inj answered).1).symm⟩

/--
The flag of an outcome tells whether any turn of the game so far asked for direct mode.

So it is after any calls that may have overlapped, where no operation of a service works at the flag.
The source of the outcome alone tells of the turn itself.
-/
theorem turn_flag {settings : SessionSettings} {service : Option Service}
    (spares : ∀ asked ∈ service, asked.SparesFlag)
    {events : List (SessionEvent (List (Digest × Patch)))}
    (stirs : ∀ event ∈ events, event.Stirs Memory.SparesFlag) {compiles : Bool} {user : String}
    {id : GameId} {prompt : String} {now : Timestamp} {outcome : TurnOutcome}
    {after : StudioState (List (Digest × Patch)) Records}
    (answered : (Studio.inMemory settings service).turn compiles user id prompt now
      ((Studio.inMemory settings service).run events (.fresh .fresh)).state = (.ok outcome, after)) :
    let keyword := settings.proposals.directModeKeyword
    (outcome.source = .directMode ↔ isDirectMode (trim prompt) keyword = true) ∧
    ∃ earlier, outcome.history = earlier ++ [⟨.user, trim prompt⟩] ∧
      (outcome.directMode = true ↔
        outcome.source = .directMode ∨ GameRecord.AskedDirect keyword earlier) := by
  intro keyword
  -- The invariant holds of the record that the turn reads and of the proposals that are kept.
  have fresh : Memory.fresh.SparesFlag := fun key patch there => by cases there
  have keeps : (Studio.inMemory settings service).Keeps (GameRecord.FlagTold keyword)
      Memory.SparesFlag := keeps_flag spares
  have holds := Underway.Holds.reached rfl keeps fresh stirs
  obtain ⟨record, there, rfl⟩ := turn_ok rfl answered
  obtain ⟨source, direct, indirect, _⟩ :=
    Resolver.propose_flag spares (record.request (trim prompt)) holds.proposals
  obtain ⟨_, flag⟩ := (holds.stored id record there).2.next compiles direct indirect
  simp only [GameRecord.afterTurn_directMode, GameRecord.afterTurn_source,
    GameRecord.afterTurn_history]
  exact ⟨source, record.history, rfl, flag.trans (or_congr_left source.symm)⟩

/-- A turn in direct mode after one that a service was asked for sets the flag. -/
theorem turn_flag_direct :
    let service : Service := ⟨"mock", fun _ => .text "[[\"remove\", \"/notes\"]]"⟩
    let studio := Studio.inMemory .default (some service)
    let events : List (SessionEvent _) :=
      [.create "ann" none ⟨1⟩ ⟨0, 0⟩, .read "ann" ⟨1⟩ (.turn true "a maze"), .write 0 ⟨1, 0⟩]
    ∃ outcome after, studio.turn true "ann" ⟨1⟩ "direct: a door" ⟨2, 0⟩
        (studio.run events (.fresh .fresh)).state = (.ok outcome, after) ∧
      outcome.source = .directMode ∧ outcome.directMode = true := by
  intro service studio events
  -- The service removes the notes, which hold no flag.
  have spares : ∀ asked ∈ some service, asked.SparesFlag := by
    rintro asked ⟨⟩ sent
    show ∀ operation ∈ offered (some (.text "[[\"remove\", \"/notes\"]]")), operation.Apart flagPlace
    decide +kernel
  have stirs : ∀ event ∈ events, event.Stirs Memory.SparesFlag := by
    simp [events, SessionEvent.Stirs]
  -- The turn succeeds; what it gives out need not be computed for that.
  obtain ⟨outcome, after, answered⟩ : ∃ outcome after,
      studio.turn true "ann" ⟨1⟩ "direct: a door" ⟨2, 0⟩
        (studio.run events (.fresh .fresh)).state = (.ok outcome, after) := ⟨_, _, rfl⟩
  obtain ⟨source, _, _, flag⟩ := turn_flag spares stirs answered
  have direct := source.2 (by decide)
  exact ⟨outcome, after, answered, direct, flag.2 (.inl direct)⟩

/--
The flag of an outcome may be set although the turn did not ask for direct mode.

The turn before it did, and the flag is read from the document that has kept it.
-/
theorem turn_flag_stale :
    let studio := Studio.inMemory .default none
    let made := (studio.create "ann" none ⟨1⟩ ⟨0, 0⟩ (.fresh .fresh)).2
    let direct := (studio.generate "ann" ⟨1⟩ "direct: a maze" ⟨1, 0⟩ made).2
    ∃ outcome after,
      studio.generate "ann" ⟨1⟩ "a maze with a door" ⟨2, 0⟩ direct = (.ok outcome, after) ∧
        outcome.directMode = true ∧ outcome.source ≠ .directMode := by
  intro studio made direct
  refine ⟨_, _, rfl, ?_, ?_⟩
  · decide +kernel
  · decide +kernel

end Studio

end Minigame
