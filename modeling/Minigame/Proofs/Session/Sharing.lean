import Minigame.Proofs.Proposal.Forgetting
import Minigame.Proofs.Proposal.Transparency
import Minigame.Proofs.Session.Documents
import Minigame.Proofs.Session.Interleaving

/-!
The proposals that games share, where there is no service.

Without a service the rules decide. What a key tells of a request is all that they look at, except
for the display, and this is there only in games of survival, where they do not look at it. So a
proposal that was kept for another game is the one that would have been made for this one, and it
does not matter whether it is still kept or already forgotten.
-/

namespace Minigame

open Minigame.Text Minigame.Proposal

namespace Proposal

/-- What a request is given without a service by a resolver that keeps nothing. -/
def ownPatch (settings : ProposalSettings) (request : Request) : Patch :=
  if isDirectMode request.prompt settings.directModeKeyword then directModePatch request.prompt
  else rulePatch request

/-- The rules say the same to one prompt about two seeded documents with one projection. -/
theorem rulePatch_eq_of_seeded {request other : Request}
    (docs : Design.projection request.doc = Design.projection other.doc)
    (prompt : request.prompt = other.prompt) (seeded : Seeded request.doc)
    (other_seeded : Seeded other.doc) : rulePatch request = rulePatch other := by
  refine (rulePatch_eq_iff docs prompt).2 fun turning => ?_
  -- A game that is still to be made one of survival has no display, and both are such games.
  have other_template : Design.template other.doc ≠ .bubbleClicker := by
    simpa using (Bool.and_eq_true_iff.1 turning).2
  have template : Design.template request.doc ≠ .bubbleClicker := by
    rwa [Design.template_eq docs]
  have hidden : showsHud request.doc = false :=
    Bool.eq_false_iff.2 fun shown => template (seeded.display shown)
  have other_hidden : showsHud other.doc = false :=
    Bool.eq_false_iff.2 fun shown => other_template (other_seeded.display shown)
  rw [hidden, other_hidden]

/-- The rules say the same to requests with one key, if the documents of both are seeded. -/
theorem rulePatch_eq_of_key {settings : ProposalSettings} {requests : List Request}
    (short : ∀ request ∈ requests, request.prompt.length ≤ settings.promptKeyChars)
    (apart : KeysApart settings requests) {request other : Request} (listed : request ∈ requests)
    (other_listed : other ∈ requests) {key : Digest} (used : request.usedKey? settings = some key)
    (other_used : other.usedKey? settings = some key) (seeded : Seeded request.doc)
    (other_seeded : Seeded other.doc) : rulePatch request = rulePatch other := by
  have agree := apart _ listed _ other_listed key used other_used
  -- Requests with one key are told apart by nothing that goes into it.
  obtain ⟨docs, cut, _⟩ : _ ∧ _ ∧ _ := by simpa [Request.keyInput, Request.bounded] using agree
  -- Short prompts go into their keys as a whole.
  have prompt : request.prompt = other.prompt := by
    rwa [truncate_of_length_le (short _ listed), truncate_of_length_le (short _ other_listed)]
      at cut
  exact rulePatch_eq_of_seeded docs prompt seeded other_seeded

namespace Memory

variable {σ : Type} {contents : σ → Contents} {settings : ProposalSettings}
  {requests : List Request} {memory after : Memory σ}

/-- Each proposal that is kept is what the rules say to some request. -/
def Ruled (contents : σ → Contents) (memory : Memory σ) : Prop :=
  ∀ key patch, contents memory.kept key = some patch → ∃ request, patch = rulePatch request

/-- Each proposal that is kept is what the rules say to one of some requests, under its key. -/
def RuledBy (contents : σ → Contents) (settings : ProposalSettings) (requests : List Request)
    (memory : Memory σ) : Prop :=
  ∀ key patch, contents memory.kept key = some patch →
    ∃ request ∈ requests, request.usedKey? settings = some key ∧ patch = rulePatch request

/-- A memory with nothing in it is ruled by whatever requests there are. -/
theorem RuledBy.of_empty (empty : ∀ key, contents memory.kept key = none) :
    memory.RuledBy contents settings requests :=
  fun key _ there => by cases (empty key).symm.trans there

variable (kept : memory.RuledBy contents settings requests)
include kept

theorem RuledBy.ruled : memory.Ruled contents := by
  intro key patch there
  obtain ⟨request, _, _, same⟩ := kept key patch there
  exact ⟨request, same⟩

theorem RuledBy.mono {others : List Request} (among : ∀ request ∈ requests, request ∈ others) :
    memory.RuledBy contents settings others := by
  intro key patch there
  obtain ⟨request, listed, used, same⟩ := kept key patch there
  exact ⟨request, among request listed, used, same⟩

/-- What is forgotten takes nothing away from what is said of the rest. -/
theorem RuledBy.lapse (lapsed : (contents memory.kept).Lapses (contents after.kept)) :
    after.RuledBy contents settings requests :=
  fun key patch there => kept key patch (lapsed.of_some there)

end Memory

namespace Resolver

variable {σ : Type} (resolver : Resolver σ) {contents : σ → Contents} {requests : List Request}
  {request : Request} {memory : Memory σ}

/-- What is settled without a service is what the rules say. -/
theorem settle_unserved (unserved : resolver.service = none) (request : Request)
    (sent : List String) :
    (settle (request.bounded resolver.settings)
      (resolver.ask (request.bounded resolver.settings) sent).1).patch = rulePatch request := by
  -- There is nobody to ask, so the answer is none.
  rw [ask, unserved]
  rfl

variable (lossy : resolver.store.Lossy contents) (unserved : resolver.service = none)
include lossy unserved

/-- Without a service only what the rules say is ever kept. -/
theorem propose_ruled (kept : memory.Ruled contents) :
    (∀ key, request.usedKey? resolver.settings = some key →
      ∃ other, (resolver.propose request memory).1.patch = rulePatch other) ∧
    (resolver.propose request memory).2.Ruled contents :=
  resolver.patch_propose lossy kept fun _ _ =>
    ⟨request, resolver.settle_unserved unserved request memory.sent⟩

/-- A request with a key is given what the rules say to some request with the key, maybe itself. -/
theorem propose_ruledBy (kept : memory.RuledBy contents resolver.settings requests)
    (listed : request ∈ requests) :
    (∀ key, request.usedKey? resolver.settings = some key →
      ∃ other ∈ requests, other.usedKey? resolver.settings = some key ∧
        (resolver.propose request memory).1.patch = rulePatch other) ∧
    (resolver.propose request memory).2.RuledBy contents resolver.settings requests :=
  resolver.patch_propose lossy kept fun _ used =>
    ⟨request, listed, used, resolver.settle_unserved unserved request memory.sent⟩

/-- A request from a seeded document is given its own patch, whatever is kept for others. -/
theorem propose_own
    (short : ∀ request ∈ requests, request.prompt.length ≤ resolver.settings.promptKeyChars)
    (apart : KeysApart resolver.settings requests)
    (seeded : ∀ request ∈ requests, Seeded request.doc)
    (kept : memory.RuledBy contents resolver.settings requests) (listed : request ∈ requests) :
    (resolver.propose request memory).1.patch = ownPatch resolver.settings request := by
  unfold ownPatch
  by_cases direct : isDirectMode request.prompt resolver.settings.directModeKeyword = true
  · rw [if_pos direct, propose_direct resolver request memory direct]
  · -- The patch may have been kept for another request with the same key.
    rw [if_neg direct]
    have used := Request.usedKey?_of_indirect (Bool.eq_false_iff.2 direct)
    obtain ⟨other, other_listed, other_used, patch⟩ :=
      (resolver.propose_ruledBy lossy unserved kept listed).1 _ used
    rw [patch]
    exact rulePatch_eq_of_key short apart other_listed listed other_used used
      (seeded other other_listed) (seeded request listed)

end Resolver

end Proposal

/-- A record whose document is seeded, and would be if its next turn gave it one. -/
def GameRecord.Seeded (record : GameRecord) : Prop :=
  ∀ prompt, Minigame.Seeded (record.current prompt)

/-- A call that has read a seeded document asks for a proposal for it. -/
theorem Pending.request_seeded {pending : Pending} {request : Request}
    (seeded : pending.record.Seeded) (wanted : pending.request? = some request) :
    Seeded request.doc := by
  -- Only a turn asks for a proposal, and it asks for the document that the record gives it.
  unfold Pending.request? at wanted
  split at wanted
  · cases wanted
    exact seeded _
  · cases wanted
  · cases wanted

namespace Studio

section

variable {κ : Type} (studio : Studio κ Records)

/-- The proposal that a change goes on to ask for, if it passes its checks now. -/
def requested? (underway : Underway κ) : SessionEvent κ → Option Request
  | .read user id change =>
    (studio.start user id underway.state change).toOption.bind Pending.request?
  | .create .. => none
  | .write .. => none
  | .stir .. => none

/-- The proposals that the changes of a run ask for. -/
def requests : List (SessionEvent κ) → Underway κ → List Request
  | [], _ => []
  | event :: rest, underway =>
    (studio.requested? underway event).toList ++ requests rest (studio.step underway event)

end

section

variable {κ : Type} {studio : Studio κ Records} {contents : κ → Contents}
  {underway : Underway κ} {events : List (SessionEvent κ)} {requests : List Request}

/-- What the first event asks for is asked for in the run. -/
theorem mem_requests_head {event : SessionEvent κ}
    (listed : ∀ request ∈ studio.requests (event :: events) underway, request ∈ requests) :
    ∀ request, studio.requested? underway event = some request → request ∈ requests :=
  fun request wanted => listed request (by simp [Studio.requests, wanted])

/-- What the events behind the first one ask for is asked for in the run. -/
theorem mem_requests_tail {event : SessionEvent κ}
    (listed : ∀ request ∈ studio.requests (event :: events) underway, request ∈ requests) :
    ∀ request ∈ studio.requests events (studio.step underway event), request ∈ requests :=
  fun request later => listed request (List.mem_append_right _ later)

variable (inMemory : studio.records = .memory) (lossy : studio.proposals.Lossy contents)
  (unserved : studio.service = none)

include lossy unserved in
/-- Without a service new records are seeded, and whoever has read a seeded one writes one. -/
theorem keeps_seeded : studio.Keeps GameRecord.Seeded (Memory.Ruled contents) where
  -- Games start from the seed, and only a turn changes their document.
  draft _ _ _ _ := Seeded.starter
  written now memory pending kept _ seeded := by
    obtain ⟨id, record, work⟩ := pending
    have seeded : record.Seeded := seeded
    cases work with
    -- The document after the turn is seeded, whatever is made of it later.
    | turn compiles prompt =>
      intro next
      refine record.next_seeded (seeded prompt) compiles ?_
      -- In direct mode the prompt is kept as it is, and otherwise the rules have decided.
      by_cases direct : isDirectMode prompt studio.settings.proposals.directModeKeyword = true
      · have own := studio.resolver.propose_direct (record.request prompt) memory direct
        exact .inl (congrArg (·.1.patch) own)
      · have used : (record.request prompt).usedKey? studio.settings.proposals = _ :=
          Request.usedKey?_of_indirect (Bool.eq_false_iff.2 direct)
        exact .inr ((studio.resolver.propose_ruled lossy unserved kept).1 _ used)
    | compile => exact seeded
    | publish title description html => exact seeded
  remembered memory pending kept _ _ := by
    -- What is asked for is kept as the rules say it.
    unfold remembered
    split
    · exact (studio.resolver.propose_ruled lossy unserved kept).2
    · exact kept

include inMemory lossy unserved in
/-- All proposals that a run asks for are asked for seeded documents. -/
theorem requests_seeded (holds : underway.Holds GameRecord.Seeded (Memory.Ruled contents))
    (stirs : ∀ event ∈ events, event.Stirs (Memory.Ruled contents)) :
    ∀ request ∈ studio.requests events underway, Seeded request.doc := by
  induction events generalizing underway with
  | nil => exact fun _ listed => by cases listed
  | cons event events ih =>
    rw [List.forall_mem_cons] at stirs
    have next := holds.step inMemory (keeps_seeded lossy unserved) stirs.1
    intro request listed
    rcases List.mem_append.1 listed with now | later
    · -- A change asks for a proposal for the document that it has just read.
      cases event with
      | read user id change =>
        rw [requested?, Option.mem_toList] at now
        cases started : studio.start user id underway.state change with
        | error error => simp [started, Except.toOption] at now
        | ok pending =>
          rw [started] at now
          obtain ⟨_, there, _⟩ := start_ok inMemory started
          exact Pending.request_seeded (holds.stored _ _ there).2 now
      | create | write | stir => cases now
    · -- The rest of the run starts from a state in which the records are seeded.
      exact ih next stirs.2 request later

end

end Studio

/-- Whether an event is about no game. -/
def SessionEvent.isStir {κ : Type} : SessionEvent κ → Bool
  | .create .. => false
  | .read .. => false
  | .write .. => false
  | .stir .. => true

/-- Forgetting, and keeping what the rules say to some requests, is all that happens to proposals. -/
theorem SessionEvent.Stirs.ruled {κ : Type} {contents : κ → Contents}
    {settings : ProposalSettings} {requests : List Request} {event : SessionEvent κ}
    (stirs : event.Stirs (Memory.RuledBy contents settings requests)) :
    event.Stirs (Memory.Ruled contents) := by
  cases event with
  | stir proposals pages => exact Memory.RuledBy.ruled stirs
  | create | read | write => trivial

/--
What holds of sessions without a service whose calls ask for nothing but some requests.

Records are seeded and lie under their identifiers, and the rules have made what is kept.
-/
structure Underway.Settled {κ : Type} (contents : κ → Contents) (settings : ProposalSettings)
    (requests : List Request) (underway : Underway κ) : Prop where
  holds : underway.Holds GameRecord.Seeded (Memory.Ruled contents)
  asked : ∀ pending ∈ underway.pending, ∀ request, pending.request? = some request →
    request ∈ requests
  kept : underway.state.proposals.RuledBy contents settings requests

namespace Underway.Settled

variable {κ : Type} {contents : κ → Contents} {requests : List Request}

/-- Before the first call nothing is under way, and nothing is kept. -/
theorem fresh (settings : ProposalSettings) (requests : List Request) {proposals : Memory κ}
    (empty : ∀ key, contents proposals.kept key = none) :
    (Underway.fresh proposals).Settled contents settings requests where
  holds := .fresh fun key _ there => by cases (empty key).symm.trans there
  asked _ listed := by cases listed
  kept := .of_empty empty

variable {studio : Studio κ Records} {underway : Underway κ}
  (settled : underway.Settled contents studio.settings.proposals requests)
  (inMemory : studio.records = .memory) (lossy : studio.proposals.Lossy contents)
  (unserved : studio.service = none)
include settled inMemory lossy unserved

/-- An event leaves settled sessions, if it asks for nothing but the requests. -/
theorem step {event : SessionEvent κ}
    (stirs : event.Stirs (Memory.RuledBy contents studio.settings.proposals requests))
    (listed : ∀ request, studio.requested? underway event = some request → request ∈ requests) :
    (studio.step underway event).Settled contents studio.settings.proposals requests := by
  have holds := settled.holds.step inMemory (Studio.keeps_seeded lossy unserved) stirs.ruled
  cases event with
  | create user creatorName id now =>
    cases taken : underway.state.records.get? id with
    -- Nothing is written under an identifier that is taken.
    | some record => rwa [Studio.step_taken inMemory taken]
    | none =>
      -- To make a game is to write its draft, and no proposal is looked at.
      refine ⟨holds, settled.asked, ?_⟩
      rw [Studio.step_free inMemory taken]
      exact settled.kept
  | read user id change =>
    cases started : studio.start user id underway.state change with
    -- A change that is refused joins nothing.
    | error error => rwa [Studio.step_refused started]
    | ok pending =>
      -- What a change that joins the others will ask for is what the event asks for.
      have wanted : studio.requested? underway (.read user id change) = pending.request? := by
        rw [Studio.requested?, started]
        rfl
      rw [Studio.step_started started] at holds ⊢
      refine ⟨holds, fun other there request asks => ?_, settled.kept⟩
      rcases List.mem_append.1 there with earlier | last
      · exact settled.asked other earlier request asks
      · cases List.mem_singleton.1 last
        exact listed request (wanted.trans asks)
  | write place now =>
    cases there : underway.pending[place]? with
    -- Without a call at this place nothing is written.
    | none => rwa [Studio.step_absent there]
    | some pending =>
      obtain ⟨pages, next⟩ := Studio.step_write inMemory there now
      rw [next] at holds ⊢
      refine ⟨holds, fun other left => settled.asked other (List.mem_of_mem_eraseIdx left), ?_⟩
      -- What is kept now was kept before, or the rules have said it to the call that writes.
      simp only [Studio.remembered]
      cases asks : pending.request? with
      | none => exact settled.kept
      | some request =>
        have asked := settled.asked pending (List.mem_of_getElem? there) request asks
        exact (studio.resolver.propose_ruledBy lossy unserved settled.kept asked).2
  | stir proposals pages => exact ⟨holds, settled.asked, stirs⟩

/-- A run leaves settled sessions, if it asks for nothing but the requests. -/
theorem run {events : List (SessionEvent κ)}
    (stirs : ∀ event ∈ events,
      event.Stirs (Memory.RuledBy contents studio.settings.proposals requests))
    (listed : ∀ request ∈ studio.requests events underway, request ∈ requests) :
    (studio.run events underway).Settled contents studio.settings.proposals requests := by
  induction events generalizing underway with
  | nil => exact settled
  | cons event events ih =>
    rw [List.forall_mem_cons] at stirs
    -- What the first event asks for is one of the requests, and so is what the others ask for.
    have next := settled.step inMemory lossy unserved stirs.1 (Studio.mem_requests_head listed)
    exact ih next stirs.2 (Studio.mem_requests_tail listed)

/-- While proposals are only kept and forgotten, the sessions stay settled. -/
theorem wait {waits : List (SessionEvent κ)} (idle : ∀ event ∈ waits, event.isStir = true)
    (stirs : ∀ event ∈ waits,
      event.Stirs (Memory.RuledBy contents studio.settings.proposals requests)) :
    (studio.run waits underway).Settled contents studio.settings.proposals requests := by
  refine settled.run inMemory lossy unserved stirs ?_
  -- An event that is about no game asks for nothing.
  clear stirs settled
  induction waits generalizing underway with
  | nil => exact fun _ listed => by cases listed
  | cons event rest ih =>
    rw [List.forall_mem_cons] at idle
    cases event with
    | create | read | write => cases idle.1
    | stir proposals pages => exact ih idle.2

end Underway.Settled

end Minigame
