import Minigame.Patch.Reading
import Minigame.Proposal.Basic
import Minigame.Proposal.Rules
import Minigame.Proposal.Service

/-!
The way from a prompt to a proposal.

A proposal always comes out: direct mode, then a kept proposal, then the service and then the rules
are tried, and whatever fails on the way is only noted.
-/

namespace Minigame.Proposal

/-- A place where proposals are kept; it may fail, and the contents say nothing then. -/
structure Store (σ : Type) where
  get : Digest → σ → Option (Option Patch)
  put : Digest → Patch → σ → Option σ

/-- The store in memory while nothing is forgotten. -/
def Store.memory : Store (List (Digest × Patch)) where
  -- The latest entry stands in front, so it is the one that is found.
  get key kept := some (kept.lookup key)
  put key patch kept := some ((key, patch) :: kept)

/-- The store in memory that forgets whatever it is given at once. -/
def Store.forgetful : Store (List (Digest × Patch)) where
  get _ _ := some none
  put _ _ _ := some []

/--
The store in memory that settings ask for.

Without room for a proposal or without time to keep one it keeps none. What else it keeps may be
forgotten at any time between two calls, when the room or the time is over.
-/
def Store.ofSettings (settings : ProposalSettings) : Store (List (Digest × Patch)) :=
  if settings.cacheCapacity = 0 ∨ settings.proposalTtlSecs = 0 then .forgetful else .memory

/-- What proposals are made with. -/
structure Resolver (σ : Type) where
  settings : ProposalSettings
  service : Option Service
  store : Store σ

/-- What proposals leave behind. -/
structure Memory (σ : Type) where
  kept : σ
  /-- The texts the service was sent, the latest first. -/
  sent : List String

/-- The patch in a reply, or what was wrong with the reply. -/
def Reply.patch : Reply → Except Degradation Patch
  | .late => .error .serviceTimeout
  | .failed _ => .error .serviceError
  | .text reply =>
    match Patch.ofText reply with
    | .ok patch => .ok patch
    | .error _ => .error .unparseableResponse

/-- What a service contributed to a proposal. -/
structure Contribution where
  patch : Patch
  degradations : List Degradation
  model : Option String
  deriving DecidableEq

/-- The contribution of a service that is not there. -/
def Contribution.absent : Contribution := ⟨[], [.serviceUnavailable], none⟩

/-- The contribution of a service with a reply. -/
def Contribution.ofReply (model : String) (reply : Reply) : Contribution :=
  match reply.patch with
  | .ok patch => ⟨patch, [], some model⟩
  | .error degradation => ⟨[], [degradation], some model⟩

/-- A patch and what the prompt says outright behind it. -/
def withOverrides (request : Request) (patch : Patch) : Patch :=
  -- The template is read behind the patch, since the patch may have chosen another one.
  patch ++ overrides request.prompt (Design.template (patch.apply request.doc))

/-- The patch of the rules alone. -/
def rulePatch (request : Request) : Patch :=
  withOverrides request (fallbackPatch request.doc request.prompt)

/-- The proposal from what a service contributed; without any operation of it the rules decide. -/
def settle (request : Request) (contribution : Contribution) : Proposal :=
  -- A reply without operations is a reply all the same; only its patch is not used.
  let fromService := !contribution.patch.isEmpty
  let patch :=
    if fromService then withOverrides request contribution.patch else rulePatch request
  { patch
    -- What the prompt says outright can fill an empty patch, so emptiness is asked of the whole.
    source := if patch.isEmpty then .empty else if fromService then .service else .fallback
    degradations := contribution.degradations
    model := contribution.model }

namespace Resolver

/-- A resolver that keeps its proposals in memory. -/
def inMemory (settings : ProposalSettings) (service : Option Service) :
    Resolver (List (Digest × Patch)) :=
  ⟨settings, service, .memory⟩

/-- Asks the service, if there is one. -/
def ask (resolver : Resolver σ) (request : Request) (sent : List String) :
    Contribution × List String :=
  match resolver.service with
  | none => (.absent, sent)
  | some service =>
    -- The service sees all that it was sent, so that it may answer the same text differently.
    let sent := payload request :: sent
    (.ofReply service.model (service.reply sent), sent)

/-- Keeps a proposal; a failure to do so is noted with it. -/
def keep (resolver : Resolver σ) (key : Digest) (proposal : Proposal) (kept : σ) : Proposal × σ :=
  match resolver.store.put key proposal.patch kept with
  | some kept => (proposal, kept)
  | none =>
    ({ proposal with degradations := proposal.degradations ++ [.cacheUnavailable] }, kept)

/-- Makes a proposal that is not kept yet; where reading failed nothing is written either. -/
def make (resolver : Resolver σ) (request : Request) (readable : Bool) (memory : Memory σ) :
    Proposal × Memory σ :=
  -- The service is asked before anything is kept, so a failure to keep costs no second question.
  let (contribution, sent) := resolver.ask request memory.sent
  let proposal := settle request contribution
  if readable then
    let (proposal, kept) := resolver.keep (request.key resolver.settings) proposal memory.kept
    (proposal, ⟨kept, sent⟩)
  else
    -- The failure to read is noted in front of what the service failed in.
    ({ proposal with degradations := .cacheUnavailable :: proposal.degradations },
     { memory with sent })

/-- The proposal for a request. -/
def propose (resolver : Resolver σ) (request : Request) (memory : Memory σ) :
    Proposal × Memory σ :=
  if isDirectMode request.prompt resolver.settings.directModeKeyword then
    -- Direct mode goes first and leaves no trace in the store.
    (⟨directModePatch request.prompt, .directMode, [], none⟩, memory)
  else
    -- From here on only the bounded summary counts, for the key as well as for the service.
    let request := request.bounded resolver.settings
    match resolver.store.get (request.key resolver.settings) memory.kept with
    | some (some patch) => (⟨patch, .cache, [], none⟩, memory)
    | some none => resolver.make request true memory
    | none => resolver.make request false memory

end Resolver

end Minigame.Proposal
