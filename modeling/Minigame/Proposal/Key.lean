import Minigame.Digest
import Minigame.Design.View
import Minigame.Proposal.Settings
import Minigame.Text.Cut

/-! The keys that proposals are kept under. -/

namespace Minigame.Proposal

open Minigame.Text

/-- What a proposal is asked for: a change of a document after a conversation. -/
structure Request where
  doc : Json
  prompt : String
  summary : String
  deriving DecidableEq

namespace Request

/-- The request with no more of its summary than the settings allow. -/
def bounded (settings : ProposalSettings) (request : Request) : Request :=
  { request with summary := truncate settings.summaryChars request.summary }

/-- The parts of a request that its key depends on. -/
def keyParts (settings : ProposalSettings) (request : Request) : List (List UInt8) :=
  -- The document counts by its projection, so what the rules and services do not see leaves the
  -- key.
  [(Digest.ofJson (Design.projection request.doc)).bytes,
   utf8 (truncate settings.promptKeyChars request.prompt),
   utf8 (truncate settings.summaryKeyChars request.summary)]

/-- The key of a request. -/
def key (settings : ProposalSettings) (request : Request) : Digest :=
  Digest.ofParts (request.keyParts settings)

end Request

/-- The text of a key. -/
def keyText (key : Digest) : String :=
  "proposal:" ++ key.short

end Minigame.Proposal
