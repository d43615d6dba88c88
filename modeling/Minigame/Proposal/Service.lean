import Minigame.Json.Printer
import Minigame.Design.View
import Minigame.Proposal.Key

/-! Services that are asked for patches: what they are sent and what may come back. -/

namespace Minigame.Proposal

open Minigame.Text

/-- Why a service gave no text. -/
inductive ServiceError where
  | notConfigured
  | transport (detail : String)
  | status (code : Nat) (body : String)
  | emptyResponse
  deriving DecidableEq

namespace ServiceError

/-- How many characters of the body of a failed response are kept. -/
def bodyLimit : Nat := 200

/-- The error of a response with a status that is no success. -/
def ofStatus (code : Nat) (body : String) : ServiceError :=
  .status code (truncate bodyLimit body)

/-- The text of a service error. -/
def message : ServiceError → String
  | notConfigured => "intent service not configured"
  | transport detail => "intent service transport error: " ++ detail
  | status code body => "intent service returned status " ++ toString code ++ ": " ++ body
  | emptyResponse => "intent service response had no text content"

end ServiceError

/-- What came of asking a service. -/
inductive Reply where
  | text (reply : String)
  | failed (error : ServiceError)
  /-- Nothing came in time. -/
  | late
  deriving DecidableEq

/-- A service: its reply may depend on everything it was sent so far, the latest first. -/
structure Service where
  model : String
  reply : List String → Reply

/-- The service's address, if the settings have a key for it. -/
def endpoint (settings : ProposalSettings) : Except ServiceError String :=
  if settings.hasService then
    .ok (dropSlashes settings.baseUrl ++ "/v1/messages")
  else .error .notConfigured

/-- The text a service is sent for a request. -/
def payload (request : Request) : String :=
  -- The document is sent as its projection, with the summary in front and the prompt behind.
  "BRIEF SUMMARY (<=300 chars):\n" ++ request.summary ++ "\n\nCURRENT SPEC_JSON:\n"
    ++ (Design.projection request.doc).compact ++ "\n\nUSER MESSAGE:\n" ++ request.prompt
    ++ "\n\nReturn ONLY a JSON array of patch operations.\n"

end Minigame.Proposal
