import Minigame.Patch.Operation
import Minigame.Json.Record

/-! Proposals: patches for a prompt, with where they came from and what went wrong on the way. -/

namespace Minigame

/-- Where the patch of a proposal came from. -/
inductive ProposalSource where
  | directMode
  | cache
  | service
  | fallback
  | empty
  deriving DecidableEq

/-- The name of a source. -/
def ProposalSource.name : ProposalSource → String
  | .directMode => "direct_mode"
  | .cache => "cache"
  | .service => "service"
  | .fallback => "fallback"
  | .empty => "empty"

/-- The source with this name. -/
def ProposalSource.ofName? : String → Option ProposalSource
  | "direct_mode" => some .directMode
  | "cache" => some .cache
  | "service" => some .service
  | "fallback" => some .fallback
  | "empty" => some .empty
  | _ => none

/-- A step on the way to a proposal that failed and was worked around. -/
inductive Degradation where
  | serviceUnavailable
  | serviceTimeout
  | serviceError
  | unparseableResponse
  | cacheUnavailable
  deriving DecidableEq

/-- The name of a degradation. -/
def Degradation.name : Degradation → String
  | .serviceUnavailable => "service_unavailable"
  | .serviceTimeout => "service_timeout"
  | .serviceError => "service_error"
  | .unparseableResponse => "unparseable_response"
  | .cacheUnavailable => "cache_unavailable"

/-- The degradation with this name. -/
def Degradation.ofName? : String → Option Degradation
  | "service_unavailable" => some .serviceUnavailable
  | "service_timeout" => some .serviceTimeout
  | "service_error" => some .serviceError
  | "unparseable_response" => some .unparseableResponse
  | "cache_unavailable" => some .cacheUnavailable
  | _ => none

/-- Reads a source. -/
def ProposalSource.ofJson? (value : Json) : Option ProposalSource :=
  value.asTag?.bind ProposalSource.ofName?

/-- Reads a degradation. -/
def Degradation.ofJson? (value : Json) : Option Degradation :=
  value.asTag?.bind Degradation.ofName?

/-- A patch for a prompt. -/
structure Proposal where
  patch : Patch
  source : ProposalSource
  degradations : List Degradation
  /-- The model behind the service that was asked. -/
  model : Option String
  deriving DecidableEq

end Minigame
