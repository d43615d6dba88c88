import Minigame.Session.Store

/-! Why a call on a session fails. -/

namespace Minigame

/-- Why a call on a session fails. -/
inductive SessionError where
  | gameNotFound (id : GameId)
  | forbidden (id : GameId) (user : String)
  | missingPrompt
  | missingTitle
  /-- There is no page to publish. -/
  | noArtifact (id : GameId)
  | notPublished (id : GameId)
  | store (error : StoreError)
  deriving DecidableEq

namespace SessionError

/-- The text of a session error. -/
def message : SessionError → String
  | gameNotFound id => "game not found: " ++ id.text
  | forbidden id user => "user " ++ user ++ " may not modify game " ++ id.text
  | missingPrompt => "missing prompt"
  | missingTitle => "missing title"
  | noArtifact id => "game " ++ id.text ++ " has no compiled document"
  | notPublished id => "game " ++ id.text ++ " is not published"
  | store error => "store error: " ++ error.message

/-- Whether the same call may succeed later. -/
def isRetryable : SessionError → Bool
  | store (.unavailable _) => true
  | _ => false

end SessionError

end Minigame
