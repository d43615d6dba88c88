import Minigame.Proposal.Settings
import Minigame.Session.GameId
import Minigame.Text.Cut
import Minigame.Toml.Document

/-! The settings of sessions. -/

namespace Minigame

open Minigame.Text

/-- The settings of sessions. -/
structure SessionSettings where
  /-- The length of a summary in characters. -/
  summaryChars : Nat
  /-- The length of a published title in characters. -/
  titleChars : Nat
  /-- The hours after which a draft may be deleted. -/
  autoDeleteHours : Int
  /-- The folder that pages are published in. -/
  publicationFolder : String
  /-- The address under which published pages can be reached. -/
  publicBaseUrl : Option String
  proposals : ProposalSettings

namespace SessionSettings

/-- The settings where nothing else is said. -/
def default : SessionSettings where
  summaryChars := 300
  titleChars := 60
  autoDeleteHours := 72
  publicationFolder := "games"
  publicBaseUrl := none
  proposals := .default

/-- The written form, in the order of declaration. -/
def chars (settings : SessionSettings) : List Char :=
  Json.mappingChars
    [("summary_chars", Nat.toDigits 10 settings.summaryChars),
     ("title_chars", Nat.toDigits 10 settings.titleChars),
     ("auto_delete_hours", intChars settings.autoDeleteHours),
     ("publication_prefix", Json.stringChars settings.publicationFolder),
     ("public_base_url", (Json.orNull (settings.publicBaseUrl.map .str)).chars),
     ("intent", settings.proposals.chars)]

/-- The written form as a string. -/
def text (settings : SessionSettings) : String :=
  String.ofList settings.chars

/--
Reads settings from their fields, with a reader for those of proposals; what is missing has its
default.
-/
def ofRecord? (readProposals : Json → Option ProposalSettings) (record : Record) :
    Option SessionSettings := do
  -- Records carry the places of their fields too, since a sequence is read by place.
  let base := default
  let summaryChars ← record.withDefault 0 "summary_chars" base.summaryChars (Json.asUnsigned? 64)
  let titleChars ← record.withDefault 1 "title_chars" base.titleChars (Json.asUnsigned? 64)
  let autoDeleteHours ←
    record.withDefault 2 "auto_delete_hours" base.autoDeleteHours Json.asSigned?
  let publicationFolder ←
    record.withDefault 3 "publication_prefix" base.publicationFolder Json.asString?
  let publicBaseUrl ← record.optional 4 "public_base_url" Json.asString?
  let proposals ← record.withDefault 5 "intent" base.proposals readProposals
  return { summaryChars, titleChars, autoDeleteHours, publicationFolder, publicBaseUrl, proposals }

/-- Reads settings from a JSON value. -/
def ofJson? (value : Json) : Option SessionSettings :=
  (Record.ofJson? 6 value).bind (ofRecord? ProposalSettings.ofJson?)

/-- Reads settings from a TOML text. -/
def ofToml? (text : String) : Option SessionSettings :=
  ((Toml.parse text).bind Record.ofLongJson?).bind (ofRecord? ProposalSettings.ofToml?)

/-- The path a game is published under. -/
def publicationPath (settings : SessionSettings) (id : GameId) : String :=
  dropSlashes settings.publicationFolder ++ "/" ++ id.text ++ "/index.html"

/-- Games have paths of their own. -/
theorem publicationPath_inj {settings : SessionSettings} {id other : GameId}
    (same : settings.publicationPath id = settings.publicationPath other) : id = other := by
  refine GameId.text_inj (String.toList_injective ?_)
  -- Only the identifier differs between two paths of the same settings.
  have chars := congrArg String.toList same
  simpa [publicationPath] using chars

/-- The address of a published path, if there is a public one. -/
def publicUrl (settings : SessionSettings) (path : String) : Option String :=
  settings.publicBaseUrl.map fun base => dropSlashes base ++ "/" ++ path

end SessionSettings

end Minigame
