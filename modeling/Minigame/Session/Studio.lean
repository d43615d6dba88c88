import Minigame.Proposal.Resolver
import Minigame.Session.Change

/-!
Sessions in which users make games.

A call reads one record, works on it and writes it back; identifiers of new games and the time of
a call are handed in.
-/

namespace Minigame

open Minigame.Text

/-- What sessions are run with. -/
structure Studio (κ ρ : Type) where
  settings : SessionSettings
  service : Option Proposal.Service
  proposals : Proposal.Store κ
  templates : Page.Registry
  records : RecordStore ρ

/-- What sessions leave behind. -/
structure StudioState (κ ρ : Type) where
  proposals : Proposal.Memory κ
  records : ρ
  pages : Pages

/-- A published game. -/
structure Publication where
  id : GameId
  path : String
  url : Option String
  deriving DecidableEq

namespace Studio

variable {κ ρ α : Type}

/-- The studio that keeps everything in memory and has all templates of this library. -/
def inMemory (settings : SessionSettings) (service : Option Proposal.Service) :
    Studio (List (Digest × Patch)) Records :=
  ⟨settings, service, .memory, .standard, .memory⟩

/-- The way to proposals. -/
def resolver (studio : Studio κ ρ) : Proposal.Resolver κ :=
  ⟨studio.settings.proposals, studio.service, studio.proposals⟩

/-- Writes a record; what the call gives back is lost if that fails. -/
def save (studio : Studio κ ρ) (record : GameRecord) (answer : α) (state : StudioState κ ρ) :
    Except SessionError α × StudioState κ ρ :=
  match studio.records.put record state.records with
  | .error error => (.error (.store error), state)
  | .ok records => (.ok answer, { state with records })

/-- Opens a draft for a user. -/
def create (studio : Studio κ ρ) (user : String) (creatorName : Option String) (id : GameId)
    (now : Timestamp) (state : StudioState κ ρ) : Except SessionError GameId × StudioState κ ρ :=
  let record := GameRecord.draft id user creatorName now studio.settings.autoDeleteHours
  match studio.records.insert record state.records with
  | .error error => (.error (.store error), state)
  | .ok records => (.ok id, { state with records })

/-- Reads the record of a game that a user may change. -/
def find (studio : Studio κ ρ) (user : String) (id : GameId) (state : StudioState κ ρ) :
    Except SessionError GameRecord :=
  match studio.records.get id state.records with
  | .error error => .error (.store error)
  | .ok none => .error (.gameNotFound id)
  | .ok (some record) =>
    if record.isEditableBy user then .ok record else .error (.forbidden id user)

/-- The model that a turn is put down to. -/
def modelName (studio : Studio κ ρ) (proposal : Proposal) : String :=
  let configured :=
    if studio.resolver.service.isSome then some studio.settings.proposals.model else none
  (proposal.model <|> configured).getD "mock"

/-- Changes a game as a prompt asks for; some turns make a page as well. -/
def turn (studio : Studio κ ρ) (compiles : Bool) (user : String) (id : GameId) (prompt : String)
    (now : Timestamp) (state : StudioState κ ρ) :
    Except SessionError TurnOutcome × StudioState κ ρ :=
  -- The prompt is looked at first: a call without one does not even read the record.
  let prompt := trim prompt
  if prompt = "" then (.error .missingPrompt, state)
  else
    match studio.find user id state with
    | .error error => (.error error, state)
    | .ok record =>
      -- The proposal is for the document as it stands; a first turn starts from one made of the
      -- prompt.
      let request := ⟨record.current prompt, prompt, record.summary⟩
      let (proposal, proposals) := studio.resolver.propose request state.proposals
      let (record, outcome) :=
        record.afterTurn studio.settings.summaryChars studio.templates prompt compiles
          (studio.modelName proposal) now proposal
      -- The memory of proposals stays changed even where the record cannot be written.
      studio.save record outcome { state with proposals }

/-- Changes a game as a prompt asks for and makes its page. -/
def generate (studio : Studio κ ρ) (user : String) (id : GameId) (prompt : String)
    (now : Timestamp) (state : StudioState κ ρ) :
    Except SessionError TurnOutcome × StudioState κ ρ :=
  studio.turn true user id prompt now state

/-- Changes a game as a prompt asks for and leaves its page as it is. -/
def update (studio : Studio κ ρ) (user : String) (id : GameId) (prompt : String)
    (now : Timestamp) (state : StudioState κ ρ) :
    Except SessionError TurnOutcome × StudioState κ ρ :=
  studio.turn false user id prompt now state

/-- Makes the page of a game from its document as it is. -/
def compile (studio : Studio κ ρ) (user : String) (id : GameId) (now : Timestamp)
    (state : StudioState κ ρ) : Except SessionError String × StudioState κ ρ :=
  match studio.find user id state with
  | .error error => (.error error, state)
  | .ok record =>
    let html := record.compiled studio.templates
    studio.save (record.afterCompile html now) html state

/-- Publishes the page of a game under the path of the game. -/
def publish (studio : Studio κ ρ) (user : String) (id : GameId) (title : String)
    (description : Option String) (now : Timestamp) (state : StudioState κ ρ) :
    Except SessionError Publication × StudioState κ ρ :=
  let title := trim title
  if title = "" then (.error .missingTitle, state)
  else
    match studio.find user id state with
    | .error error => (.error error, state)
    | .ok record =>
      -- A game that never had a page, or an empty one, cannot be published.
      match record.artifact with
      | .error error => (.error error, state)
      | .ok html =>
        let path := studio.settings.publicationPath id
        let pages := Fields.set path ⟨utf8 html, htmlContentType⟩ state.pages
        let record :=
          record.afterPublish (truncate studio.settings.titleChars title) (description.getD "") path
            now
        -- The page is out before the record says so; a failing store leaves it there.
        studio.save record ⟨id, path, studio.settings.publicUrl path⟩ { state with pages }

/-- The published page of a game. -/
def play (studio : Studio κ ρ) (id : GameId) (state : StudioState κ ρ) :
    Except SessionError String :=
  match Fields.get? (studio.settings.publicationPath id) state.pages with
  | none => .error (.notPublished id)
  | some page => .ok (ofUtf8 page.body)

end Studio

end Minigame
