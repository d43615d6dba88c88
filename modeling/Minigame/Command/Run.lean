import Minigame.Command.Arguments
import Minigame.Json.Parser
import Minigame.Patch.Reading
import Minigame.Session.Studio

/-! What the commands do, given the files and the environment they may read. -/

namespace Minigame.Command

open Minigame.Survival

/-- The name of the program and its version. -/
def versionText : String := "gamespec 0.1.0"

/-- What a command can read. -/
structure Surroundings where
  file : String → Option String
  environment : String → Option String
  /-- The service behind settings that have a key for one. -/
  service : ProposalSettings → Proposal.Service

/-- Why a command fails. -/
inductive Failure where
  | unreadable (path : String)
  | malformed (path : String)
  | session (error : SessionError)

/-- The text of a failure. -/
def Failure.message : Failure → String
  | unreadable path => "reading " ++ path
  | malformed path => "parsing " ++ path
  | session error => error.message

/-- What a command brings forth. -/
inductive Output where
  | print (text : String)
  | write (path text : String)

namespace Surroundings

/-- Reads a file. -/
def read (surroundings : Surroundings) (path : String) : Except Failure String :=
  match surroundings.file path with
  | some text => .ok text
  | none => .error (.unreadable path)

/-- Reads a document. -/
def readDocument (surroundings : Surroundings) (path : String) : Except Failure Json := do
  match Json.parse (← surroundings.read path) with
  | some doc => .ok doc
  | none => .error (.malformed path)

/-- Reads a patch. -/
def readPatch (surroundings : Surroundings) (path : String) : Except Failure Patch := do
  match Patch.ofText (← surroundings.read path) with
  | .ok patch => .ok patch
  | .error _ => .error (.malformed path)

/-- The settings of a configuration, or those of the environment; the key may come from there. -/
def settings (surroundings : Surroundings) (config : Option String) :
    Except Failure SessionSettings := do
  let environment := ProposalSettings.ofEnvironment surroundings.environment
  match config with
  | none => return { SessionSettings.default with proposals := environment }
  | some path =>
    match SessionSettings.ofToml? (← surroundings.read path) with
    | none => .error (.malformed path)
    | some settings =>
      -- A key in the configuration goes before the one in the environment; nothing else is mixed.
      let apiKey := settings.proposals.apiKey <|> environment.apiKey
      return { settings with proposals := { settings.proposals with apiKey } }

/-- The service that settings ask for. -/
def service? (surroundings : Surroundings) (settings : SessionSettings) : Option Proposal.Service :=
  if settings.proposals.hasService then some (surroundings.service settings.proposals) else none

end Surroundings

/-- A page goes to a file or, without one, to the standard output. -/
def emit (out : Option String) (page : String) : Output :=
  match out with
  | some path => .write path page
  | none => .print (page ++ "\n")

/-- A proposal as a value. -/
def proposalJson (proposal : Proposal) : Json :=
  Json.ofFields
    [("source", .str proposal.source.name),
     ("degradations", Json.strings (proposal.degradations.map Degradation.name)),
     ("model", Json.orNull (proposal.model.map .str)),
     ("patch", Patch.toJson proposal.patch)]

/-- The user whose game a chain of prompts makes. -/
def soleUser : String := "cli"

/-- The moment of a session that is over with the command, so that its time shows nowhere. -/
def start : Timestamp := ⟨0, 0⟩

/-- The page behind the last of several prompts, which are turns of one session. -/
def forge (settings : SessionSettings) (service : Option Proposal.Service) (prompts : List String) :
    Except SessionError String :=
  let studio := { Studio.inMemory settings service with proposals := .ofSettings settings.proposals }
  let (created, state) := studio.create soleUser none ⟨0⟩ start ⟨⟨[], []⟩, [], []⟩
  created.bind fun id => turns studio id "" state prompts
where
  /-- The page behind the last prompt, or the one before where there are no more prompts. -/
  turns (studio : Studio (List (Digest × Patch)) Records) (id : GameId) (page : String)
      (state : StudioState (List (Digest × Patch)) Records) :
      List String → Except SessionError String
    | [] => .ok page
    | prompt :: rest =>
      match studio.generate soleUser id prompt start state with
      | (.error error, _) => .error error
      | (.ok outcome, state) => turns studio id (outcome.html.getD "") state rest

/-- Does what the arguments ask for. -/
def run (surroundings : Surroundings) (config : Option String) (action : Action) :
    Except Failure Output := do
  let settings ← surroundings.settings config
  match action with
  | .compile spec out =>
    return emit out (Page.Registry.standard.compile (← surroundings.readDocument spec))
  | .apply spec patch =>
    let doc ← surroundings.readDocument spec
    let patch ← surroundings.readPatch patch
    return .print ((patch.apply doc).pretty ++ "\n")
  | .propose prompt spec summary =>
    let doc ←
      match spec with
      | some path => surroundings.readDocument path
      | none => .ok (Design.starter prompt)
    let resolver : Proposal.Resolver (List (Digest × Patch)) :=
      ⟨settings.proposals, surroundings.service? settings, .ofSettings settings.proposals⟩
    let (proposal, _) := resolver.propose ⟨doc, prompt, summary⟩ ⟨[], []⟩
    return .print ((proposalJson proposal).pretty ++ "\n")
  | .forge prompts out =>
    match forge settings (surroundings.service? settings) prompts with
    | .ok page => return emit out page
    | .error error => .error (.session error)
  | .simulate simulation => return .print simulation.report.text

end Minigame.Command
