import Minigame.Design.Basic
import Minigame.Page.Registry
import Minigame.Proposal.Basic
import Minigame.Proposal.Rules
import Minigame.Session.Error
import Minigame.Session.Settings
import Minigame.Session.Summary

/-! What turns, compilations and publications make of the record of a game. -/

namespace Minigame

open Minigame.Text Minigame.Proposal

/-- What a turn gives back. -/
structure TurnOutcome where
  id : GameId
  doc : Json
  /-- The page, if the turn made one. -/
  html : Option String
  history : List Turn
  source : ProposalSource
  degradations : List Degradation
  report : Report
  model : String
  directMode : Bool
  deriving DecidableEq

/-- The title of a game that is made a survival game at the last moment. -/
def bubbleTitle : String := "Bubble Rush"

/-- Makes a game about bubbles a survival game where nothing chose a template. -/
def ensureBubbles (prompt : String) (doc : Json) : Json :=
  -- A template that is there is never replaced, whatever the prompt mentions.
  if Design.hasTemplate doc || !Phrase.mentionsBubbles prompt then doc
  else
    Patch.apply
      (put ["meta", "template"] (.str Template.bubbleClicker.name)
        :: when (Design.title? doc).isNone (put ["meta", "title"] (.str bubbleTitle)))
      doc

namespace GameRecord

/-- The document a turn starts from; a new game gets one from its prompt. -/
def current (record : GameRecord) (prompt : String) : Json :=
  record.spec.getD (Design.starter prompt)

/-- The document and the report that a proposal leads to. -/
def next (record : GameRecord) (prompt : String) (compiles : Bool) (patch : Patch) :
    Json × Report :=
  let (doc, report) := patch.applyWithReport (record.current prompt)
  (if compiles then ensureBubbles prompt doc else doc, report)

/-- The record after a turn, and what the turn gives back; only some turns make a page. -/
def afterTurn (record : GameRecord) (summaryChars : Nat) (pages : Page.Registry) (prompt : String)
    (compiles : Bool) (model : String) (now : Timestamp) (proposal : Proposal) :
    GameRecord × TurnOutcome :=
  -- The history and the summary grow by the prompt even where no operation of the patch applies.
  let (doc, report) := record.next prompt compiles proposal.patch
  let html := if compiles then some (pages.compile doc) else none
  let history := record.history ++ [⟨.user, prompt⟩]
  ({ record with
      spec := some doc
      summary := summarize record.summary prompt summaryChars
      history
      -- A page from before is kept until a turn makes a new one.
      html := html <|> record.html
      status := if compiles then .generated else record.status
      metadata := some
        { strategy := if compiles then .specCompile else .patchOnly
          model
          patchSize := proposal.patch.length
          source := some proposal.source
          degradations := proposal.degradations
          generatedAt := now }
      updatedAt := now },
   { id := record.id, doc, html, history, source := proposal.source,
     degradations := proposal.degradations, report, model,
     directMode := Design.directMode doc })

/-- The page of the document as it is. -/
def compiled (record : GameRecord) (pages : Page.Registry) : String :=
  pages.compile (record.current "")

/-- The record after its document was compiled. -/
def afterCompile (record : GameRecord) (html : String) (now : Timestamp) : GameRecord :=
  { record with
    html := some html
    status := .generated
    metadata := some
      { strategy := .compileOnly, model := "none", patchSize := 0, source := none,
        degradations := [], generatedAt := now }
    updatedAt := now }

/-- The page a game can be published with. -/
def artifact (record : GameRecord) : Except SessionError String :=
  match record.html with
  | none => .error (.noArtifact record.id)
  | some html => if html = "" then .error (.noArtifact record.id) else .ok html

/-- The record after its page was published under a path. -/
def afterPublish (record : GameRecord) (title description path : String) (now : Timestamp) :
    GameRecord :=
  { record with
    title, description
    status := .published
    storagePath := some path
    publishedAt := some now
    updatedAt := now }

end GameRecord

end Minigame
