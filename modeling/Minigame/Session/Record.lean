import Minigame.Session.GameId
import Minigame.Session.Timestamp
import Minigame.Proposal.Basic

/-! The record of a game: its owner, its conversation, its document and its page. -/

namespace Minigame

/-- Who said something. -/
inductive Role where
  | user
  | assistant
  deriving DecidableEq

/-- The name of a role. -/
def Role.name : Role → String
  | .user => "user"
  | .assistant => "assistant"

/-- The role with this name. -/
def Role.ofName? : String → Option Role
  | "user" => some .user
  | "assistant" => some .assistant
  | _ => none

/-- One contribution to the conversation about a game. -/
structure Turn where
  role : Role
  content : String
  deriving DecidableEq

namespace Turn

/-- The written form. -/
def toJson (turn : Turn) : Json :=
  Json.ofFields [("role", .str turn.role.name), ("content", .str turn.content)]

/-- Reads the written form. -/
def ofJson? (value : Json) : Option Turn := do
  let record ← Record.ofJson? 2 value
  let role ← record.required 0 "role" fun v => v.asTag?.bind Role.ofName?
  let content ← record.required 1 "content" Json.asString?
  return ⟨role, content⟩

end Turn

/-- How far a game has come. -/
inductive GameStatus where
  | creating
  | generated
  | published
  deriving DecidableEq

/-- The name of a status. -/
def GameStatus.name : GameStatus → String
  | .creating => "creating"
  | .generated => "generated"
  | .published => "published"

/-- The status with this name. -/
def GameStatus.ofName? : String → Option GameStatus
  | "creating" => some .creating
  | "generated" => some .generated
  | "published" => some .published
  | _ => none

/-- Reads a status. -/
def GameStatus.ofJson? (value : Json) : Option GameStatus :=
  value.asTag?.bind GameStatus.ofName?

/-- What the last change of a game consisted of. -/
inductive Strategy where
  | specCompile
  | patchOnly
  | compileOnly
  deriving DecidableEq

/-- The name of a strategy. -/
def Strategy.name : Strategy → String
  | .specCompile => "spec+compile"
  | .patchOnly => "patchOnly"
  | .compileOnly => "compileOnly"

/-- The strategy with this name. -/
def Strategy.ofName? : String → Option Strategy
  | "spec+compile" => some .specCompile
  | "patchOnly" => some .patchOnly
  | "compileOnly" => some .compileOnly
  | _ => none

/-- Reads a strategy. -/
def Strategy.ofJson? (value : Json) : Option Strategy :=
  value.asTag?.bind Strategy.ofName?

/-- Reads a moment from a string value. -/
def Timestamp.ofJson? (value : Json) : Option Timestamp :=
  value.asString?.bind Timestamp.parse?

/-- How the last change of a game came about. -/
structure Metadata where
  strategy : Strategy
  model : String
  patchSize : Nat
  source : Option ProposalSource
  degradations : List Degradation
  generatedAt : Timestamp
  deriving DecidableEq

namespace Metadata

/-- The written form; an absent source and an empty list of degradations are left out. -/
def toJson (metadata : Metadata) : Json :=
  let source := metadata.source.map fun source => ("source", Json.str source.name)
  let degradations :=
    if metadata.degradations.isEmpty then []
    else [("degradations", Json.strings (metadata.degradations.map Degradation.name))]
  Json.ofFields
    ([("strategy", .str metadata.strategy.name), ("model", .str metadata.model),
      ("patch_size", Json.nat metadata.patchSize)] ++ source.toList ++ degradations
      ++ [("generated_at", .str metadata.generatedAt.text)])

/-- Reads the written form. -/
def ofJson? (value : Json) : Option Metadata := do
  let record ← Record.ofJson? 6 value
  let strategy ← record.required 0 "strategy" Strategy.ofJson?
  let model ← record.required 1 "model" Json.asString?
  let patchSize ← record.required 2 "patch_size" (Json.asUnsigned? 64)
  let source ← record.optional 3 "source" ProposalSource.ofJson?
  let degradations ← record.withDefault 4 "degradations" [] fun v =>
    v.asItems?.bind fun items => items.mapM Degradation.ofJson?
  let generatedAt ← record.required 5 "generated_at" Timestamp.ofJson?
  return { strategy, model, patchSize, source, degradations, generatedAt }

end Metadata

/-- Everything that is kept about a game. -/
structure GameRecord where
  id : GameId
  owner : Option String
  creatorName : Option String
  title : String
  description : String
  status : GameStatus
  spec : Option Json
  summary : String
  history : List Turn
  html : Option String
  metadata : Option Metadata
  storagePath : Option String
  createdAt : Timestamp
  updatedAt : Timestamp
  autoDeleteAt : Option Timestamp
  publishedAt : Option Timestamp
  deriving DecidableEq

namespace GameRecord

/-- The record of a new game. -/
def draft (id : GameId) (owner : String) (creatorName : Option String) (now : Timestamp)
    (autoDeleteHours : Int) : GameRecord where
  id := id
  owner := some owner
  creatorName := creatorName
  title := "Untitled Game"
  description := ""
  status := .creating
  spec := none
  summary := ""
  history := []
  html := none
  metadata := none
  storagePath := none
  createdAt := now
  updatedAt := now
  autoDeleteAt := now.addHours? autoDeleteHours
  publishedAt := none

/-- Whether a user may change the game; a game without an owner is open to everyone. -/
def isEditableBy (record : GameRecord) (user : String) : Bool :=
  record.owner.all (· = user)
-- Without an owner there is nobody to differ from.

/-- The written form. -/
def toJson (record : GameRecord) : Json :=
  let text (value : Option String) := Json.orNull (value.map .str)
  let moment (value : Option Timestamp) := text (value.map Timestamp.text)
  Json.ofFields
    [("id", .str record.id.text), ("owner", text record.owner),
     ("creator_name", text record.creatorName), ("title", .str record.title),
     ("description", .str record.description), ("status", .str record.status.name),
     ("spec", Json.orNull record.spec), ("summary", .str record.summary),
     ("history", .arr (record.history.map Turn.toJson)), ("html", text record.html),
     ("metadata", Json.orNull (record.metadata.map Metadata.toJson)),
     ("storage_path", text record.storagePath), ("created_at", .str record.createdAt.text),
     ("updated_at", .str record.updatedAt.text), ("auto_delete_at", moment record.autoDeleteAt),
     ("published_at", moment record.publishedAt)]

/-- Reads the written form. -/
def ofJson? (value : Json) : Option GameRecord := do
  let record ← Record.ofJson? 16 value
  let id ← record.required 0 "id" GameId.ofJson?
  let owner ← record.nullable 1 "owner" Json.asString?
  let creatorName ← record.nullable 2 "creator_name" Json.asString?
  let title ← record.required 3 "title" Json.asString?
  let description ← record.required 4 "description" Json.asString?
  let status ← record.required 5 "status" GameStatus.ofJson?
  let spec ← record.nullable 6 "spec" some
  let summary ← record.required 7 "summary" Json.asString?
  let history ← record.required 8 "history" fun v =>
    v.asItems?.bind fun items => items.mapM Turn.ofJson?
  let html ← record.nullable 9 "html" Json.asString?
  let metadata ← record.nullable 10 "metadata" Metadata.ofJson?
  let storagePath ← record.nullable 11 "storage_path" Json.asString?
  let createdAt ← record.required 12 "created_at" Timestamp.ofJson?
  let updatedAt ← record.required 13 "updated_at" Timestamp.ofJson?
  let autoDeleteAt ← record.nullable 14 "auto_delete_at" Timestamp.ofJson?
  let publishedAt ← record.nullable 15 "published_at" Timestamp.ofJson?
  return { id, owner, creatorName, title, description, status, spec, summary, history, html,
           metadata, storagePath, createdAt, updatedAt, autoDeleteAt, publishedAt }

end GameRecord

end Minigame
