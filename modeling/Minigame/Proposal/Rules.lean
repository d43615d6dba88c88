import Minigame.Patch.Apply
import Minigame.Design.View
import Minigame.Proposal.Phrases
import Minigame.Text.Blank

/-! Patches that follow from the phrases of a prompt alone. -/

namespace Minigame.Proposal

open Minigame.Text

/-- Puts a value at the path with these segments. -/
def put (segments : List String) (value : Json) : Operation :=
  .add ⟨segments⟩ value

/-- Whether a prompt asks for direct mode: the keyword stands in front, in any case. -/
def isDirectMode (prompt keyword : String) : Bool :=
  let keyword := trimChars keyword.toList
  -- Both sides are lowered apart from each other, after the white space around them is gone.
  !keyword.isEmpty && (lowerChars keyword).isPrefixOf (lowerChars (trimChars prompt.toList))

/-- The patch of a prompt in direct mode: the prompt is kept as it is. -/
def directModePatch (prompt : String) : Patch :=
  [put ["meta", "direct_mode"] (.bool true), put ["meta", "raw_prompt"] (.str prompt)]

/-- A word with its first letter in upper case. -/
def capitalize (word : String) : String :=
  match word.toList with
  | [] => word
  | c :: rest => String.ofList (asciiUpperChar c :: rest)

/-- The title of a survival game without one. -/
def seedTitle (prompt : String) : String :=
  capitalize ((Phrase.skin? prompt .bubbleClicker).getD .bubble).name ++ " Rush"

/-- An operation that is there only under a condition. -/
def when (condition : Bool) (operation : Operation) : Patch :=
  if condition then [operation] else []

/-- Makes a game a survival game and gives it the parts of one that it lacks. -/
def seedSurvival (doc : Json) (prompt : String) : Patch :=
  -- The sections that are there stay as they are; each operation asks for a part that is missing.
  [put ["meta", "template"] (.str Template.bubbleClicker.name)]
    ++ when (Design.title? doc).isNone (put ["meta", "title"] (.str (seedTitle prompt)))
    -- A rule that the prompt states is left to what goes behind every patch.
    ++ when ((doc.pointer? "/rules/spawn").isNone && (Phrase.spawnRule? prompt).isNone)
      (put ["rules", "spawn"] SpawnRule.default.toJson)
    ++ when (doc.pointer? "/hud").isNone (put ["hud"] Hud.default.toJson)
    ++ when (doc.pointer? "/scene/hidpi").isNone (put ["scene", "hidpi"] (.bool true))

/-- Whether a document has a mapping for its limit. -/
def hasLimit (doc : Json) : Bool :=
  ((doc.pointer? "/rules/limit").bind Json.asFields?).isSome

/-- The limit rule with a number that may be left out. -/
def limitRuleOf (limit : Option Nat) : LimitRule :=
  { LimitRule.default with maxConcurrent := limit.getD LimitRule.default.maxConcurrent }

/-- Brings in the limit of a prompt; a game that turns into a survival game has one anyway. -/
def seedLimit (doc : Json) (limit : Option Nat) (switching : Bool) : Patch :=
  if hasLimit doc then
    -- A mapping keeps its other fields, and only the number in it is new.
    (limit.map fun count => put ["rules", "limit", "max_concurrent"] (Json.nat count)).toList
  -- Anything else than a mapping gives way to a whole rule.
  else when (switching || limit.isSome) (put ["rules", "limit"] (limitRuleOf limit).toJson)

/-- The patch where no service gave one: a prompt about a survival game makes the game one. -/
def fallbackPatch (doc : Json) (prompt : String) : Patch :=
  if Phrase.isSurvivalPrompt prompt then
    let switching := Design.template doc != .bubbleClicker
    (if switching then seedSurvival doc prompt else [])
      ++ seedLimit doc (Phrase.limit? prompt) switching
  else []

/-- What a prompt says outright, which goes behind every patch. -/
def overrides (prompt : String) (template : Template) : Patch :=
  -- The skin goes in front of the rule; nothing else is ever said outright.
  ((Phrase.skin? prompt template).map fun skin => put ["meta", "skin"] (.str skin.name)).toList
    ++ ((Phrase.spawnRule? prompt).map fun rule => put ["rules", "spawn"] rule.toJson).toList

end Minigame.Proposal
