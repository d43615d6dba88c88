import Minigame.Json.View
import Minigame.Design.Vocabulary

/-! What a design document says, read leniently. -/

namespace Minigame.Design

/-- The title, if there is a readable one. -/
def title? (doc : Json) : Option String :=
  doc.textAt? "/meta/title"

/-- The template; a document that names none is a sandbox. -/
def template (doc : Json) : Template :=
  ((doc.textAt? "/meta/template").map Template.ofName).getD .sandbox

/-- Whether the document names a template. -/
def hasTemplate (doc : Json) : Bool :=
  (doc.textAt? "/meta/template").isSome

/-- The theme. -/
def theme (doc : Json) : Theme :=
  ((doc.textAt? "/meta/theme").map Theme.ofText).getD .dark

/-- The skin, if the document names one. -/
def skin? (doc : Json) : Option Skin :=
  (doc.textAt? "/meta/skin").bind Skin.ofNoun?

/-- The spawn mode, if the document names one. -/
def spawnMode? (doc : Json) : Option SpawnMode :=
  (doc.textAt? "/rules/spawn/mode").bind SpawnMode.ofText?

/-- Whether the document says that it was written in direct mode. -/
def directMode (doc : Json) : Bool :=
  (doc.boolAt? "/meta/direct_mode").getD false

/-- The parts of a document that proposals depend on; what is missing is null. -/
def projection (doc : Json) : Json :=
  let part (name pointer : String) := (name, Json.orNull (doc.pointer? pointer))
  Json.ofFields
    [part "title" "/meta/title", part "template" "/meta/template", part "scene" "/scene",
     part "player" "/player", part "goals" "/goals", part "rules" "/rules"]

end Minigame.Design
