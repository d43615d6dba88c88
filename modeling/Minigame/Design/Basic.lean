import Minigame.Design.Rules
import Minigame.Text.Blank

/-! Complete game designs, read strictly; what they hold beyond the known fields is kept. -/

namespace Minigame

open Minigame.Text

/-- What a game is called and how it looks. -/
structure Meta where
  title : String
  template : Option Template
  skin : Option Skin
  theme : Theme
  /-- The fields under other names. -/
  extra : List (String × Json)
  deriving DecidableEq

/-- A complete game design. -/
structure Design where
  about : Meta
  scene : Json
  player : Json
  entities : List Json
  enemies : List Json
  goals : Json
  rules : List (String × Json)
  controls : Json
  aesthetics : Json
  hud : Option Hud
  notes : String
  /-- The fields under other names. -/
  extra : List (String × Json)
  deriving DecidableEq

namespace Meta

/-- The names of the known fields. -/
def knownNames : List String := ["title", "template", "skin", "theme"]

/-- The written form; absent choices are left out. -/
def toJson (about : Meta) : Json :=
  let template := about.template.map fun template => ("template", Json.str template.name)
  let skin := about.skin.map fun skin => ("skin", Json.str skin.name)
  .obj (Fields.union
    (Fields.ofList ([("title", Json.str about.title)] ++ template.toList ++ skin.toList
      ++ [("theme", .str about.theme.name)]))
    about.extra)

/-- Reads the written form, which must be a mapping. -/
def ofJson? (value : Json) : Option Meta := do
  let fields ← value.asFields?
  let record := Record.named fields
  let title ← record.required 0 "title" Json.asString?
  let template ← record.optional 1 "template" fun v => v.asString?.map Template.ofName
  let skin ← record.optional 2 "skin" fun v => v.asTag?.bind Skin.ofName?
  let theme ← record.required 3 "theme" fun v => v.asTag?.bind Theme.ofName?
  return ⟨title, template, skin, theme, fields.filter fun field => field.1 ∉ knownNames⟩

end Meta

namespace Design

/-- The names of the known fields. -/
def knownNames : List String :=
  ["meta", "scene", "player", "entities", "enemies", "goals", "rules", "controls", "aesthetics",
   "hud", "notes"]

/-- The written form; an absent choice of what is shown is left out. -/
def toJson (design : Design) : Json :=
  .obj (Fields.union
    (Fields.ofList (
      [("meta", design.about.toJson), ("scene", design.scene), ("player", design.player),
       ("entities", .arr design.entities), ("enemies", .arr design.enemies),
       ("goals", design.goals), ("rules", .obj design.rules), ("controls", design.controls),
       ("aesthetics", design.aesthetics)]
      ++ (design.hud.map fun hud => ("hud", hud.toJson)).toList
      ++ [("notes", .str design.notes)]))
    design.extra)

/-- Reads the written form, which must be a mapping. -/
def ofJson? (value : Json) : Option Design := do
  let fields ← value.asFields?
  let record := Record.named fields
  let about ← record.required 0 "meta" Meta.ofJson?
  let scene ← record.required 1 "scene" some
  let player ← record.required 2 "player" some
  let entities ← record.required 3 "entities" Json.asItems?
  let enemies ← record.required 4 "enemies" Json.asItems?
  let goals ← record.required 5 "goals" some
  let rules ← record.required 6 "rules" Json.asFields?
  let controls ← record.required 7 "controls" some
  let aesthetics ← record.required 8 "aesthetics" some
  let hud ← record.optional 9 "hud" Hud.ofJson?
  let notes ← record.required 10 "notes" Json.asString?
  -- Fields of other names are kept as they are, so that writing gives them back.
  let extra := fields.filter fun field => field.1 ∉ knownNames
  return { about, scene, player, entities, enemies, goals, rules, controls, aesthetics, hud, notes,
           extra }

/-- The most characters of a prompt that become a title. -/
def titleLimit : Nat := 60

/-- The title a prompt gives a new game. -/
def titleFor (prompt : String) : String :=
  let trimmed := trimChars prompt.toList
  if trimmed.isEmpty then "Untitled Game" else String.ofList (trimmed.take titleLimit)

/-- The design a game starts from. -/
def forPrompt (prompt : String) : Design where
  about := ⟨titleFor prompt, none, none, .dark, []⟩
  scene := Json.ofFields
    [("size", Json.ofFields [("w", Json.nat 800), ("h", Json.nat 500)]), ("hidpi", .bool true)]
  player := Json.ofFields
    [("controller", .str "topdown"), ("speed", Json.nat 200), ("hp", Json.nat 1),
     ("weapons", .arr [])]
  entities := []
  enemies := []
  goals := .arr [.str "survive_timer"]
  rules := [("difficulty", .str "normal")]
  controls := .arr [.str "wasd"]
  aesthetics := Json.ofFields [("palette", .str "midnight"), ("sfx", .arr [])]
  hud := none
  notes := ""
  extra := []

/-- The document a game starts from. -/
def starter (prompt : String) : Json :=
  (forPrompt prompt).toJson

end Design

end Minigame
