import Minigame.Json.Basic
import Minigame.Json.Record
import Minigame.Text.Case

/-! The words of game designs: page templates, themes, spawn modes and skins. -/

namespace Minigame

open Minigame.Text

/-- The template a game is built from. -/
inductive Template where
  | sandbox
  | bubbleClicker
  /-- A template this library does not know by itself. -/
  | other (name : String)
  deriving DecidableEq

/-- The name of a template. -/
def Template.name : Template → String
  | .sandbox => "sandbox"
  | .bubbleClicker => "bubble_clicker"
  | .other name => name

/-- The template with a name. -/
def Template.ofName (name : String) : Template :=
  if name = "sandbox" then .sandbox
  else if name = "bubble_clicker" then .bubbleClicker
  else .other name

/-- The colours of a page. -/
inductive Theme where
  | dark
  | light
  deriving DecidableEq

/-- The name of a theme. -/
def Theme.name : Theme → String
  | .dark => "dark"
  | .light => "light"

/-- The theme with exactly this name. -/
def Theme.ofName? : String → Option Theme
  | "dark" => some .dark
  | "light" => some .light
  | _ => none

/-- The theme a text asks for; every other text than the light one asks for the dark one. -/
def Theme.ofText (text : String) : Theme :=
  if eqIgnoringAsciiCase text "light" then .light else .dark

/-- How the number of spawned objects grows. -/
inductive SpawnMode where
  | doubling
  | linear
  | fixed
  deriving DecidableEq

/-- The name of a spawn mode. -/
def SpawnMode.name : SpawnMode → String
  | .doubling => "doubling"
  | .linear => "linear"
  | .fixed => "fixed"

/-- The spawn mode with exactly this name. -/
def SpawnMode.ofName? : String → Option SpawnMode
  | "doubling" => some .doubling
  | "linear" => some .linear
  | "fixed" => some .fixed
  | _ => none

/-- The spawn mode with this name in any case of its ASCII letters. -/
def SpawnMode.ofText? (text : String) : Option SpawnMode :=
  SpawnMode.ofName? (asciiLower text)

/-- Whether the mode adds the same number in every interval. -/
def SpawnMode.isPerInterval : SpawnMode → Bool
  | .doubling => false
  | .linear => true
  | .fixed => true

/-- What the objects look like. -/
inductive Skin where
  | bubble
  | balloon
  | chicken
  | slime
  | asteroid
  deriving DecidableEq

/-- The name of a skin. -/
def Skin.name : Skin → String
  | .bubble => "bubble"
  | .balloon => "balloon"
  | .chicken => "chicken"
  | .slime => "slime"
  | .asteroid => "asteroid"

/-- All skins. -/
def Skin.all : List Skin := [.bubble, .balloon, .chicken, .slime, .asteroid]

/-- The skin with exactly this name. -/
def Skin.ofName? (name : String) : Option Skin :=
  Skin.all.find? (·.name = name)

/-- The skin of a template for which a game names no skin it knows. -/
def Template.baselineSkin : Template → Skin
  | _ => .bubble

/-- A text without one `s` at its end. -/
def dropPlural (text : String) : String :=
  match text.toList.reverse with
  | 's' :: rest => String.ofList rest.reverse
  | _ => text

/-- The skin a noun names, in any case of its ASCII letters and with or without a plural. -/
def Skin.ofNoun? (noun : String) : Option Skin :=
  Skin.ofName? (dropPlural (asciiLower noun))

end Minigame
