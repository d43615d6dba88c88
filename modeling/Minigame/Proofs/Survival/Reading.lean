import Minigame.Proofs.Float.Whole
import Minigame.Proofs.Json.Address
import Minigame.Survival.Game

/-!
What a survival game reads of its design.

Each part of the game is read at a place of the document. Where nothing is, the part is the default,
so a default that is written down is read as if it were not there.
-/

namespace Minigame

open Minigame.Decimal Minigame.Rounding

namespace Json

/-- The value with nothing in it but another one at a place. -/
def nest (place : List String) (value : Json) : Json :=
  place.foldr (fun segment inner => .obj [(segment, inner)]) value

theorem at?_nest (place : List String) (value : Json) :
    (nest place value).at? place = some value := by
  -- From outside in: each segment finds the one entry of its mapping.
  induction place with
  | nil => rfl
  | cons segment rest ih =>
    rw [nest, List.foldr_cons, ← nest, at?_cons, under?, Fields.get?, if_pos rfl]
    exact ih

/-- What is read of a document depends on one place in it alone. -/
def ReadAt {α : Type} (place : List String) (read : Json → α) : Prop :=
  ∀ {doc other : Json}, doc.at? place = other.at? place → read doc = read other

section

variable (place rest : List String)

theorem pointer?_readAt : ReadAt place (pointer? (Path.mk (place ++ rest)).text) := by
  intro doc other same
  -- The place that is read lies below the one that the two documents share.
  refine pointer?_congr ?_
  rw [at?_append, at?_append, same]

theorem textAt?_readAt : ReadAt place (textAt? (Path.mk (place ++ rest)).text) := by
  intro doc other same
  rw [textAt?, textAt?, pointer?_readAt place rest same]

theorem numberAt?_readAt : ReadAt place (numberAt? (Path.mk (place ++ rest)).text) := by
  intro doc other same
  rw [numberAt?, numberAt?, pointer?_readAt place rest same]

end

/-- A place of a document was left alone, or nothing was there and it got a value. -/
def Filled (place : List String) (value doc after : Json) : Prop :=
  after.at? place = doc.at? place ∨ doc.at? place = none ∧ after.at? place = some value

section

variable {place : List String} {doc after : Json}

/-- Below a place that got a value are the parts of the value. -/
theorem Filled.below {value part : Json} (filled : Filled place value doc after)
    {rest : List String} (inside : value.at? rest = some part) :
    Filled (place ++ rest) part doc after := by
  simp only [Filled, at?_append] at filled ⊢
  rcases filled with same | ⟨absent, put⟩
  · -- A place that was left alone has the same parts below it.
    exact .inl (by rw [same])
  · -- Nothing was below it before, and now there are the parts of the value.
    exact .inr ⟨by rw [absent]; rfl, by rw [put, Option.bind_some, inside]⟩

/-- Where nothing is, a default may be put that is read like nothing. -/
theorem ReadAt.eq_of_filled {α : Type} {read : Json → α} {value : Json} (reads : ReadAt place read)
    (blank : read (.obj []) = read (nest place value)) (filled : Filled place value doc after) :
    read after = read doc := by
  rcases filled with same | ⟨absent, put⟩
  · exact reads same
  · -- There is always something at the root, so the place is below it.
    have below : place ≠ [] := by
      rintro rfl
      cases absent
    calc read after = read (nest place value) := reads (put.trans (at?_nest place value).symm)
      _ = read (.obj []) := blank.symm
      _ = read doc := reads ((at?_obj_nil below).trans absent.symm)

end

/-- A truth value that is put where nothing is, and where it is the default, changes nothing. -/
theorem boolAt?_filled (place : List String) {truth : Bool} {doc after : Json}
    (filled : Filled place (.bool truth) doc after) :
    (after.boolAt? (Path.mk place).text).getD truth =
      (doc.boolAt? (Path.mk place).text).getD truth := by
  rw [boolAt?, boolAt?, pointer?_text, pointer?_text]
  rcases filled with same | ⟨absent, put⟩
  · -- What is read is the same, or it is the default in both.
    rw [same]
  · rw [absent, put]
    rfl

/-- A positive whole number that can be a float is read as its float. -/
theorem numberAt?_nat (place : List String) {doc : Json} {n : Nat} (positive : 0 < n)
    (small : n < 2 ^ 53) (there : doc.at? place = some (.nat n)) :
    doc.numberAt? (Path.mk place).text = some n.toUInt64.toFloat := by
  rw [numberAt?, pointer?_text, there]
  -- The number is finite, so it is not passed over.
  exact Option.filter_some_pos (isFinite_toFloat positive small)

end Json

/-- A scene is read as before, its title apart, if the screen that it lacked got its default. -/
theorem Scene.ofDesign_filled {doc after : Json}
    (theme : after.at? ["meta", "theme"] = doc.at? ["meta", "theme"])
    (size : after.at? ["scene", "size"] = doc.at? ["scene", "size"])
    (hidpi : Json.Filled ["scene", "hidpi"] (.bool true) doc after) (title : String) :
    Scene.ofDesign title after =
      { Scene.ofDesign title doc with title := (Scene.ofDesign title after).title } := by
  -- Each part of the scene is read by itself.
  have named : after.textAt? "/meta/theme" = doc.textAt? "/meta/theme" :=
    Json.textAt?_readAt ["meta", "theme"] [] theme
  have width : after.numberAt? "/scene/size/w" = doc.numberAt? "/scene/size/w" :=
    Json.numberAt?_readAt ["scene", "size"] ["w"] size
  have height : after.numberAt? "/scene/size/h" = doc.numberAt? "/scene/size/h" :=
    Json.numberAt?_readAt ["scene", "size"] ["h"] size
  have sharp : (after.boolAt? "/scene/hidpi").getD true = (doc.boolAt? "/scene/hidpi").getD true :=
    Json.boolAt?_filled ["scene", "hidpi"] hidpi
  simp only [Scene.ofDesign, Design.theme, named, width, height, sharp]

namespace Survival.Game

open Json

/-- The spawn rule is read in one section. -/
theorem spawnRule_readAt : ReadAt ["rules", "spawn"] spawnRule := by
  intro doc other same
  have text := textAt?_readAt ["rules", "spawn"] ["mode"] same
  have number (leaf : String) := numberAt?_readAt ["rules", "spawn"] [leaf] same
  have mode : doc.textAt? "/rules/spawn/mode" = other.textAt? "/rules/spawn/mode" := text
  have interval : doc.numberAt? "/rules/spawn/interval_ms" =
      other.numberAt? "/rules/spawn/interval_ms" := number "interval_ms"
  have increment : doc.numberAt? "/rules/spawn/add_per_interval" =
      other.numberAt? "/rules/spawn/add_per_interval" := number "add_per_interval"
  -- The spellings of older designs stand in the same section.
  have seconds : doc.numberAt? "/rules/spawn/intervalSeconds" =
      other.numberAt? "/rules/spawn/intervalSeconds" := number "intervalSeconds"
  have window : doc.numberAt? "/rules/spawn/window_ms" =
      other.numberAt? "/rules/spawn/window_ms" := number "window_ms"
  have tick : doc.numberAt? "/rules/spawn/addPerTick" =
      other.numberAt? "/rules/spawn/addPerTick" := number "addPerTick"
  rw [spawnRule, spawnRule, Design.spawnMode?, Design.spawnMode?, interval?, interval?, mode,
    interval, increment, seconds, window, tick]

theorem spawnRule_default :
    spawnRule (.obj []) = spawnRule (nest ["rules", "spawn"] SpawnRule.default.toJson) := by
  decide

theorem pauseKeyOf_readAt : ReadAt ["hud"] pauseKeyOf := by
  intro doc other same
  have key : doc.textAt? "/hud/pause_hotkey" = other.textAt? "/hud/pause_hotkey" :=
    textAt?_readAt ["hud"] ["pause_hotkey"] same
  rw [pauseKeyOf, pauseKeyOf, key]

theorem pauseKeyOf_default :
    pauseKeyOf (.obj []) = pauseKeyOf (nest ["hud"] Hud.default.toJson) := by
  decide

/-- The number of objects that may live at once is read at two places. -/
theorem maxConcurrent_congr {doc other : Json}
    (most : doc.at? ["rules", "limit", "max_concurrent"] =
      other.at? ["rules", "limit", "max_concurrent"])
    (bubbles : doc.at? ["rules", "limit", "concurrent_bubbles"] =
      other.at? ["rules", "limit", "concurrent_bubbles"]) :
    (limitRule doc).maxConcurrent = (limitRule other).maxConcurrent := by
  have first : doc.numberAt? "/rules/limit/max_concurrent" =
      other.numberAt? "/rules/limit/max_concurrent" :=
    numberAt?_readAt ["rules", "limit", "max_concurrent"] [] most
  have second : doc.numberAt? "/rules/limit/concurrent_bubbles" =
      other.numberAt? "/rules/limit/concurrent_bubbles" :=
    numberAt?_readAt ["rules", "limit", "concurrent_bubbles"] [] bubbles
  -- The older spelling is looked at where the other one is missing.
  rw [limitRule, limitRule, first, second]

/-- Where no number of objects is written down, it is the one of a game that asks for nothing else. -/
theorem maxConcurrent_default {doc : Json}
    (most : doc.at? ["rules", "limit", "max_concurrent"] = none)
    (bubbles : doc.at? ["rules", "limit", "concurrent_bubbles"] = none) :
    (limitRule doc).maxConcurrent = LimitRule.default.maxConcurrent :=
  -- An empty design has neither of the two numbers.
  show _ = (limitRule (.obj [])).maxConcurrent from maxConcurrent_congr most bubbles

/-- A number of objects that is written down is brought into the range of a game. -/
theorem maxConcurrent_nat {doc : Json} {n : Nat} (positive : 0 < n) (small : n < 2 ^ 53)
    (there : doc.at? ["rules", "limit", "max_concurrent"] = some (.nat n)) :
    (limitRule doc).maxConcurrent = max 1 (min 10000 n) := by
  have number : doc.numberAt? "/rules/limit/max_concurrent" = some n.toUInt64.toFloat :=
    numberAt?_nat ["rules", "limit", "max_concurrent"] positive small there
  -- The number is found at the first of the two places.
  rw [limitRule, number]
  exact clampRounded_toFloat positive small 1 10000

/--
Defaults that were put where nothing was do not change the game.

Its title and the number of objects that may live at once are left out.
-/
theorem ofDesign_filled {doc after : Json}
    (kept : ∀ place ∈ [["meta", "theme"], ["meta", "skin"], ["scene", "size"]],
      after.at? place = doc.at? place)
    (spawn : Filled ["rules", "spawn"] SpawnRule.default.toJson doc after)
    (hud : Filled ["hud"] Hud.default.toJson doc after)
    (hidpi : Filled ["scene", "hidpi"] (.bool true) doc after)
    (ends : Filled ["rules", "limit", "end_on_limit"] (.bool true) doc after) :
    ofDesign after = { ofDesign doc with
      scene := { (ofDesign doc).scene with title := (ofDesign after).scene.title }
      limit := { (ofDesign doc).limit with maxConcurrent := (ofDesign after).limit.maxConcurrent } } := by
  simp only [List.forall_mem_cons] at kept
  obtain ⟨theme, skin, size, -⟩ := kept
  -- Part by part: each one is read at a place that was kept, or at one that got its default.
  have scene := Scene.ofDesign_filled theme size hidpi "Bubble Rush"
  have rule : spawnRule after = spawnRule doc := spawnRule_readAt.eq_of_filled spawnRule_default spawn
  have limit : (after.boolAt? "/rules/limit/end_on_limit").getD true =
      (doc.boolAt? "/rules/limit/end_on_limit").getD true :=
    boolAt?_filled ["rules", "limit", "end_on_limit"] ends
  have look : Design.skin? after = Design.skin? doc :=
    congrArg (·.bind Skin.ofNoun?) (textAt?_readAt ["meta", "skin"] [] skin)
  have key : pauseKeyOf after = pauseKeyOf doc :=
    pauseKeyOf_readAt.eq_of_filled pauseKeyOf_default hud
  -- The switches of the display are all on by default.
  have switch (leaf : String) (on : Hud.default.toJson.at? [leaf] = some (.bool true)) :=
    boolAt?_filled ["hud", leaf] (hud.below on)
  have time : (after.boolAt? "/hud/show_time").getD true =
      (doc.boolAt? "/hud/show_time").getD true := switch "show_time" rfl
  have count : (after.boolAt? "/hud/show_count").getD true =
      (doc.boolAt? "/hud/show_count").getD true := switch "show_count" rfl
  have rate : (after.boolAt? "/hud/show_spawn_rate").getD true =
      (doc.boolAt? "/hud/show_spawn_rate").getD true := switch "show_spawn_rate" rfl
  have sound : (after.boolAt? "/hud/sound").getD true =
      (doc.boolAt? "/hud/sound").getD true := switch "sound" rfl
  simp only [ofDesign, limitRule, Game.mk.injEq]
  exact ⟨scene, rule, by rw [limit], congrArg (·.getD .bubble) look, key, time, count, rate, sound⟩

end Survival.Game

end Minigame
