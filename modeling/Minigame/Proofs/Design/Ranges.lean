import Minigame.Proofs.Json.Number
import Minigame.Proofs.Survival.Bounds
import Minigame.Sandbox.Game

/-!
Every design gives a game that can be played.

Whatever a document says, the numbers of its game lie in their ranges and the texts are not blank. A
whole number that a document gives within a range is used as it is.
-/

namespace Minigame

open Minigame.Text

/-- A value in a range, which is the number that a document gives under some keys if that is in it. -/
structure Json.Ranged (doc : Json) (keys : List NumberKey) (low high value : ℕ) : Prop where
  least : low ≤ value
  most : value ≤ high
  kept : ∀ n, doc.Gives keys n → low ≤ n → n ≤ high → value = n

/-- The first number under some keys, brought into a range that floats can tell apart. -/
theorem ranged_clamped {doc : Json} {keys : List NumberKey} {value : Option Float}
    (read : firstRead? doc keys = value) {default low high : ℕ} (least : low ≤ default)
    (most : default ≤ high) (small : high < 2 ^ 40) :
    doc.Ranged keys low high (clamped value default low high) where
  -- Clamping brings every number into the range; the default lies there by itself.
  least := (clamped_bounds value least most).1
  most := (clamped_bounds value least most).2
  -- A whole number in the range is read as itself, and clamping does not move it.
  kept _ gives above below := read ▸ clamped_of_gives gives ⟨above, below⟩ small default

theorem firstRead?_units (doc : Json) (pointer : String) :
    firstRead? doc [.units pointer] = doc.numberAt? pointer := by
  simp [NumberKey.read?]

/-- A text that is read is not blank, and neither is what stands in for a text. -/
theorem isBlankText_textAt? (doc : Json) (pointer : String) {default : String}
    (proper : isBlankText default = false) :
    isBlankText ((doc.textAt? pointer).getD default) = false := by
  -- A blank text does not count as read, so only the default could be blank.
  cases read : doc.textAt? pointer with
  | none => exact proper
  | some text => simpa using (Option.filter_eq_some_iff.1 read).2

/-- A stage with a title and with sides that its design gives, as far as they can be shown. -/
structure Scene.Fits (doc : Json) (scene : Scene) : Prop where
  title : isBlankText scene.title = false
  width : doc.Ranged [.units "/scene/size/w"] 120 4096 scene.width
  height : doc.Ranged [.units "/scene/size/h"] 120 4096 scene.height

theorem Scene.fits_ofDesign (doc : Json) {defaultTitle : String}
    (proper : isBlankText defaultTitle = false) : (ofDesign defaultTitle doc).Fits doc where
  title := isBlankText_textAt? doc "/meta/title" proper
  -- The ranges of the sides are small enough for floats to tell their whole numbers apart.
  width := ranged_clamped (firstRead?_units ..) (by decide) (by decide) (by decide)
  height := ranged_clamped (firstRead?_units ..) (by decide) (by decide) (by decide)

/-- The modes that add the same number in every interval. -/
theorem SpawnMode.isPerInterval_iff {mode : SpawnMode} :
    mode.isPerInterval = true ↔ mode = .linear ∨ mode = .fixed := by
  -- Only two of the modes pass the test.
  cases mode <;> decide

/-- The upper case of an ASCII letter or digit is one without a lower case. -/
theorem Text.asciiUpperChar_range {c : Char} (plain : isAsciiLetter c || isAsciiDigit c) :
    'A' ≤ asciiUpperChar c ∧ asciiUpperChar c ≤ 'Z'
      ∨ '0' ≤ asciiUpperChar c ∧ asciiUpperChar c ≤ '9' := by
  unfold asciiUpperChar
  split
  case isTrue lower =>
    -- The letters in lower case are few enough to go through.
    have upper : ∀ code ≤ 122, 97 ≤ code →
        'A' ≤ Char.ofNat (code - 32) ∧ Char.ofNat (code - 32) ≤ 'Z' := by decide
    exact .inl (upper c.toNat lower.2 lower.1)
  case isFalse notLower =>
    -- A letter in upper case and a digit stay as they are.
    simpa [isAsciiLetter, isAsciiDigit, notLower] using plain

namespace Survival.Game

/-- Where the length of an interval is given; older designs give it in seconds or call it a window. -/
def intervalKeys : List NumberKey :=
  [.units "/rules/spawn/interval_ms", .thousands "/rules/spawn/intervalSeconds",
    .units "/rules/spawn/window_ms"]

/-- Where the increment of an interval is given. -/
def incrementKeys : List NumberKey :=
  [.units "/rules/spawn/add_per_interval", .units "/rules/spawn/addPerTick"]

/-- Where the number of objects that may live at once is given. -/
def limitKeys : List NumberKey :=
  [.units "/rules/limit/max_concurrent", .units "/rules/limit/concurrent_bubbles"]

/-- A survival game that can be played, with the numbers that its design gives in their ranges. -/
structure Fits (doc : Json) (game : Game) : Prop where
  scene : game.scene.Fits doc
  interval : doc.Ranged intervalKeys 100 600000 game.spawn.intervalMs
  limit : doc.Ranged limitKeys 1 10000 game.limit.maxConcurrent
  hasIncrement : game.spawn.addPerInterval.isSome ↔
    game.spawn.mode = .linear ∨ game.spawn.mode = .fixed
  increment : ∀ count ∈ game.spawn.addPerInterval, doc.Ranged incrementKeys 0 1000 count
  pauseKey : 'A' ≤ game.pauseKey ∧ game.pauseKey ≤ 'Z' ∨ '0' ≤ game.pauseKey ∧ game.pauseKey ≤ '9'

theorem firstRead?_intervalKeys (doc : Json) : firstRead? doc intervalKeys = interval? doc := by
  simp [intervalKeys, NumberKey.read?, interval?]

theorem firstRead?_incrementKeys (doc : Json) : firstRead? doc incrementKeys =
    (doc.numberAt? "/rules/spawn/add_per_interval" <|> doc.numberAt? "/rules/spawn/addPerTick") := by
  simp [incrementKeys, NumberKey.read?]

theorem firstRead?_limitKeys (doc : Json) : firstRead? doc limitKeys =
    (doc.numberAt? "/rules/limit/max_concurrent"
      <|> doc.numberAt? "/rules/limit/concurrent_bubbles") := by
  simp [limitKeys, NumberKey.read?]

theorem pauseKeyOf_range (doc : Json) :
    'A' ≤ pauseKeyOf doc ∧ pauseKeyOf doc ≤ 'Z' ∨ '0' ≤ pauseKeyOf doc ∧ pauseKeyOf doc ≤ '9' := by
  unfold pauseKeyOf
  split
  -- A plain character goes into upper case, and anything else gives way to the default key.
  case h_1 =>
    split
    case isTrue plain => exact asciiUpperChar_range plain
    case isFalse => decide
  case h_2 => decide

theorem fits_ofDesign (doc : Json) : (ofDesign doc).Fits doc where
  -- The default title is read off; it is not blank.
  scene := Scene.fits_ofDesign doc (by decide +kernel)
  interval := ranged_clamped (firstRead?_intervalKeys doc) (by decide) (by decide) (by decide)
  limit := ranged_clamped (firstRead?_limitKeys doc) (by decide) (by decide) (by decide)
  hasIncrement := by
    change (if (spawnRule doc).mode.isPerInterval then some _ else none : Option Nat).isSome ↔ _
    rw [Option.isSome_ite]
    -- The count is there exactly where the mode lets it through.
    exact SpawnMode.isPerInterval_iff
  increment := by
    -- There is a count in modes with an increment alone, and it is the one of the document.
    intro count given
    obtain ⟨-, same⟩ := Option.ite_none_right_eq_some.1 given
    rw [← Option.some.inj same]
    exact ranged_clamped (firstRead?_incrementKeys doc) (by decide) (by decide) (by decide)
  pauseKey := pauseKeyOf_range doc

end Survival.Game

namespace Sandbox.Game

/-- A sandbox that can be played, with the numbers that its design gives in their ranges. -/
structure Fits (doc : Json) (game : Game) : Prop where
  scene : game.scene.Fits doc
  speed : doc.Ranged [.units "/player/speed"] 0 2000 game.speed
  someControl : game.controls ≠ []
  controls : ∀ control ∈ game.controls, isBlankText control = false
  controller : isBlankText game.controller = false

theorem fits_ofDesign (doc : Json) : (ofDesign doc).Fits doc where
  scene := Scene.fits_ofDesign doc (by decide +kernel)
  speed := ranged_clamped (firstRead?_units ..) (by decide) (by decide) (by decide)
  someControl := by
    unfold ofDesign
    dsimp only
    split
    · -- Where no control has a proper name, a default one stands in.
      exact List.cons_ne_nil _ _
    · assumption
  controls := by
    intro control listed
    unfold ofDesign at listed
    dsimp only at listed
    split at listed
    · -- The default control has a name.
      rw [List.mem_singleton.1 listed]
      decide +kernel
    · -- Blank names were left out before.
      simpa using (List.mem_filter.1 listed).2
  controller := isBlankText_textAt? doc "/player/controller" (by decide +kernel)

end Sandbox.Game

/--
Every design gives a survival game and a sandbox that can be played.

Their numbers are in range and their texts are not blank, whatever the document holds. Where the
document gives a whole number in its range, under the current key or else under older ones, the game
has this very number.
-/
theorem games_fit (doc : Json) :
    (Survival.Game.ofDesign doc).Fits doc ∧ (Sandbox.Game.ofDesign doc).Fits doc :=
  ⟨Survival.Game.fits_ofDesign doc, Sandbox.Game.fits_ofDesign doc⟩

/-- Three tenths of a second are no float, and still an interval of three hundred milliseconds. -/
example : (Survival.Game.ofDesign (.obj [("rules", .obj [("spawn",
    .obj [("intervalSeconds", .str " 0.3 ")])])])).spawn.intervalMs = 300 := by
  decide +kernel

end Minigame
