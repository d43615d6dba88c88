import Minigame.Proofs.Design.Projection
import Minigame.Proofs.Proposal.Overrides

/-!
What the rules read of a document.

They read little more than its projection tells: only whether there is a part for the display, and
this decides about one operation alone.
-/

namespace Minigame.Proposal

open Minigame.Text

/-- Whether the rules turn the game of a document into one of survival. -/
def turns (doc : Json) (prompt : String) : Bool :=
  Phrase.isSurvivalPrompt prompt && Design.template doc != .bubbleClicker

/-- Whether a document has a part for the display. -/
def showsHud (doc : Json) : Bool :=
  (doc.pointer? "/hud").isSome

/-- The display that a game of survival gets. -/
def hudSeed : Operation :=
  put ["hud"] Hud.default.toJson

/-- What the rules say before they come to the display. -/
def beforeHud (doc : Json) (prompt : String) : Patch :=
  if turns doc prompt then
    [put ["meta", "template"] (.str Template.bubbleClicker.name)]
      ++ when (Design.title? doc).isNone (put ["meta", "title"] (.str (seedTitle prompt)))
      ++ when ((doc.pointer? "/rules/spawn").isNone && (Phrase.spawnRule? prompt).isNone)
        (put ["rules", "spawn"] SpawnRule.default.toJson)
  else []

/-- What the rules say after they came to the display. -/
def afterHud (doc : Json) (prompt : String) : Patch :=
  when (turns doc prompt && (doc.pointer? "/scene/hidpi").isNone)
      (put ["scene", "hidpi"] (.bool true))
    ++ if Phrase.isSurvivalPrompt prompt then
        seedLimit doc (Phrase.limit? prompt) (turns doc prompt)
      else []

/-- The rules look at the display in one place, between all else that they say. -/
theorem fallbackPatch_eq (doc : Json) (prompt : String) :
    fallbackPatch doc prompt = beforeHud doc prompt ++
      when (turns doc prompt && !showsHud doc) hudSeed ++ afterHud doc prompt := by
  -- One case for each answer to whether the prompt is about survival and whether the game turns.
  by_cases about : Phrase.isSurvivalPrompt prompt = true
  · by_cases switching : (Design.template doc != .bubbleClicker) = true
    · simp [fallbackPatch, seedSurvival, beforeHud, afterHud, turns, about, switching, showsHud,
        hudSeed]
    · simp [fallbackPatch, beforeHud, afterHud, turns, about, switching, when]
  · simp [fallbackPatch, beforeHud, afterHud, turns, about, when]

section

variable {doc other : Json} (same : Design.projection doc = Design.projection other)
include same

theorem turns_eq (prompt : String) : turns doc prompt = turns other prompt := by
  rw [turns, turns, Design.template_eq same]

/-- What is said before the display follows from the projection. -/
theorem beforeHud_eq (prompt : String) : beforeHud doc prompt = beforeHud other prompt := by
  have listed : ("rules", (Path.mk ["rules"]).text) ∈ Design.parts := by decide
  -- All three answers are read below parts that the projection keeps.
  have spawn : doc.pointer? "/rules/spawn" = other.pointer? "/rules/spawn" :=
    Design.pointer?_below same listed "spawn" []
  rw [beforeHud, beforeHud, turns_eq same, Design.title?_eq same, spawn]

/-- What is said after the display follows from the projection. -/
theorem afterHud_eq (prompt : String) : afterHud doc prompt = afterHud other prompt := by
  -- The limit and the resolution are read below parts that the projection keeps.
  have rules : ("rules", (Path.mk ["rules"]).text) ∈ Design.parts := by decide
  have limit : doc.pointer? "/rules/limit" = other.pointer? "/rules/limit" :=
    Design.pointer?_below same rules "limit" []
  have scene : ("scene", (Path.mk ["scene"]).text) ∈ Design.parts := by decide
  have hidpi : doc.pointer? "/scene/hidpi" = other.pointer? "/scene/hidpi" :=
    Design.pointer?_below same scene "hidpi" []
  rw [afterHud, afterHud, turns_eq same, hidpi, seedLimit, seedLimit, hasLimit, hasLimit, limit]

/-- The rules say the same about documents with one projection, unless only one lacks its display. -/
theorem fallbackPatch_eq_iff (prompt : String) :
    fallbackPatch doc prompt = fallbackPatch other prompt ↔
      (turns other prompt = true → showsHud doc = showsHud other) := by
  rw [fallbackPatch_eq, fallbackPatch_eq, beforeHud_eq same, afterHud_eq same, turns_eq same,
    List.append_left_inj, List.append_right_inj]
  -- The operation at the display is there under both conditions or under none.
  cases turns other prompt <;> cases showsHud doc <;> cases showsHud other <;> simp [when]

end

/--
What the rules and a prompt's own words add to a document depends on its projection and its display.

Of the display only its being there counts, be it null. The words are added for the template that the
document has after the rules, and this one may well differ.
-/
theorem rules_determined {doc other : Json}
    (same : Design.projection doc = Design.projection other)
    (hud : (doc.pointer? "/hud").isSome = (other.pointer? "/hud").isSome) (prompt : String) :
    fallbackPatch doc prompt = fallbackPatch other prompt
      ∧ overrides prompt (Design.template ((fallbackPatch doc prompt).apply doc))
        = overrides prompt (Design.template ((fallbackPatch other prompt).apply other))
      ∧ ∀ summary otherSummary : String,
        rulePatch ⟨doc, prompt, summary⟩ = rulePatch ⟨other, prompt, otherSummary⟩ := by
  have rules : fallbackPatch doc prompt = fallbackPatch other prompt :=
    (fallbackPatch_eq_iff same prompt).2 fun _ => hud
  -- The words of a prompt are taken the same way in games of every template.
  have words : overrides prompt (Design.template ((fallbackPatch doc prompt).apply doc))
      = overrides prompt (Design.template ((fallbackPatch other prompt).apply other)) :=
    overrides_template prompt _ _
  refine ⟨rules, words, fun summary otherSummary => ?_⟩
  rw [rulePatch, rulePatch, withOverrides, withOverrides, words, rules]

/-- Null and nothing are told apart at the display alone; only one of the games gets its template. -/
theorem rules_determined_null :
    let doc := Json.obj [("hud", .null), ("meta", .str "maze"), ("rules", .null)]
    let other := Json.obj [("hud", Hud.default.toJson), ("meta", .obj [("title", .null)])]
    let prompt := "turn them into dragons, pop!"
    let patch := fallbackPatch doc prompt
    Design.template (patch.apply doc) ≠ Design.template (patch.apply other)
      ∧ fallbackPatch other prompt = patch
      ∧ rulePatch ⟨other, prompt, ""⟩ = patch ++ [put ["meta", "skin"] (.str "bubble")] := by
  intro doc other prompt patch
  -- The documents have one projection and both have something at the display.
  obtain ⟨rules, -, whole⟩ :=
    rules_determined (show Design.projection doc = Design.projection other by decide)
      (show (doc.pointer? "/hud").isSome = (other.pointer? "/hud").isSome by decide) prompt
  refine ⟨by decide +kernel, rules.symm, ?_⟩
  rw [← whole "" ""]
  decide +kernel

/-- The operations of a patch apart from those at the display itself. -/
def besideHud (patch : Patch) : Patch :=
  patch.filter (·.path ≠ ⟨["hud"]⟩)

theorem besideHud_append (first second : Patch) :
    besideHud (first ++ second) = besideHud first ++ besideHud second :=
  List.filter_append ..

/-- The display is looked at in one place of what the rules say with all overrides. -/
theorem rulePatch_eq (request : Request) :
    rulePatch request = beforeHud request.doc request.prompt ++
      when (turns request.doc request.prompt && !showsHud request.doc) hudSeed ++
      (afterHud request.doc request.prompt ++ overrides request.prompt .sandbox) := by
  rw [rulePatch, withOverrides, fallbackPatch_eq, overrides_template request.prompt _ .sandbox,
    List.append_assoc _ (afterHud ..)]

section

variable {request other : Request}
  (same : Design.projection request.doc = Design.projection other.doc)
  (prompt : request.prompt = other.prompt)
include same prompt

/-- Beside the display the rules say the same about documents with one projection. -/
theorem besideHud_rulePatch_eq : besideHud (rulePatch request) = besideHud (rulePatch other) := by
  -- The one operation that may differ is left out.
  have hidden : ∀ condition, besideHud (when condition hudSeed) = [] := by
    intro condition
    cases condition <;> rfl
  simp only [rulePatch_eq, besideHud_append, hidden, beforeHud_eq same, afterHud_eq same, prompt]

/-- The rules say the same about documents with one projection, unless only one lacks its display. -/
theorem rulePatch_eq_iff : rulePatch request = rulePatch other ↔
    (turns other.doc other.prompt = true → showsHud request.doc = showsHud other.doc) := by
  rw [rulePatch, rulePatch, withOverrides, withOverrides, prompt,
    overrides_template other.prompt _ (Design.template _), List.append_left_inj,
    fallbackPatch_eq_iff same]

end

end Minigame.Proposal
