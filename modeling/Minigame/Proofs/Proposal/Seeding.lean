import Minigame.Proofs.Patch.Frame
import Minigame.Proofs.Proposal.Rules

/-!
Where the operations of the rules work, and what they make of a document.

A game gets a display from the rules only when they make it one of survival, which is what its
template says from then on.
-/

namespace Minigame

open Minigame.Text

namespace Design

variable {doc other : Json}

/-- The template is what is read at one place. -/
theorem template_congr (same : doc.at? ["meta", "template"] = other.at? ["meta", "template"]) :
    template doc = template other := by
  have read : doc.pointer? "/meta/template" = other.pointer? "/meta/template" :=
    Json.pointer?_congr same
  rw [template, template, Json.textAt?, Json.textAt?, read]

/-- A document with the template of survival games is one of a survival game. -/
theorem template_eq_bubbleClicker
    (there : doc.at? ["meta", "template"] = some (.str Template.bubbleClicker.name)) :
    template doc = .bubbleClicker := by
  have read : doc.pointer? "/meta/template" = some (.str Template.bubbleClicker.name) :=
    (Json.pointer?_text ⟨["meta", "template"]⟩ doc).trans there
  rw [template, Json.textAt?, read]
  -- The name is read back to the template.
  decide

end Design

namespace Proposal

theorem showsHud_congr {doc other : Json} (same : doc.at? ["hud"] = other.at? ["hud"]) :
    showsHud doc = showsHud other := by
  have read : doc.pointer? "/hud" = other.pointer? "/hud" := Json.pointer?_congr same
  rw [showsHud, showsHud, read]

/-- The operation that makes a game one of survival. -/
def templateSeed : Operation :=
  put ["meta", "template"] (.str Template.bubbleClicker.name)

/-- The places beside the template that the rules work at. -/
def ruleSpots : List (List String) :=
  [["meta", "title"], ["meta", "skin"], ["hud"], ["scene", "hidpi"], ["rules", "spawn"],
   ["rules", "limit"], ["rules", "limit", "max_concurrent"]]

@[simp] theorem path_put (segments : List String) (value : Json) :
    (put segments value).path = ⟨segments⟩ := rfl

theorem mem_when_iff {condition : Bool} {operation other : Operation} :
    operation ∈ when condition other ↔ condition = true ∧ operation = other := by
  cases condition <;> simp [when]

theorem mem_when {condition : Bool} {operation other : Operation}
    (listed : operation ∈ when condition other) : operation = other :=
  (mem_when_iff.1 listed).2

theorem mem_overrides_iff {prompt : String} {template : Template} {operation : Operation} :
    operation ∈ overrides prompt template ↔
      (∃ skin, Phrase.skin? prompt template = some skin ∧
        put ["meta", "skin"] (.str skin.name) = operation) ∨
      ∃ rule, Phrase.spawnRule? prompt = some rule ∧
        put ["rules", "spawn"] rule.toJson = operation := by
  simp [overrides]

/-- What a prompt says outright works at the skin and at the spawn rule. -/
theorem mem_overrides {prompt : String} {template : Template} {operation : Operation}
    (listed : operation ∈ overrides prompt template) :
    operation.path.segments ∈ [["meta", "skin"], ["rules", "spawn"]] := by
  -- There are two operations, each at its place.
  rcases mem_overrides_iff.1 listed with ⟨skin, _, rfl⟩ | ⟨rule, _, rfl⟩ <;> simp

/-- A limit is set as a whole or, where there is one, in part. -/
theorem mem_seedLimit_iff {doc : Json} {limit : Option Nat} {switching : Bool}
    {operation : Operation} : operation ∈ seedLimit doc limit switching ↔
      (hasLimit doc = true ∧ ∃ count, limit = some count ∧
        put ["rules", "limit", "max_concurrent"] (.nat count) = operation) ∨
      (hasLimit doc = false ∧ (switching = true ∨ limit.isSome = true) ∧
        operation = put ["rules", "limit"] (limitRuleOf limit).toJson) := by
  unfold seedLimit
  split
  · next limited => simp [limited]
  · next unlimited => simp [unlimited, mem_when_iff]

theorem mem_seedLimit {doc : Json} {limit : Option Nat} {switching : Bool} {operation : Operation}
    (listed : operation ∈ seedLimit doc limit switching) :
    operation.path.segments ∈ [["rules", "limit"], ["rules", "limit", "max_concurrent"]] := by
  -- One of the two operations is there at most.
  rcases mem_seedLimit_iff.1 listed with ⟨_, count, _, rfl⟩ | ⟨_, _, rfl⟩ <;> simp

/-- What the rules say after the display works at the screen and at the limit. -/
theorem mem_afterHud {doc : Json} {prompt : String} {operation : Operation}
    (listed : operation ∈ afterHud doc prompt) :
    operation.path.segments ∈
      [["scene", "hidpi"], ["rules", "limit"], ["rules", "limit", "max_concurrent"]] := by
  rw [afterHud, List.mem_append] at listed
  -- The limit is spoken of in games of survival alone.
  rcases listed with screen | limit
  · -- The screen is set at its own place.
    rw [mem_when screen]
    simp
  · split at limit
    · exact List.mem_cons_of_mem _ (mem_seedLimit limit)
    · cases limit

/--
The rules set the template in front of all else, and there is a display among the rest only then.
-/
theorem rulePatch_seeds (request : Request) :
    ∃ rest, rulePatch request = when (turns request.doc request.prompt) templateSeed ++ rest ∧
      ∀ operation ∈ rest, operation.path.segments ∈ ruleSpots ∧
        (operation.path.segments = ["hud"] → turns request.doc request.prompt = true) := by
  -- What stands behind the display is the same in both cases.
  have behind : ∀ operation ∈ afterHud request.doc request.prompt ++
      overrides request.prompt .sandbox, operation.path.segments ∈ ruleSpots ∧
        operation.path.segments ≠ ["hud"] := by
    intro operation listed
    rcases List.mem_append.1 listed with after | outright
    · have spots : ∀ spot ∈ [["scene", "hidpi"], ["rules", "limit"],
          ["rules", "limit", "max_concurrent"]], spot ∈ ruleSpots ∧ spot ≠ ["hud"] := by decide
      exact spots _ (mem_afterHud after)
    · have spots : ∀ spot ∈ [["meta", "skin"], ["rules", "spawn"]],
          spot ∈ ruleSpots ∧ spot ≠ ["hud"] := by decide
      exact spots _ (mem_overrides outright)
  -- The display, and what stands in front of it, is there for a new game of survival alone.
  rw [rulePatch_eq, beforeHud]
  cases same : turns request.doc request.prompt with
  -- A game that stays what it is gets no display from the rules.
  | false =>
    refine ⟨_, rfl, fun operation listed => ?_⟩
    obtain ⟨spot, other⟩ := behind operation listed
    exact ⟨spot, fun display => absurd display other⟩
  | true =>
    simp only [if_true, List.append_assoc]
    refine ⟨_, rfl, fun operation listed => ⟨?_, fun _ => trivial⟩⟩
    simp only [List.mem_append] at listed
    -- The places of the new game's own parts are read off one by one.
    rcases listed with title | spawn | display | rest
    · rw [mem_when title]
      simp [ruleSpots]
    · rw [mem_when spawn]
      simp [ruleSpots]
    · rw [mem_when display]
      -- The display is set, and this is the case in which it may be.
      decide
    · exact (behind operation (List.mem_append.2 rest)).1

/-- The rules work at the template and at the places beside it. -/
theorem mem_rulePatch {request : Request} {operation : Operation}
    (listed : operation ∈ rulePatch request) :
    operation.path.segments ∈ ["meta", "template"] :: ruleSpots := by
  obtain ⟨rest, same, spots⟩ := rulePatch_seeds request
  rw [same, List.mem_append] at listed
  -- It is the operation for the template or one of the rest.
  rcases listed with seed | other
  · rw [mem_when seed]
    decide
  · exact List.mem_cons_of_mem _ (spots operation other).1

end Proposal

end Minigame
