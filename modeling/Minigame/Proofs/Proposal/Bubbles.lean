import Minigame.Proofs.Proposal.Seeding
import Minigame.Proofs.Text.Pattern

/-!
Prompts about bubbles are prompts about survival games.

Each word that mentions bubbles is a word of survival games. So a game has a template after the
rules have answered such a prompt: they put it there, or they found it there.
-/

namespace Minigame

open Minigame.Text Minigame.Proposal

namespace Text.Pattern

/-- Whatever one pattern fits, another one fits. -/
def Within (inner outer : Pattern) : Prop :=
  ∀ place, ∀ later ∈ inner.ends place, later ∈ outer.ends place

theorem Within.choice {patterns others : List Pattern} (listed : patterns ⊆ others) :
    (choice patterns).Within (choice others) := by
  intro place later fits
  obtain ⟨pattern, there, fits⟩ := mem_ends_choice.1 fits
  exact mem_ends_choice.2 ⟨pattern, listed there, fits⟩

section

variable {inner outer : Pattern} (within : inner.Within outer)
include within

/-- Whole words that fit one pattern fit the other as whole words. -/
theorem Within.whole : (whole inner).Within (whole outer) := by
  intro place later fits
  simp only [Pattern.whole, ends, List.mem_flatMap] at fits ⊢
  obtain ⟨first, front, last, fits, back⟩ := fits
  -- In front of the word and behind it nothing changes.
  exact ⟨first, front, last, within first last fits, back⟩

theorem Within.findFrom?_isSome {before : Option Char} {text : List Char}
    (found : (inner.findFrom? before text).isSome = true) :
    (outer.findFrom? before text).isSome = true := by
  -- Where the one fits, at the same place, the other one does.
  have here (place : Place) (fits : (inner.ends place).head?.isSome = true) :
      (outer.ends place).head?.isSome = true := by
    rw [List.isSome_head?] at fits ⊢
    obtain ⟨later, listed⟩ := List.exists_mem_of_ne_nil _ (by simpa using fits)
    simpa using List.ne_nil_of_mem (within place later listed)
  induction text generalizing before with
  | nil => exact here _ found
  | cons c rest ih =>
    rw [findFrom?, Option.orElse_eq_orElse, Option.orElse_eq_or, Option.isSome_or,
      Bool.or_eq_true] at found ⊢
    exact found.imp (here _) ih

/-- In a text that has a fit of one pattern there is one of the other. -/
theorem Within.occursIn {text : String} (occurs : inner.occursIn text = true) :
    outer.occursIn text = true :=
  within.findFrom?_isSome occurs

end

end Text.Pattern

/-- A prompt that mentions bubbles is one about a survival game. -/
theorem Phrase.isSurvivalPrompt_of_mentionsBubbles {prompt : String}
    (mentions : mentionsBubbles prompt = true) : isSurvivalPrompt prompt = true := by
  -- Bubbles are one of the looks that objects may have, and the verbs are the same.
  have words : Pattern.noun "bubble" :: bubbleVerbs ⊆
      bubbleVerbs ++ Skin.all.map fun skin => Pattern.noun skin.name := by
    refine List.cons_subset.2 ⟨List.mem_append_right _ ?_, List.subset_append_left _ _⟩
    exact List.mem_map.2 ⟨.bubble, by decide, rfl⟩
  have occurs : survivalWord.occursIn prompt = true :=
    (Pattern.Within.choice words).whole.occursIn mentions
  rw [isSurvivalPrompt, occurs, Bool.true_or]

namespace Design

variable {doc other : Json}

/-- Whether there is a template is read at one place. -/
theorem hasTemplate_congr (same : doc.at? ["meta", "template"] = other.at? ["meta", "template"]) :
    hasTemplate doc = hasTemplate other := by
  have read : doc.pointer? "/meta/template" = other.pointer? "/meta/template" :=
    Json.pointer?_congr same
  rw [hasTemplate, hasTemplate, Json.textAt?, Json.textAt?, read]

/-- Only a document that names a template is one of a survival game. -/
theorem hasTemplate_of_bubbleClicker (template : template doc = .bubbleClicker) :
    hasTemplate doc = true := by
  unfold Design.template at template
  -- Without a name the template is that of other games.
  cases named : doc.textAt? "/meta/template" with
  | none => simp [named] at template
  | some name => simp [hasTemplate, named]

end Design

/-- The rules' answer to a prompt about bubbles leaves a game with a template. -/
theorem Proposal.hasTemplate_rulePatch {doc : Json} {request : Request}
    (mapping : doc.HasSection "meta") (same : Design.projection doc = Design.projection request.doc)
    (mentions : Phrase.mentionsBubbles request.prompt = true) :
    Design.hasTemplate ((rulePatch request).apply doc) = true := by
  -- A prompt about bubbles is one about survival games, so only the template is in question.
  have about := Phrase.isSurvivalPrompt_of_mentionsBubbles mentions
  obtain ⟨rest, made, spots⟩ := rulePatch_seeds request
  have apart : ∀ spot ∈ ruleSpots,
      ¬ spot <+: ["meta", "template"] ∧ ¬ ["meta", "template"] <+: spot := by decide
  rw [made]
  cases turning : turns request.doc request.prompt with
  | true =>
    -- The template is set first and by nothing behind.
    refine Design.hasTemplate_of_bubbleClicker (Design.template_eq_bubbleClicker ?_)
    simp only [when, if_true, List.singleton_append, templateSeed]
    exact Patch.at?_apply_put mapping
      (fun operation listed => apart _ (spots operation listed).1) (by decide)
  | false =>
    -- The game was one of survival before, and nothing works at its template.
    have template : Design.template doc = .bubbleClicker := by
      rw [Design.template_eq same]
      simpa [turns, about] using turning
    have kept : ((rest : Patch).apply doc).at? ["meta", "template"] =
        doc.at? ["meta", "template"] :=
      Patch.at?_apply mapping (fun operation listed => apart _ (spots operation listed).1)
        (by decide)
    simp only [when, Bool.false_eq_true, if_false, List.nil_append]
    rw [Design.hasTemplate_congr kept, Design.hasTemplate_of_bubbleClicker template]

end Minigame
