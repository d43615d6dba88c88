import Minigame.Proofs.Proposal.Seeding
import Minigame.Session.Change

/-!
What a turn makes of the document of its game.

Every document that a game can have says what the game is about in a mapping. So what the two
operations of direct mode put there is found there, and so is the template of a game about bubbles.
-/

namespace Minigame

open Minigame.Text Minigame.Proposal

/-- A new game says what it is about in a mapping. -/
theorem Design.starter_hasSection (prompt : String) : (Design.starter prompt).HasSection "meta" :=
  ⟨_, rfl⟩

section

variable {doc : Json} (has : doc.HasSection "meta") (prompt : String)
include has

theorem ensureBubbles_hasSection : (ensureBubbles prompt doc).HasSection "meta" := by
  unfold ensureBubbles
  split
  · exact has
  · -- Both operations work inside the mapping.
    refine Patch.hasSection_apply has fun operation listed => ?_
    rcases List.mem_cons.1 listed with rfl | title
    · simp
    · rw [mem_when title]
      simp

/-- A game that is made one about bubbles is changed at its template and its title alone. -/
theorem at?_ensureBubbles {kept : List String}
    (apart : ∀ spot ∈ [["meta", "template"], ["meta", "title"]], ¬ spot <+: kept ∧ ¬ kept <+: spot)
    (named : ∀ segment ∈ kept, Json.segmentIndex? segment = none) :
    (ensureBubbles prompt doc).at? kept = doc.at? kept := by
  unfold ensureBubbles
  split
  · rfl
  · refine Patch.at?_apply has (fun operation listed => ?_) named
    rcases List.mem_cons.1 listed with rfl | title
    · exact apart _ (by simp)
    · rw [mem_when title]
      exact apart _ (by simp)

theorem directModePatch_hasSection : ((directModePatch prompt).apply doc).HasSection "meta" := by
  refine Patch.hasSection_apply has fun operation listed => ?_
  simp only [directModePatch, List.mem_cons, List.not_mem_nil, or_false] at listed
  rcases listed with rfl | rfl <;> simp

/-- A turn in direct mode says so in the document. -/
theorem at?_directModePatch :
    ((directModePatch prompt).apply doc).at? ["meta", "direct_mode"] = some (.bool true) := by
  -- The flag is set first, and the prompt that is kept behind it lies beside.
  refine Patch.at?_apply_put has (fun operation listed => ?_) (by decide)
  cases List.mem_singleton.1 listed
  exact ⟨by simp, by simp⟩

end

/-- The document after a turn is that of the patch, or a game about bubbles is made of it. -/
theorem GameRecord.next_fst (record : GameRecord) (prompt : String) (compiles : Bool)
    (patch : Patch) :
    (record.next prompt compiles patch).1 =
      if compiles then ensureBubbles prompt (patch.apply (record.current prompt))
      else patch.apply (record.current prompt) := rfl

/-- A document has a mapping for what its game is about, and a display in a survival game alone. -/
structure Seeded (doc : Json) : Prop where
  mapping : doc.HasSection "meta"
  display : showsHud doc = true → Design.template doc = .bubbleClicker

namespace Seeded

/-- A new game has no display. -/
theorem starter (prompt : String) : Seeded (Design.starter prompt) where
  mapping := Design.starter_hasSection prompt
  display shown := by
    have none : showsHud (Design.starter prompt) = false := rfl
    simp [none] at shown

variable {doc : Json} (seeded : Seeded doc)
include seeded

/-- What leaves the template and the display alone keeps a document seeded. -/
theorem of_at?_eq {other : Json} (mapping : other.HasSection "meta")
    (template : other.at? ["meta", "template"] = doc.at? ["meta", "template"])
    (hud : other.at? ["hud"] = doc.at? ["hud"]) : Seeded other where
  mapping := mapping
  display shown := by
    rw [showsHud_congr hud] at shown
    rw [Design.template_congr template, seeded.display shown]

/-- Direct mode works beside the template and the display. -/
theorem directModePatch (prompt : String) :
    Seeded ((Proposal.directModePatch prompt).apply doc) := by
  have spots : ∀ operation ∈ Proposal.directModePatch prompt,
      operation.path.segments ∈ [["meta", "direct_mode"], ["meta", "raw_prompt"]] := by
    simp [Proposal.directModePatch]
  have apart : ∀ spot ∈ [["meta", "direct_mode"], ["meta", "raw_prompt"]],
      ∀ kept ∈ [["meta", "template"], ["hud"]], ¬ spot <+: kept ∧ ¬ kept <+: spot := by decide
  have mapping := directModePatch_hasSection seeded.mapping prompt
  refine seeded.of_at?_eq mapping ?_ ?_
  · exact Patch.at?_apply seeded.mapping
      (fun operation listed => apart _ (spots operation listed) _ (by simp)) (by decide)
  · exact Patch.at?_apply seeded.mapping
      (fun operation listed => apart _ (spots operation listed) _ (by simp)) (by decide)

/-- Without a template there is no display, so a game may become one about bubbles. -/
theorem ensureBubbles (prompt : String) : Seeded (Minigame.ensureBubbles prompt doc) := by
  by_cases named : Design.hasTemplate doc = true
  · have same : Minigame.ensureBubbles prompt doc = doc := by simp [Minigame.ensureBubbles, named]
    rwa [same]
  · -- What shows a display has a template already, so there is nothing left to show one.
    -- The display itself is not touched.
    refine ⟨ensureBubbles_hasSection seeded.mapping prompt, fun shown => ?_⟩
    have hud : (Minigame.ensureBubbles prompt doc).at? ["hud"] = doc.at? ["hud"] :=
      at?_ensureBubbles seeded.mapping prompt (by decide) (by decide)
    rw [showsHud_congr hud] at shown
    have template := seeded.display shown
    simp_all [Design.template, Design.hasTemplate]

/-- The rules put a display only where they make the game one of survival, whatever they were asked. -/
theorem rulePatch (request : Request) : Seeded ((Proposal.rulePatch request).apply doc) := by
  have mapping : ((Proposal.rulePatch request).apply doc).HasSection "meta" := by
    have beside : ∀ spot ∈ ["meta", "template"] :: ruleSpots, spot ≠ ["meta"] := by decide
    exact Patch.hasSection_apply seeded.mapping fun operation listed =>
      beside _ (mem_rulePatch listed)
  obtain ⟨rest, same, spots⟩ := rulePatch_seeds request
  have apart : ∀ spot ∈ ruleSpots,
      ¬ spot <+: ["meta", "template"] ∧ ¬ ["meta", "template"] <+: spot := by decide
  rw [same] at mapping ⊢
  cases turning : turns request.doc request.prompt with
  | true =>
    -- The template is set first and by nothing behind.
    simp only [turning, when, if_true, List.singleton_append, templateSeed] at mapping ⊢
    refine ⟨mapping, fun _ => Design.template_eq_bubbleClicker ?_⟩
    exact Patch.at?_apply_put seeded.mapping
      (fun operation listed => apart _ (spots operation listed).1) (by decide)
  | false =>
    -- Nothing works at the template or at the display.
    simp only [turning, when, Bool.false_eq_true, if_false, List.nil_append, imp_false]
      at mapping spots ⊢
    have beside : ∀ spot ∈ ruleSpots, spot ≠ ["hud"] → ¬ spot <+: ["hud"] ∧ ¬ ["hud"] <+: spot := by
      decide
    refine seeded.of_at?_eq mapping ?_ ?_
    · exact Patch.at?_apply seeded.mapping
        (fun operation listed => apart _ (spots operation listed).1) (by decide)
    · exact Patch.at?_apply seeded.mapping (fun operation listed =>
        beside _ (spots operation listed).1 (spots operation listed).2) (by decide)

end Seeded

/-- Turns in direct mode and turns that the rules decide leave seeded documents. -/
theorem GameRecord.next_seeded (record : GameRecord) {prompt : String}
    (seeded : Seeded (record.current prompt)) (compiles : Bool) {patch : Patch}
    (made : patch = directModePatch prompt ∨ ∃ request, patch = rulePatch request) :
    Seeded (record.next prompt compiles patch).1 := by
  -- What is done to a game about bubbles keeps what the patch has left.
  have patched : Seeded (patch.apply (record.current prompt)) := by
    rcases made with rfl | ⟨request, rfl⟩
    · exact seeded.directModePatch prompt
    · exact seeded.rulePatch request
  rw [next_fst]
  cases compiles with
  | false => exact patched
  | true => exact patched.ensureBubbles prompt

end Minigame
