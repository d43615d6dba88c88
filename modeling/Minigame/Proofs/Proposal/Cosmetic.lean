import Minigame.Proofs.Design.Projection
import Minigame.Proofs.Patch.Added
import Minigame.Proofs.Proposal.History

/-!
Patches that no key shows.

The key of a request looks at six places of its document. A patch that works apart from all of them,
be it at the skin, at the display or in the notes, leaves the key as it is.
-/

namespace Minigame

/-- All operations work apart from the places that the projection of a document keeps. -/
def Patch.Cosmetic (patch : Patch) : Prop :=
  ∀ operation ∈ patch, ∀ place ∈ Design.places, operation.Apart place

instance (patch : Patch) : Decidable patch.Cosmetic :=
  inferInstanceAs (Decidable (∀ operation ∈ patch, ∀ place ∈ Design.places, _))

/-- A place that the projection keeps is named by no number. -/
theorem Design.named_of_mem_places :
    ∀ place ∈ Design.places, place ≠ [] ∧ ∀ segment ∈ place, Json.segmentIndex? segment = none := by
  -- Six places, and none of their segments is a numeral.
  decide

/-- Cosmetic patches leave what the projection keeps, whatever kind of value the document is. -/
theorem Patch.Cosmetic.projection_apply {patch : Patch} (cosmetic : patch.Cosmetic) (doc : Json) :
    Design.projection (patch.apply doc) = Design.projection doc := by
  refine Design.projection_congr fun place kept => ?_
  -- The projection reads only its places, and the patch works apart from each of them.
  obtain ⟨below, named⟩ := Design.named_of_mem_places place kept
  have apart : ∀ operation ∈ patch, operation.Apart place :=
    fun operation listed => cosmetic operation listed place kept
  calc (patch.apply doc).at? place
      = (Patch.run patch (Patch.base doc)).at? place := by rw [Patch.apply_eq_run]
    -- From the base of the document on, each operation leaves the place alone.
    _ = (Patch.base doc).at? place := Patch.run_apart apart named
    _ = doc.at? place := Patch.at?_base below named doc

namespace Proposal

/--
A cosmetic patch keeps the projection of every document and the key of every request for it.

So a proposal that was kept for the document is given out for the patched one as well.
-/
theorem cosmetic_keeps_key {patch : Patch} (cosmetic : patch.Cosmetic) (doc : Json) :
    Design.projection (patch.apply doc) = Design.projection doc
      ∧ ∀ (settings : ProposalSettings) (prompt summary : String),
        Request.key settings ⟨patch.apply doc, prompt, summary⟩ =
          Request.key settings ⟨doc, prompt, summary⟩ := by
  have same := cosmetic.projection_apply doc
  -- A key sees of the document what the projection keeps.
  refine ⟨same, fun settings prompt summary => Request.key_of_keyInput ?_⟩
  rw [Request.keyInput, Request.keyInput, same]

/-- A skin where there was null, a display less, an entity more, and a note that is skipped. -/
theorem cosmetic_keeps_key_restyled :
    let doc := Json.obj
      [("entities", .arr [.null]), ("hud", .null), ("meta", .null), ("rules", .arr [.nat 3])]
    let patch : Patch :=
      [.add ⟨["meta", "skin"]⟩ (.str "slime"), .remove ⟨["hud"]⟩, .add ⟨["entities", "-"]⟩ .null,
       .replace ⟨["notes", "0"]⟩ (.str "red"), .add ⟨["meta", "titles"]⟩ (.arr [])]
    (patch.applyWithReport doc).2.applied = 4
      ∧ (patch.apply doc).at? ["meta", "skin"] = some (.str "slime")
      ∧ ∀ settings, Request.key settings ⟨patch.apply doc, "pop", "so far"⟩ =
        Request.key settings ⟨doc, "pop", "so far"⟩ := by
  intro doc patch
  have cosmetic : patch.Cosmetic := by decide
  refine ⟨by decide, by decide, fun settings => ?_⟩
  exact (cosmetic_keeps_key cosmetic doc).2 settings "pop" "so far"

end Proposal

end Minigame
