import Minigame.Proofs.Digest
import Minigame.Proofs.Design.Projection
import Minigame.Proofs.Proposal.History

/-!
What the key of a request tells.

The bytes that are hashed for a key tell the projection of the document and the beginnings of the
prompt and of the summary. So does the key, as far as the hash tells these bytes apart.
-/

namespace Minigame.Proposal

open Minigame.Text

namespace Request

variable {settings : ProposalSettings} {request other : Request}

/-- The byte strings that are hashed for the key of a request. -/
def hashed (settings : ProposalSettings) (request : Request) : List (List UInt8) :=
  [Digest.documentBytes (Design.projection request.doc),
   Digest.partsBytes (request.keyParts settings)]

/-- Key parts that are the same belong to projections that say the same and to the same beginnings. -/
theorem keyInput_of_keyParts
    (apart : Digest.Apart (request.hashed settings ++ other.hashed settings))
    (same : request.keyParts settings = other.keyParts settings) :
    (Design.projection request.doc).SameContent (Design.projection other.doc)
      ∧ truncate settings.promptKeyChars request.prompt
        = truncate settings.promptKeyChars other.prompt
      ∧ truncate settings.summaryKeyChars request.summary
        = truncate settings.summaryKeyChars other.summary := by
  simp only [keyParts, List.cons.injEq, and_true] at same
  obtain ⟨digests, prompts, summaries⟩ := same
  -- The projection is told by its digest alone, the beginnings are told by their bytes.
  have projections := apart _ (by simp [hashed]) _ (by simp [hashed]) (Digest.eq_of_bytes digests)
  exact ⟨Digest.documentBytes_eq_iff.1 projections, utf8_inj prompts, utf8_inj summaries⟩

/-- Requests have one key exactly if what the key tells of them is the same. -/
theorem key_eq_iff
    (short : ∀ part ∈ request.keyParts settings, part.length < 2 ^ 64)
    (otherShort : ∀ part ∈ other.keyParts settings, part.length < 2 ^ 64)
    (apart : Digest.Apart (request.hashed settings ++ other.hashed settings)) :
    request.key settings = other.key settings ↔
      (Design.projection request.doc).SameContent (Design.projection other.doc)
        ∧ truncate settings.promptKeyChars request.prompt
          = truncate settings.promptKeyChars other.prompt
        ∧ truncate settings.summaryKeyChars request.summary
          = truncate settings.summaryKeyChars other.summary := by
  constructor
  · intro same
    -- Keys are digests of the parts, which the bytes tell as long as no length overflows.
    have bytes := apart _ (by simp [hashed]) _ (by simp [hashed]) same
    exact keyInput_of_keyParts apart (Digest.partsBytes_inj short otherShort bytes)
  · rintro ⟨projections, prompts, summaries⟩
    -- The digest of the projection and the bytes of both beginnings are the parts of the key.
    rw [key, key, keyParts, keyParts, Digest.ofJson, Digest.ofJson,
      Digest.documentBytes_eq_iff.2 projections, prompts, summaries]

end Request

/--
The key of a request identifies what it should.

The bytes that are hashed for a value are those of another one exactly if the two say the same, where
the order of the names in a mapping does not matter; for documents, which list the names in order,
exactly if they are the same. The bytes that are hashed for a list of parts are those of another list
exactly if the lists are the same. So two requests whose hashes do not collide have one key exactly if
they agree in the projection and in both beginnings.
-/
theorem key_identifies_request :
    (∀ a b : Json, Digest.documentBytes a = Digest.documentBytes b ↔ a.SameContent b)
      ∧ (∀ a b : Json, a.Ordered → b.Ordered →
        (Digest.documentBytes a = Digest.documentBytes b ↔ a = b))
      ∧ (∀ a b : List (List UInt8), (∀ part ∈ a, part.length < 2 ^ 64) →
        (∀ part ∈ b, part.length < 2 ^ 64) → (Digest.partsBytes a = Digest.partsBytes b ↔ a = b))
      ∧ ∀ (settings : ProposalSettings) (request other : Request),
        (∀ part ∈ request.keyParts settings, part.length < 2 ^ 64) →
        (∀ part ∈ other.keyParts settings, part.length < 2 ^ 64) →
        Digest.Apart (request.hashed settings ++ other.hashed settings) →
        (request.key settings = other.key settings ↔
          (Design.projection request.doc).SameContent (Design.projection other.doc)
            ∧ truncate settings.promptKeyChars request.prompt
              = truncate settings.promptKeyChars other.prompt
            ∧ truncate settings.summaryKeyChars request.summary
              = truncate settings.summaryKeyChars other.summary)
        ∧ (request.doc.Ordered → other.doc.Ordered →
          (request.key settings = other.key settings ↔
            Design.projection request.doc = Design.projection other.doc
              ∧ truncate settings.promptKeyChars request.prompt
                = truncate settings.promptKeyChars other.prompt
              ∧ truncate settings.summaryKeyChars request.summary
                = truncate settings.summaryKeyChars other.summary)) := by
  refine ⟨fun _ _ => Digest.documentBytes_eq_iff, ?documents, ?parts, ?keys⟩
  case documents =>
    intro a b orderedA orderedB
    -- For documents it does not matter how their mappings are ordered.
    rw [Digest.documentBytes_eq_iff, Json.SameContent.iff_eq orderedA orderedB]
  case parts =>
    intro a b small smallOther
    -- Equal lists have equal bytes, and the bytes tell the lists.
    exact ⟨Digest.partsBytes_inj small smallOther, congrArg _⟩
  case keys =>
    intro settings request other short otherShort apart
    have told := Request.key_eq_iff short otherShort apart
    refine ⟨told, fun ordered orderedOther => ?_⟩
    -- Projections of documents are documents, which are told by what they say.
    rw [told, Json.SameContent.iff_eq (Design.projection_ordered ordered)
      (Design.projection_ordered orderedOther)]

/--
A skin changes the document and not its projection; where the prompt ends changes the key, and the
order of the names in a mapping changes nothing.
-/
theorem key_identifies_request_reskinned :
    let mapping (first second : String) : Json := .obj [(first, .null), (second, .null)]
    let skinned (skin : String) : Json := .obj [("meta", .obj [("skin", .str skin)])]
    let request : Request := ⟨skinned "neon", "ab", "c"⟩
    let other : Request := ⟨skinned "bubble", "a", "bc"⟩
    Digest.documentBytes (mapping "a" "b") = Digest.documentBytes (mapping "b" "a")
      ∧ ¬ request.doc.SameContent other.doc
      ∧ Digest.partsBytes [utf8 "ab", utf8 "c"] ≠ Digest.partsBytes [utf8 "a", utf8 "bc"]
      ∧ Design.projection request.doc = Design.projection other.doc
      ∧ request.key .default ≠ other.key .default := by
  intro mapping skinned request other
  obtain ⟨contents, documents, parts, keys⟩ := key_identifies_request
  -- A mapping with one name is in order.
  have ordered (skin : String) : (skinned skin).Ordered := by
    have single {name : String} {value : Json} (fits : value.Ordered) :
        Json.Ordered (.obj [(name, value)]) :=
      .obj (List.pairwise_singleton ..) (by simpa using fits)
    exact single (single (.str skin))
  have projections : Design.projection request.doc = Design.projection other.doc := by decide
  have swapped : (mapping "a" "b").SameContent (mapping "b" "a") :=
    Json.canonical_eq_iff.1 (by decide)
  refine ⟨(contents _ _).2 swapped, fun same => ?_, fun same => ?_, projections, ?_⟩
  · -- The documents differ in their skins.
    have bytes := (contents _ _).2 same
    exact absurd ((documents _ _ (ordered "neon") (ordered "bubble")).1 bytes) (by decide)
  · exact absurd ((parts _ _ (by decide +kernel) (by decide +kernel)).1 same) (by decide +kernel)
  · -- The byte strings that are hashed are told by the first bytes of their digests.
    let source (digest : Digest) : List UInt8 :=
      if digest.bytes.head? = some 55 then Digest.documentBytes (Design.projection other.doc)
      else if digest.bytes.head? = some 152 then Digest.partsBytes (request.keyParts .default)
      else Digest.partsBytes (other.keyParts .default)
    have told : ∀ data ∈ request.hashed .default ++ other.hashed .default,
        source (Digest.compute data) = data := by decide +kernel
    have apart : Digest.Apart (request.hashed .default ++ other.hashed .default) := by
      intro data there another thereToo collide
      rw [← told data there, collide, told another thereToo]
    intro same
    obtain ⟨-, told⟩ := keys .default request other (by decide +kernel) (by decide +kernel) apart
    -- The prompts differ, although together with the summaries they are the same text.
    have texts := (told (ordered "neon") (ordered "bubble")).1 same
    exact absurd texts.2.1 (by decide)

end Minigame.Proposal
