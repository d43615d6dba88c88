import Minigame.Proofs.Patch.Sections
import Minigame.Proofs.Proposal.Forgetting

/-!
What a prompt says outright about the skin and about spawning.

It goes behind every patch when a proposal is settled, so nothing in the patch can undo it. A kept
proposal is given out as it is, and the prompt that is heeded then is the one it was settled for.
-/

namespace Minigame

namespace Proposal

/-- No template has a skin of its own, so what a prompt says outright is the same for all. -/
theorem skin?_template (prompt : String) (template other : Template) :
    Phrase.skin? prompt template = Phrase.skin? prompt other := rfl

theorem overrides_template (prompt : String) (template other : Template) :
    overrides prompt template = overrides prompt other := rfl

/-- A document has what a prompt says outright wherever it has a mapping to hold it. -/
structure Heeds (prompt : String) (doc : Json) : Prop where
  spawn : ∀ rule fields, Phrase.spawnRule? prompt = some rule →
    doc.pointer? "/rules" = some (.obj fields) → doc.pointer? "/rules/spawn" = some rule.toJson
  skin : ∀ template skin fields, Phrase.skin? prompt template = some skin →
    doc.pointer? "/meta" = some (.obj fields) → doc.pointer? "/meta/skin" = some (.str skin.name)

/-- Whatever a patch does, a document heeds the prompt whose outright words stand behind the patch. -/
theorem heeds_overrides (patch : Patch) (prompt : String) (template : Template) (doc : Json) :
    Heeds prompt ((patch ++ overrides prompt template).apply doc) := by
  -- The skin is the last thing put in one section and the rule is the last thing put in the other.
  constructor
  · intro rule named stated mapping
    have last : Patch.within "rules" (patch ++ overrides prompt template) =
        patch.within "rules" ++ [put ["rules", "spawn"] rule.toJson] := by
      cases Phrase.skin? prompt template <;>
        simp [Patch.within, overrides, stated, put, Operation.path, Path.startsWith]
    exact Patch.read_added_last last mapping
  · intro other skin named stated mapping
    have last : Patch.within "meta" (patch ++ overrides prompt template) =
        patch.within "meta" ++ [put ["meta", "skin"] (.str skin.name)] := by
      rw [skin?_template prompt other template] at stated
      cases Phrase.spawnRule? prompt <;>
        simp [Patch.within, overrides, stated, put, Operation.path, Path.startsWith]
    exact Patch.read_added_last last mapping

/-- A proposal that is settled for a request makes every document heed the request's prompt. -/
theorem settle_heeds (request : Request) (contribution : Contribution) (doc : Json) :
    Heeds request.prompt ((settle request contribution).patch.apply doc) := by
  rw [settle_patch]
  exact heeds_overrides _ request.prompt _ doc

/-- Two prompts that state the same rule and ask for the same skin. -/
structure SameWords (prompt other : String) : Prop where
  spawn : Phrase.spawnRule? prompt = Phrase.spawnRule? other
  skin : ∀ template, Phrase.skin? prompt template = Phrase.skin? other template

/-- What heeds a prompt heeds every other one that states the same. -/
theorem Heeds.of_sameWords {prompt other : String} {doc : Json} (heeds : Heeds other doc)
    (same : SameWords prompt other) : Heeds prompt doc where
  spawn rule fields stated := heeds.spawn rule fields (same.spawn ▸ stated)
  skin template skin fields stated := heeds.skin template skin fields (same.skin template ▸ stated)

namespace Resolver

/--
What a prompt says outright wins over everything that a service or a document says.

With a proposal from the store it is the prompt of the call that put it there that wins, and a call's
own prompt wins as well if it states the same. So it is however much the store forgets.
-/
theorem prompt_heeded {σ : Type} {resolver : Resolver σ} {contents : σ → Contents}
    (lossy : resolver.store.Lossy contents) {earlier later : List (Call σ)} {call : Call σ}
    {after : Memory σ} (run : resolver.Run contents (earlier ++ call :: later) after) {key : Digest}
    (used : call.request.usedKey? resolver.settings = some key) :
    let doc := call.proposal.patch.apply call.request.doc
    ∃ writer, writer? resolver.settings key (earlier ++ [call]) = some writer ∧
      Heeds writer.request.prompt doc ∧
      (SameWords call.request.prompt writer.request.prompt → Heeds call.request.prompt doc) := by
  intro doc
  obtain ⟨writer, found, settled, patch⟩ := run.settled lossy used
  have heeds : Heeds writer.request.prompt doc := by
    -- The bounded request has the prompt of the request itself.
    rw [show doc = writer.proposal.patch.apply call.request.doc by rw [← patch], settled]
    exact settle_heeds (writer.request.bounded resolver.settings) _ call.request.doc
  exact ⟨writer, found, heeds, heeds.of_sameWords⟩

/-- A request that is made again heeds its prompt, from the store and after all is forgotten. -/
theorem prompt_heeded_again :
    let resolver := inMemory .default none
    let request : Request := ⟨.obj [], "balloons please", ""⟩
    let first := resolver.call request .fresh
    let again := resolver.call request first.after
    let anew := resolver.call request ⟨[], again.after.sent⟩
    resolver.Run entriesOf [first, again, anew] anew.after ∧
      Phrase.skin? request.prompt .sandbox = some .balloon ∧
      ∀ call ∈ [first, again, anew], Heeds request.prompt (call.proposal.patch.apply request.doc) := by
  intro resolver request first again anew
  -- Nothing is forgotten before the second call, and everything before the third one.
  have started : resolver.Run entriesOf [] .fresh := .start fun _ => rfl
  have asked_once : resolver.Run entriesOf [first] first.after := started.call request (.refl _) rfl
  have asked_twice : resolver.Run entriesOf [first, again] again.after :=
    asked_once.call request (.refl _) rfl
  have run : resolver.Run entriesOf [first, again, anew] anew.after :=
    asked_twice.call request (fun _ => .inl rfl) rfl
  refine ⟨run, by decide, fun call listed => ?_⟩
  -- All three calls are for one request, so they use one key.
  have asked : ∀ call ∈ [first, again, anew], call.request = request := by
    intro call listed
    simp only [List.mem_cons, List.not_mem_nil, or_false] at listed
    rcases listed with rfl | rfl | rfl <;> rfl
  have used : call.request.usedKey? resolver.settings =
      some ((request.bounded .default).key .default) := by
    rw [asked call listed]
    exact Request.usedKey?_of_indirect (by decide)
  obtain ⟨earlier, later, whole⟩ := List.append_of_mem listed
  rw [whole] at run
  obtain ⟨writer, found, _, own⟩ := prompt_heeded Store.memory_lossy run used
  -- The writer is one of the three calls, and all of them are for the one prompt.
  have writer_listed : writer ∈ [first, again, anew] := by
    rw [whole, List.append_cons]
    exact List.mem_append_left _ (mem_of_writer? found)
  have same : SameWords call.request.prompt writer.request.prompt := by
    rw [asked call listed, asked writer writer_listed]
    exact ⟨rfl, fun _ => rfl⟩
  exact asked call listed ▸ own same

/--
A kept proposal may go against what a prompt says outright.

The key looks at the first characters of a prompt alone, and a rule that is stated behind them does
not change it.
-/
theorem prompt_unheeded :
    let settings := { ProposalSettings.default with promptKeyChars := 4 }
    let first : Request := ⟨.obj [], "add 3 every 2 s", ""⟩
    let second : Request := ⟨.obj [], "add 5 every 4 s", ""⟩
    ∃ call ∈ (inMemory settings none).calls [first, second] .fresh, call.request = second ∧
      ¬ Heeds second.prompt (call.proposal.patch.apply second.doc) := by
  intro settings first second
  -- Both prompts begin with the same characters, and the key looks at no more of them.
  have same : second.usedKey? settings = first.usedKey? settings := by
    rw [Request.usedKey?_of_indirect (by decide), Request.usedKey?_of_indirect (by decide)]
    exact congrArg some (Request.key_of_keyInput (Prod.ext rfl (by decide)))
  have used : first.usedKey? settings = some ((first.bounded settings).key settings) :=
    Request.usedKey?_of_indirect (by decide)
  obtain ⟨call, listed, asked, patch⟩ := rules_settled_pair used (same.trans used)
  refine ⟨call, listed, asked, fun heeds => ?_⟩
  -- The rule of the first prompt is read where the second prompt states another one.
  have mapping : ((rulePatch first).apply second.doc).pointer? "/rules" =
      some (.obj [("limit", LimitRule.default.toJson), ("spawn", (SpawnRule.linear 3 2000).toJson)]) := by
    decide +kernel
  have stated : Phrase.spawnRule? second.prompt = some (.linear 5 4000) := by decide +kernel
  have read : ((rulePatch first).apply second.doc).pointer? "/rules/spawn" ≠
      some (SpawnRule.linear 5 4000).toJson := by decide +kernel
  rw [patch] at heeds
  exact read (heeds.spawn _ _ stated mapping)

end Resolver

end Proposal

end Minigame
