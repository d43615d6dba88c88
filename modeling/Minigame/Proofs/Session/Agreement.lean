import Minigame.Proofs.Proposal.Bubbles
import Minigame.Proofs.Session.Sharing

/-!
Making a page in one call, or in two.

A call that makes a page looks after games about bubbles without a template, which a change alone
does not do. Without a service the rules have given such a game a template already, unless they were
asked something else under the same key.
-/

namespace Minigame

open Minigame.Text Minigame.Proposal

/-- Without a service the second of two requests with one key gets the rules' answer to the first. -/
theorem Proposal.Resolver.propose_again {settings : ProposalSettings} {first second : Request}
    {key : Digest} (used : first.usedKey? settings = some key)
    (again : second.usedKey? settings = some key) :
    let resolver := inMemory settings none
    (resolver.propose second (resolver.propose first .fresh).2).1.patch = rulePatch first := by
  intro resolver
  have empty (key : Digest) : entriesOf (Memory.fresh).kept key = none := rfl
  -- What is kept after the first request is the rules' answer to it, and the second one finds it.
  obtain ⟨own, kept⟩ := resolver.propose_ruledBy Store.memory_lossy rfl
    (.of_empty empty) (List.mem_singleton_self first)
  have there : (resolver.propose first .fresh).2.kept.lookup key = some (rulePatch first) := by
    obtain ⟨other, only, _, patch⟩ := own key used
    rw [lookup_propose, if_pos used, patch, List.mem_singleton.1 only]
    rfl
  rcases propose_inMemory settings none second (resolver.propose first .fresh).2 with
    ⟨unused, _⟩ | ⟨_, patch, same, found, answer⟩ | ⟨_, same, missing, _⟩
  · -- The second request has a key, and under it is what was kept.
    cases unused.symm.trans again
  · cases same.symm.trans again
    rw [answer]
    exact Option.some.inj (found.symm.trans there)
  · cases same.symm.trans again
    cases missing.symm.trans there

/-- A game with a template is left as it is. -/
theorem ensureBubbles_of_hasTemplate {doc : Json} {prompt : String}
    (has : Phrase.mentionsBubbles prompt = true → Design.hasTemplate doc = true) :
    ensureBubbles prompt doc = doc := by
  unfold ensureBubbles
  cases mentions : Phrase.mentionsBubbles prompt with
  -- Without a word about bubbles nothing is looked after.
  | false => simp
  | true => simp [has mentions]

/-- A game about bubbles has a template in the end. -/
theorem hasTemplate_ensureBubbles {doc : Json} (has : doc.HasSection "meta") {prompt : String}
    (mentions : Phrase.mentionsBubbles prompt = true) :
    Design.hasTemplate (ensureBubbles prompt doc) = true := by
  cases named : Design.hasTemplate doc with
  | true => simp [ensureBubbles, named]
  | false =>
    -- The template is set first, and the title lies beside it.
    simp only [ensureBubbles, named, mentions, Bool.not_true, Bool.or_false, Bool.false_eq_true,
      if_false]
    refine Design.hasTemplate_of_bubbleClicker (Design.template_eq_bubbleClicker ?_)
    -- The title is another place, so the template stays.
    refine Patch.at?_apply_put has (fun operation listed => ?_) (by decide)
    rw [mem_when listed]
    decide

namespace GameRecord

variable (record : GameRecord) (summaryChars : Nat) (pages : Page.Registry) (prompt : String)
  (model : String) (now : Timestamp) (proposal : Proposal)

/-- A turn leaves the document that its proposal leads to. -/
theorem afterTurn_spec (compiles : Bool) :
    (record.afterTurn summaryChars pages prompt compiles model now proposal).1.spec =
      some (record.next prompt compiles proposal.patch).1 := rfl

/-- A turn that makes a page makes it of the document that it leaves. -/
theorem afterTurn_html :
    (record.afterTurn summaryChars pages prompt true model now proposal).1.html =
      some (pages.compile (record.next prompt true proposal.patch).1) := rfl

/-- A turn leaves the game with the users who may change it. -/
theorem afterTurn_isEditableBy (compiles : Bool) (user : String) :
    (record.afterTurn summaryChars pages prompt compiles model now proposal).1.isEditableBy user =
      record.isEditableBy user := rfl

/-- What is compiled is the document that is there. -/
theorem compiled_of_spec {doc : Json} (there : record.spec = some doc) :
    record.compiled pages = pages.compile doc := by
  rw [compiled, current, there, Option.getD_some]

end GameRecord

namespace Studio

/-- The patch that a user is given for a prompt about a game. -/
def patchFor {κ : Type} (studio : Studio κ Records) (record : GameRecord) (prompt : String)
    (state : StudioState κ Records) : Patch :=
  (studio.resolver.propose (record.request (trim prompt)) state.proposals).1.patch

section

variable {κ : Type} {studio : Studio κ Records} (inMemory : studio.records = .memory)
  {user : String} {id : GameId} {record : GameRecord} {state : StudioState κ Records}
include inMemory

/-- A turn writes what it makes of the record that was found and of its proposal. -/
theorem turn_found (found : studio.find user id state = .ok record) {prompt : String}
    (nonblank : trim prompt ≠ "") (compiles : Bool) (now : Timestamp) :
    let made := (studio.resolver.propose (record.request (trim prompt)) state.proposals).1
    let written := (record.afterTurn studio.settings.summaryChars studio.templates (trim prompt)
      compiles (studio.modelName made) now made).1
    ∃ outcome after, studio.turn compiles user id prompt now state = (.ok outcome, after) ∧
      after.records.get? record.id = some written := by
  intro made written
  -- All checks are passed, and the records take the one that is written.
  simp only [turn, nonblank, if_false, found, save, inMemory, RecordStore.memory]
  exact ⟨_, _, rfl, Records.get?_set_self written state.records⟩

/-- A compilation writes the page of the record that was found. -/
theorem compile_found (found : studio.find user id state = .ok record) (now : Timestamp) :
    let html := record.compiled studio.templates
    ∃ after, studio.compile user id now state = (.ok html, after) ∧
      after.records.get? record.id = some (record.afterCompile html now) := by
  intro html
  simp only [compile, found, save, inMemory, RecordStore.memory]
  exact ⟨_, rfl, Records.get?_set_self (record.afterCompile html now) state.records⟩

variable (there : state.records.get? id = some record) (own : record.id = id)
  (editable : record.isEditableBy user = true) {prompt : String} (nonblank : trim prompt ≠ "")
include there own editable nonblank

/-- One call leaves the page of the document that the patch leads to, with bubbles looked after. -/
theorem built_in_one (now : Timestamp) :
    let generated := studio.generate user id prompt now state
    let doc := (record.next (trim prompt) true (studio.patchFor record prompt state)).1
    generated.1.isOk ∧ ∃ one, generated.2.records.get? id = some one ∧ one.spec = some doc ∧
      one.html = some (studio.templates.compile doc) := by
  subst own
  intro generated doc
  -- The user who may change the game finds its record.
  have found := find_editable inMemory there editable
  obtain ⟨_, after, generate, one⟩ := turn_found inMemory found nonblank true now
  simp only [generated, Studio.generate, generate]
  exact ⟨rfl, _, one, GameRecord.afterTurn_spec .., GameRecord.afterTurn_html ..⟩

/-- Two calls leave the page of the document that the patch leads to as it is. -/
theorem built_in_two (before later : Timestamp) :
    let updated := studio.update user id prompt before state
    let compiled := studio.compile user id later updated.2
    let doc := (record.next (trim prompt) false (studio.patchFor record prompt state)).1
    updated.1.isOk ∧ compiled.1.isOk ∧ ∃ other, compiled.2.records.get? id = some other ∧
      other.spec = some doc ∧ other.html = some (studio.templates.compile doc) := by
  subst own
  intro updated compiled doc
  have found := find_editable inMemory there editable
  obtain ⟨_, after, update, left⟩ := turn_found inMemory found nonblank false before
  -- The record that the update writes is the one that the compilation finds.
  let made := (studio.resolver.propose (record.request (trim prompt)) state.proposals).1
  let written := (record.afterTurn studio.settings.summaryChars studio.templates (trim prompt)
    false (studio.modelName made) before made).1
  have left_spec : written.spec = some doc := GameRecord.afterTurn_spec ..
  have left_editable : written.isEditableBy user = true :=
    (GameRecord.afterTurn_isEditableBy ..).trans editable
  obtain ⟨_, compile, other⟩ :=
    compile_found inMemory (find_editable inMemory left left_editable) later
  simp only [updated, compiled, Studio.update, update, compile]
  refine ⟨rfl, rfl, _, other, left_spec, ?_⟩
  exact congrArg some (GameRecord.compiled_of_spec _ _ left_spec)

/-- Both ways differ where a game about bubbles is left without a template by its patch. -/
theorem built_apart
    (has : ((studio.patchFor record prompt state).apply
      (record.current (trim prompt))).HasSection "meta")
    (mentions : Phrase.mentionsBubbles (trim prompt) = true)
    (bare : Design.hasTemplate ((studio.patchFor record prompt state).apply
      (record.current (trim prompt))) = false)
    (now before later : Timestamp) :
    ((studio.generate user id prompt now state).2.records.get? id).map GameRecord.spec ≠
      ((studio.compile user id later (studio.update user id prompt before state).2).2.records.get?
        id).map GameRecord.spec := by
  intro same
  obtain ⟨_, one, found, spec, _⟩ :=
    built_in_one inMemory there own editable nonblank now
  obtain ⟨_, _, other, other_found, other_spec, _⟩ :=
    built_in_two inMemory there own editable nonblank before later
  rw [found, other_found, Option.map_some, Option.map_some, spec, other_spec,
    -- Both ways leave a document, and these would be the same.
    GameRecord.next_fst, GameRecord.next_fst, if_pos rfl, if_neg Bool.false_ne_true] at same
  -- In one call the game gets a template, and so it had one before.
  have named := hasTemplate_ensureBubbles has mentions
  rw [Option.some.inj (Option.some.inj same), bare] at named
  cases named

end

section

variable {κ : Type} {studio : Studio κ Records} {contents : κ → Contents} {record : GameRecord}
  {prompt : String} {asked : List Request}

/-- Without a service a user is given what the rules say, unless its key was used otherwise. -/
theorem patchFor_eq (lossy : studio.proposals.Lossy contents) (unserved : studio.service = none)
    (indirect : isDirectMode (trim prompt) studio.settings.proposals.directModeKeyword = false)
    (seeded : ∀ request ∈ record.request (trim prompt) :: asked, Seeded request.doc)
    (apart : KeysApart studio.settings.proposals (record.request (trim prompt) :: asked))
    (own : ∀ earlier ∈ asked, earlier.usedKey? studio.settings.proposals =
      (record.request (trim prompt)).usedKey? studio.settings.proposals →
      earlier.prompt = trim prompt)
    {state : StudioState κ Records}
    (kept : state.proposals.RuledBy contents studio.settings.proposals asked) :
    studio.patchFor record prompt state = rulePatch (record.request (trim prompt)) := by
  let request := record.request (trim prompt)
  have used : request.usedKey? studio.settings.proposals = _ :=
    -- The prompt asks for no direct mode, so it has a key.
    Request.usedKey?_of_indirect indirect
  have listed : request ∈ request :: asked := List.mem_cons_self
  -- The patch is what the rules say to some request with the key, maybe to this one.
  obtain ⟨ruled, _⟩ := studio.resolver.propose_ruledBy lossy unserved
    (kept.mono fun earlier there => List.mem_cons_of_mem request there) listed
  obtain ⟨other, other_listed, other_used, patch⟩ := ruled _ used
  have prompts : other.prompt = request.prompt := by
    rcases List.mem_cons.1 other_listed with rfl | earlier
    · rfl
    · exact own other earlier (other_used.trans used.symm)
  -- Requests with one key and one prompt differ in nothing that the rules look at.
  have agree := apart _ other_listed _ listed _ other_used used
  obtain ⟨docs, _⟩ : _ ∧ _ := by simpa [Request.keyInput, Request.bounded] using agree
  exact patch.trans (rulePatch_eq_of_seeded docs prompts (seeded other other_listed)
    (seeded request listed))

end

/-- A prompt under the key of the first turn is given what the rules have said to that turn. -/
theorem patchFor_again {settings : SessionSettings} {first : Request} {record : GameRecord}
    {prompt : String} {state : StudioState (List (Digest × Patch)) Records}
    (remembered : state.proposals =
      ((Studio.inMemory settings none).resolver.propose first .fresh).2)
    (indirect : isDirectMode first.prompt settings.proposals.directModeKeyword = false)
    (again : isDirectMode (trim prompt) settings.proposals.directModeKeyword = false)
    (input : ((record.request (trim prompt)).bounded settings.proposals).keyInput settings.proposals =
      (first.bounded settings.proposals).keyInput settings.proposals) :
    (Studio.inMemory settings none).patchFor record prompt state = rulePatch first := by
  -- Neither prompt asks for direct mode, so both are looked up, and under the same key.
  have used := Request.usedKey?_of_indirect indirect
  have used_again : (record.request (trim prompt)).usedKey? settings.proposals = _ :=
    Request.usedKey?_of_indirect again
  rw [Request.key_of_keyInput input] at used_again
  rw [patchFor, remembered]
  exact Resolver.propose_again used used_again

/--
Without a service a page comes out the same if it is made in one call or in two.

So it is in every state that is reached by calls that may overlap, whatever the store of proposals
has forgotten and forgets before either way is taken. The only exception is a prompt under whose key
another prompt was given: then the rules were asked something else, and their answer may be kept.
-/
theorem generate_eq_update_compile {κ : Type} {studio : Studio κ Records} {contents : κ → Contents}
    (inMemory : studio.records = .memory) (lossy : studio.proposals.Lossy contents)
    (unserved : studio.service = none) {proposals : Memory κ}
    (empty : ∀ key, contents proposals.kept key = none) {events : List (SessionEvent κ)}
    (stirs : ∀ event ∈ events, event.Stirs (Memory.RuledBy contents studio.settings.proposals
      (studio.requests events (.fresh proposals))))
    {user : String} {id : GameId} {prompt : String} {record : GameRecord}
    (there : (studio.run events (.fresh proposals)).state.records.get? id = some record)
    (editable : record.isEditableBy user = true) (nonblank : trim prompt ≠ "")
    (indirect : isDirectMode (trim prompt) studio.settings.proposals.directModeKeyword = false)
    (apart : KeysApart studio.settings.proposals
      (record.request (trim prompt) :: studio.requests events (.fresh proposals)))
    (own : ∀ earlier ∈ studio.requests events (.fresh proposals),
      earlier.usedKey? studio.settings.proposals =
        (record.request (trim prompt)).usedKey? studio.settings.proposals →
      earlier.prompt = trim prompt)
    {one two : Memory κ}
    (lapsed_one : (contents (studio.run events (.fresh proposals)).state.proposals.kept).Lapses
      (contents one.kept))
    (lapsed_two : (contents (studio.run events (.fresh proposals)).state.proposals.kept).Lapses
      (contents two.kept))
    (now before later : Timestamp) :
    let state := (studio.run events (.fresh proposals)).state
    let generated := studio.generate user id prompt now { state with proposals := one }
    let updated := studio.update user id prompt before { state with proposals := two }
    let compiled := studio.compile user id later updated.2
    generated.1.isOk ∧ updated.1.isOk ∧ compiled.1.isOk ∧
    ∃ one other, generated.2.records.get? id = some one ∧
      compiled.2.records.get? id = some other ∧ one.spec = other.spec ∧ one.html = other.html := by
  intro state
  let request := record.request (trim prompt)
  have fresh := Underway.Settled.fresh studio.settings.proposals
    (studio.requests events (.fresh proposals)) empty
  -- The records are seeded, and the rules have made what is kept, throughout the run.
  have settled := fresh.run inMemory lossy unserved stirs fun _ listed => listed
  obtain ⟨own_record, seeded_record⟩ := settled.holds.stored id record there
  have seeded : ∀ asked ∈ request :: studio.requests events (.fresh proposals),
      Seeded asked.doc := by
    rw [List.forall_mem_cons]
    exact ⟨seeded_record (trim prompt), requests_seeded inMemory lossy unserved fresh.holds
      fun event listed => (stirs event listed).ruled⟩
  -- Whatever is forgotten, both ways go on with what the rules say to this prompt.
  have given {memory : Memory κ} (lapsed : (contents state.proposals.kept).Lapses
      (contents memory.kept)) :
      studio.patchFor record prompt { state with proposals := memory } = rulePatch request :=
    patchFor_eq lossy unserved indirect seeded apart own (settled.kept.lapse lapsed)
  -- They differ only in what they do about bubbles, and there is nothing left to do.
  have same : (record.next (trim prompt) true (rulePatch request)).1 =
      (record.next (trim prompt) false (rulePatch request)).1 := by
    rw [GameRecord.next_fst, GameRecord.next_fst, if_pos rfl, if_neg Bool.false_ne_true]
    exact ensureBubbles_of_hasTemplate fun mentions =>
      hasTemplate_rulePatch (seeded_record (trim prompt)).mapping rfl mentions
  have found_in (memory : Memory κ) :
      ({ state with proposals := memory } : StudioState κ Records).records.get? id = some record :=
    there
  obtain ⟨generated, first, found, spec, html⟩ :=
    built_in_one inMemory (found_in one) own_record editable nonblank now
  -- Each of the ways is followed on its own, from the memory that it finds.
  obtain ⟨updated, compiled, other, other_found, other_spec, other_html⟩ :=
    built_in_two inMemory (found_in two) own_record editable nonblank before later
  rw [given lapsed_one] at spec html
  rw [given lapsed_two] at other_spec other_html
  exact ⟨generated, updated, compiled, first, other, found, other_found,
    by rw [spec, other_spec, same], by rw [html, other_html, same]⟩

/--
A game about popping is the same both ways, although the proposal was kept for another game.

The call that makes the page in one finds the proposal, and the other way finds it forgotten.
-/
theorem generate_eq_update_compile_pop :
    let events : List (SessionEvent _) :=
      [.create "ann" none ⟨1⟩ ⟨0, 0⟩, .create "bob" none ⟨2⟩ ⟨0, 0⟩,
        .read "bob" ⟨2⟩ (.turn true "pop"), .write 0 ⟨1, 0⟩]
    let studio := Studio.inMemory .default none
    let state := (studio.run events (.fresh .fresh)).state
    let generated := studio.generate "ann" ⟨1⟩ "pop" ⟨2, 0⟩ state
    let updated := studio.update "ann" ⟨1⟩ "pop" ⟨2, 0⟩ { state with proposals := .fresh }
    let compiled := studio.compile "ann" ⟨1⟩ ⟨3, 0⟩ updated.2
    generated.1.isOk ∧ updated.1.isOk ∧ compiled.1.isOk ∧
    ∃ one other, generated.2.records.get? ⟨1⟩ = some one ∧
      compiled.2.records.get? ⟨1⟩ = some other ∧ one.spec = other.spec ∧ one.html = other.html := by
  intro events studio
  let request : Request := ⟨Design.starter "pop", "pop", ""⟩
  obtain ⟨record, there, editable, requested⟩ : ∃ record,
      (studio.run events (.fresh .fresh)).state.records.get? ⟨1⟩ = some record ∧
      record.isEditableBy "ann" = true ∧ record.request (trim "pop") = request :=
    ⟨_, rfl, by decide, by decide +kernel⟩
  -- Both games ask for the same, so there is one request.
  have asked : studio.requests events (.fresh .fresh) = [request] := by decide +kernel
  have empty (key : Digest) : entriesOf (Memory.fresh).kept key = none := rfl
  have stirs : ∀ event ∈ events, event.Stirs (Memory.RuledBy entriesOf
      SessionSettings.default.proposals (studio.requests events (.fresh .fresh))) := by
    simp [events, SessionEvent.Stirs]
  have apart : KeysApart SessionSettings.default.proposals
      (record.request (trim "pop") :: studio.requests events (.fresh .fresh)) := by
    rw [asked, requested]
    have same : ∀ other ∈ [request, request], other = request := by simp
    exact .of_keyInput _ fun other listed => by rw [same other listed]
  have own : ∀ earlier ∈ studio.requests events (.fresh .fresh),
      earlier.usedKey? SessionSettings.default.proposals =
        (record.request (trim "pop")).usedKey? SessionSettings.default.proposals →
      earlier.prompt = trim "pop" := by
    intro earlier listed _
    rw [asked, List.mem_singleton] at listed
    rw [listed]
    decide +kernel
  -- A memory without proposals has forgotten all of them.
  have forgotten (before : Contents) : before.Lapses (entriesOf (Memory.fresh).kept) :=
    fun _ => .inl rfl
  have inMemory : studio.records = .memory := rfl
  have agreed := generate_eq_update_compile inMemory Store.memory_lossy rfl empty stirs there
    editable (by decide +kernel) (by decide +kernel) apart own (.refl _) (forgotten _) ⟨2, 0⟩
    ⟨2, 0⟩ ⟨3, 0⟩
  -- What state was reached plays no part any more.
  generalize (studio.run events (.fresh .fresh)).state = state at agreed ⊢
  exact agreed

/--
A prompt that is short enough for its key may get the answer to a longer one that begins like it.

Nothing is said of a game in the longer prompt. With its answer a change leaves the game without a
template, and only the call that makes a page looks after it.
-/
theorem update_compile_differs :
    let settings := { SessionSettings.default with
      proposals := { ProposalSettings.default with promptKeyChars := 3, summaryKeyChars := 0 } }
    let studio := Studio.inMemory settings none
    let events : List (SessionEvent _) :=
      [.create "ann" none ⟨1⟩ ⟨0, 0⟩, .read "ann" ⟨1⟩ (.turn false "popular"), .write 0 ⟨1, 0⟩]
    let state := (studio.run events (.fresh .fresh)).state
    ∃ record, state.records.get? ⟨1⟩ = some record ∧ record.owner = some "ann" ∧
      trim "pop" ≠ "" ∧
      isDirectMode (trim "pop") settings.proposals.directModeKeyword = false ∧
      (trim "pop").length ≤ settings.proposals.promptKeyChars ∧
      KeysApart settings.proposals
        (record.request (trim "pop") :: studio.requests events (.fresh .fresh)) ∧
      ((studio.generate "ann" ⟨1⟩ "pop" ⟨2, 0⟩ state).2.records.get? ⟨1⟩).map GameRecord.spec ≠
        ((studio.compile "ann" ⟨1⟩ ⟨3, 0⟩ (studio.update "ann" ⟨1⟩ "pop" ⟨2, 0⟩ state).2).2.records.get?
          ⟨1⟩).map GameRecord.spec := by
  intro settings studio events state
  have inMemory : studio.records = .memory := rfl
  let first : Request := ⟨Design.starter "popular", "popular", ""⟩
  let second : Request := ⟨Design.starter "popular", "pop", "popular"⟩
  let draft := GameRecord.draft ⟨1⟩ "ann" none ⟨0, 0⟩ settings.autoDeleteHours
  let pending : Pending := ⟨⟨1⟩, draft, .turn false (trim "popular")⟩
  obtain ⟨record, written⟩ : ∃ record, studio.written ⟨1, 0⟩ .fresh pending = record := ⟨_, rfl⟩
  -- Only the first turn has asked for a proposal so far.
  have asked : studio.requests events (.fresh .fresh) = [first] := by decide +kernel
  -- The first turn leaves its proposal and a record, and the second one starts from both.
  have long : trim "popular" ≠ "" := by decide +kernel
  obtain ⟨there, own, owner, kept⟩ :=
    run_first_turn inMemory "ann" none ⟨1⟩ long false .fresh ⟨0, 0⟩ ⟨1, 0⟩
  have there : state.records.get? ⟨1⟩ = some record := there.trans (congrArg some written)
  have own : record.id = ⟨1⟩ := (congrArg GameRecord.id written).symm.trans own
  have owner : record.owner = some "ann" := (congrArg GameRecord.owner written).symm.trans owner
  have requested : record.request (trim "pop") = second := by
    rw [← written]
    decide +kernel
  -- Of the prompts no more than three characters go into the keys.
  have input : (second.bounded settings.proposals).keyInput settings.proposals =
      (first.bounded settings.proposals).keyInput settings.proposals := by decide +kernel
  have apart : KeysApart settings.proposals [second, first] :=
    .of_keyInput _ (List.forall_mem_cons.2 ⟨input, by simp⟩)
  -- So the second prompt is given what the rules have said to the first one, which is nothing.
  have patch : studio.patchFor record "pop" state = [] := by
    have asks : draft.request (trim "popular") = first := by decide +kernel
    have remembered : state.proposals = (studio.resolver.propose first .fresh).2 :=
      kept.trans (congrArg (fun request => (studio.resolver.propose request .fresh).2) asks)
    have nothing : rulePatch first = [] := by decide +kernel
    have again := patchFor_again remembered (by decide +kernel)
      (show isDirectMode (trim "pop") settings.proposals.directModeKeyword = false by decide +kernel)
      (by rw [requested]; exact input)
    exact again.trans nothing
  -- The first turn has left the starting document as it was.
  have doc : record.current (trim "pop") = Design.starter "popular" :=
    congrArg Request.doc requested
  have left : (studio.patchFor record "pop" state).apply (record.current (trim "pop")) =
      Design.starter "popular" := by
    rw [patch, doc]
    rfl
  -- All that is assumed of the two ways holds of this state.
  have nonblank : trim "pop" ≠ "" := by decide +kernel
  refine ⟨record, there, owner, nonblank, by decide +kernel, by decide +kernel,
    by rwa [asked, requested], ?_⟩
  refine built_apart inMemory there own (by simp [GameRecord.isEditableBy, owner]) nonblank ?_
    (by decide +kernel) ?_ ⟨2, 0⟩ ⟨2, 0⟩ ⟨3, 0⟩
  · rw [left]
    exact Design.starter_hasSection "popular"
  · rw [left]
    decide +kernel

end Studio

end Minigame
