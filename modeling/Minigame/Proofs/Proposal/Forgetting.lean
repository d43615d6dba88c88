import Mathlib.Logic.Function.Basic
import Minigame.Proofs.Proposal.History

/-!
Stores that may forget.

For a key a store gives out the patch that was put under it last, or nothing at all: there is no more
than some room for proposals and some time to keep them, and no call can tell when either is over.
-/

namespace Minigame.Proposal

open Minigame.Text

/-- What a store has for each key: the patch that was put under it last, as long as it is known. -/
abbrev Contents := Digest → Option Patch

/-- As time goes by patches may be forgotten, and nothing else happens to them. -/
def Contents.Lapses (before after : Contents) : Prop :=
  ∀ key, after key = none ∨ after key = before key

namespace Contents.Lapses

theorem refl (contents : Contents) : contents.Lapses contents :=
  fun _ => .inr rfl

/-- What is there after some time was there before. -/
theorem of_some {before after : Contents} (lapsed : before.Lapses after) {key : Digest}
    {patch : Patch} (there : after key = some patch) : before key = some patch := by
  rcases lapsed key with gone | kept
  · cases gone.symm.trans there
  · exact kept.symm.trans there

/-- What is there some time after a patch was put is this patch, or it was there before. -/
theorem of_put {before after : Contents} {own key : Digest} {put patch : Patch}
    (lapsed : Lapses (Function.update before own (some put)) after) (there : after key = some patch) :
    (key = own ∧ patch = put) ∨ (key ≠ own ∧ before key = some patch) := by
  have there := lapsed.of_some there
  by_cases same : key = own
  · rw [same, Function.update_self] at there
    exact .inl ⟨same, (Option.some.inj there).symm⟩
  · rw [Function.update_of_ne same] at there
    exact .inr ⟨same, there⟩

end Contents.Lapses

/-- A store that never fails, but gives out nothing where it has forgotten what was put there. -/
structure Store.Lossy {σ : Type} (store : Store σ) (contents : σ → Contents) : Prop where
  get : ∀ key kept, store.get key kept = some none ∨ store.get key kept = some (contents kept key)
  put : ∀ key patch kept, ∃ left, store.put key patch kept = some left ∧
    Contents.Lapses (Function.update (contents kept) key (some patch)) (contents left)

/-- What a list of entries has for each key: the patch in the first one. -/
def entriesOf (kept : List (Digest × Patch)) : Contents :=
  fun key => kept.lookup key

namespace Store

/-- The store in memory gives out all that was put into it. -/
theorem memory_lossy : Store.memory.Lossy entriesOf where
  get _ _ := .inr rfl
  put key patch kept := by
    refine ⟨_, rfl, fun other => .inr ?_⟩
    -- The new entry stands in front, so it is found under its own key alone.
    by_cases same : other = key
    · simp [entriesOf, same]
    · simp [entriesOf, List.lookup_cons, beq_false_of_ne same, same]

/-- A store may forget everything at once. -/
theorem forgetful_lossy : Store.forgetful.Lossy entriesOf where
  get _ _ := .inl rfl
  put _ _ _ := ⟨[], rfl, fun _ => .inl rfl⟩

/-- Whatever room and time the settings grant, the store they ask for gives out no wrong patch. -/
theorem ofSettings_lossy (settings : ProposalSettings) :
    (Store.ofSettings settings).Lossy entriesOf := by
  unfold Store.ofSettings
  split
  · exact forgetful_lossy
  · exact memory_lossy

end Store

namespace Resolver

section

variable {σ : Type} (resolver : Resolver σ) {contents : σ → Contents}
  (lossy : resolver.store.Lossy contents)
include lossy

/--
What a call can do where the store may forget.

In direct mode it touches nothing. It is given what the store has under its key and touches nothing,
or it settles a proposal and puts that there. The second may happen although something was there.
-/
theorem propose_cases (request : Request) (memory : Memory σ) :
    (request.usedKey? resolver.settings = none ∧ resolver.propose request memory =
      (⟨directModePatch request.prompt, .directMode, [], none⟩, memory)) ∨
    (∃ key patch, request.usedKey? resolver.settings = some key ∧
      contents memory.kept key = some patch ∧
      resolver.propose request memory = (⟨patch, .cache, [], none⟩, memory)) ∨
    ∃ key left, request.usedKey? resolver.settings = some key ∧
      let asked := resolver.ask (request.bounded resolver.settings) memory.sent
      let settled := settle (request.bounded resolver.settings) asked.1
      Contents.Lapses (Function.update (contents memory.kept) key (some settled.patch))
        (contents left) ∧
      resolver.propose request memory = (settled, ⟨left, asked.2⟩) := by
  by_cases direct : isDirectMode request.prompt resolver.settings.directModeKeyword = true
  · exact .inl ⟨by simp [Request.usedKey?, direct], resolver.propose_direct request memory direct⟩
  · have indirect : isDirectMode request.prompt resolver.settings.directModeKeyword = false := by
      simpa using direct
    -- Every other call looks under the key of its bounded request.
    have used := Request.usedKey?_of_indirect indirect
    let key := (request.bounded resolver.settings).key resolver.settings
    -- Where nothing is given out a proposal is made, and it can be put into the store.
    have made (missing : resolver.store.get key memory.kept = some none) :
        resolver.propose request memory = resolver.make (request.bounded resolver.settings) true
          memory := by
      rw [propose, if_neg (by simp [indirect])]
      simp only [key] at missing
      simp only [missing]
    have anew (missing : resolver.store.get key memory.kept = some none) :
        ∃ left, let asked := resolver.ask (request.bounded resolver.settings) memory.sent
          let settled := settle (request.bounded resolver.settings) asked.1
          Contents.Lapses (Function.update (contents memory.kept) key (some settled.patch))
            (contents left) ∧
          resolver.propose request memory = (settled, ⟨left, asked.2⟩) := by
      -- What is put into the store is what was settled, and the store may lose it at once.
      let settled := settle (request.bounded resolver.settings)
        (resolver.ask (request.bounded resolver.settings) memory.sent).1
      obtain ⟨left, put, lapsed⟩ := lossy.put key settled.patch memory.kept
      refine ⟨left, lapsed, ?_⟩
      simp only [key, settled] at put
      rw [made missing]
      simp only [make, keep, put, if_true]
    rcases lossy.get key memory.kept with missing | given
    · -- The store gives out nothing, whatever it has.
      obtain ⟨left, lapsed, answer⟩ := anew missing
      exact .inr (.inr ⟨key, left, used, lapsed, answer⟩)
    · -- The store gives out what it has, and that may be nothing as well.
      cases found : contents memory.kept key with
      | some patch =>
        exact .inr (.inl ⟨key, patch, used, found,
          resolver.propose_kept request memory indirect (given.trans (congrArg some found))⟩)
      | none =>
        obtain ⟨left, lapsed, answer⟩ := anew (given.trans (congrArg some found))
        exact .inr (.inr ⟨key, left, used, lapsed, answer⟩)

/-- What holds of all patches in a store and of each that is settled, holds of them after a call. -/
theorem patch_propose {request : Request} {memory : Memory σ} {holds : Digest → Patch → Prop}
    (kept : ∀ key patch, contents memory.kept key = some patch → holds key patch)
    (settled : ∀ key, request.usedKey? resolver.settings = some key →
      let bounded := request.bounded resolver.settings
      holds key (settle bounded (resolver.ask bounded memory.sent).1).patch) :
    let made := resolver.propose request memory
    (∀ key, request.usedKey? resolver.settings = some key → holds key made.1.patch) ∧
    ∀ key patch, contents made.2.kept key = some patch → holds key patch := by
  intro made
  rcases resolver.propose_cases lossy request memory with
    ⟨unused, answer⟩ | ⟨own, patch, used, found, answer⟩ | ⟨own, left, used, lapsed, answer⟩
  · -- Direct mode uses no key, and the store stays as it is.
    simp only [made, answer]
    exact ⟨fun key same => (by cases unused.symm.trans same), kept⟩
  · -- What is given out is one of the patches in the store.
    simp only [made, answer]
    refine ⟨fun key same => ?_, kept⟩
    cases used.symm.trans same
    exact kept own patch found
  · simp only [made, answer]
    refine ⟨fun key same => settled key same, fun key patch there => ?_⟩
    -- Whatever has lapsed meanwhile is not found, so it need not be spoken of.
    rcases lapsed.of_put there with ⟨rfl, rfl⟩ | ⟨-, there⟩
    · exact settled key used
    · exact kept key patch there

end

/-- A call for a request, from what is remembered before it. -/
def call {σ : Type} (resolver : Resolver σ) (request : Request) (before : Memory σ) : Call σ :=
  let (proposal, after) := resolver.propose request before
  ⟨request, before, proposal, after⟩

/--
A run of calls between which the store may forget, and what is remembered after the last one.

It starts with a store that has nothing.
-/
inductive Run {σ : Type} (resolver : Resolver σ) (contents : σ → Contents) :
    List (Call σ) → Memory σ → Prop where
  | start {memory : Memory σ} (empty : ∀ key, contents memory.kept key = none) :
    Run resolver contents [] memory
  | call {history : List (Call σ)} {memory : Memory σ} (run : Run resolver contents history memory)
    (request : Request) {before : Memory σ}
    (lapsed : Contents.Lapses (contents memory.kept) (contents before.kept))
    (sent : before.sent = memory.sent) :
    Run resolver contents (history ++ [resolver.call request before])
      (resolver.call request before).after

end Resolver

/-- The last call in a history with a key that was not answered from the store. -/
def writer? {σ : Type} (settings : ProposalSettings) (key : Digest) (history : List (Call σ)) :
    Option (Call σ) :=
  history.reverse.find? fun call =>
    call.request.usedKey? settings = some key ∧ call.proposal.source ≠ .cache

section

variable {σ : Type} {settings : ProposalSettings} {key : Digest} {history : List (Call σ)}
  {call : Call σ}

theorem writer?_append (earlier later : List (Call σ)) :
    writer? settings key (earlier ++ later) =
      (writer? settings key later).or (writer? settings key earlier) := by
  -- The history is searched from its end.
  rw [writer?, List.reverse_append, List.find?_append, writer?, writer?]

theorem writer?_concat :
    writer? settings key (history ++ [call]) =
      if call.request.usedKey? settings = some key ∧ call.proposal.source ≠ .cache then some call
      else writer? settings key history := by
  rw [writer?_append]
  -- Of the last call alone it is known at once whether it is the writer.
  by_cases writes : call.request.usedKey? settings = some key ∧ call.proposal.source ≠ .cache
  · simp [writer?, writes]
  · simp [writer?, writes]

theorem mem_of_writer? (found : writer? settings key history = some call) : call ∈ history :=
  List.mem_reverse.1 (List.mem_of_find?_eq_some found)

/-- A writer used the key, and nothing was given out for the key then. -/
theorem of_writer? (found : writer? settings key history = some call) :
    call.request.usedKey? settings = some key ∧ call.proposal.source ≠ .cache := by
  simpa using List.find?_some found

end

namespace Resolver

/-- What the calls of a run have in common with what the store has at its end. -/
structure Traced {σ : Type} (resolver : Resolver σ) (contents : σ → Contents)
    (history : List (Call σ)) (memory : Memory σ) : Prop where
  /-- A call that used a key and was not answered from the store has settled its proposal. -/
  settled : ∀ call ∈ history, ∀ key, call.request.usedKey? resolver.settings = some key →
    call.proposal.source ≠ .cache →
    let bounded := call.request.bounded resolver.settings
    call.proposal = settle bounded (resolver.ask bounded call.before.sent).1
  /-- What the store has under a key was settled by the last call that wrote it. -/
  written : ∀ key patch, contents memory.kept key = some patch →
    ∃ writer, writer? resolver.settings key history = some writer ∧ writer.proposal.patch = patch

section

variable {σ : Type} {resolver : Resolver σ} {contents : σ → Contents}

namespace Traced

variable {history : List (Call σ)} {memory : Memory σ}
  (traced : resolver.Traced contents history memory)
include traced

/-- Forgetting something leaves all as it was that is said of the rest. -/
theorem lapse {before : Memory σ}
    (lapsed : Contents.Lapses (contents memory.kept) (contents before.kept)) :
    resolver.Traced contents history before where
  -- The history stays the same, and fewer entries are left to be explained.
  settled := traced.settled
  written key patch there := traced.written key patch (lapsed.of_some there)

/-- A call that writes nothing is no writer. -/
theorem idle {call : Call σ}
    (unwritten : ∀ key, call.request.usedKey? resolver.settings = some key →
      call.proposal.source = .cache) :
    resolver.Traced contents (history ++ [call]) memory where
  settled other listed key used uncached := by
    -- The call is either an earlier one or the new one, which has settled nothing.
    rcases List.mem_append.1 listed with earlier | last
    · exact traced.settled other earlier key used uncached
    · cases List.mem_singleton.1 last
      exact absurd (unwritten key used) uncached
  written key patch there := by
    -- So the last writer of any key is the one that it was before.
    rw [writer?_concat, if_neg fun ⟨used, uncached⟩ => uncached (unwritten key used)]
    exact traced.written key patch there

end Traced

/-- A call leaves a store whose patches are those of their writers, if it finds one like that. -/
theorem Traced.call {history : List (Call σ)} {before : Memory σ}
    (lossy : resolver.store.Lossy contents) (traced : resolver.Traced contents history before)
    (request : Request) :
    let call := resolver.call request before
    resolver.Traced contents (history ++ [call]) call.after := by
  intro call
  rcases resolver.propose_cases lossy request before with
    ⟨unused, answer⟩ | ⟨own, patch, used, found, answer⟩ | ⟨own, left, used, lapsed, answer⟩
  -- In direct mode and from the store nothing is written.
  · have same : call = ⟨request, before, ⟨directModePatch request.prompt, .directMode, [], none⟩,
        before⟩ := by
      simp only [call, Resolver.call, answer]
    rw [same]
    exact traced.idle fun key used => by cases unused.symm.trans used
  · -- A call that was answered from the store has the store as its source.
    have same : call = ⟨request, before, ⟨patch, .cache, [], none⟩, before⟩ := by
      simp only [call, Resolver.call, answer]
    rw [same]
    exact traced.idle fun _ _ => rfl
  · -- Otherwise the call is the last writer of its own key, and of no other one.
    let settled := settle (request.bounded resolver.settings)
      (resolver.ask (request.bounded resolver.settings) before.sent).1
    have same : call = ⟨request, before, settled, call.after⟩ := by
      simp only [call, Resolver.call, answer, settled]
    have kept : call.after.kept = left := by simp only [call, Resolver.call, answer]
    have uncached : settled.source ≠ .cache := (settle_source_ne _ _).2
    rw [same]
    constructor
    · -- The proposal of the new call is the one that it has settled.
      intro other listed key _ other_uncached
      rcases List.mem_append.1 listed with earlier | last
      · exact traced.settled other earlier key ‹_› other_uncached
      · cases List.mem_singleton.1 last
        rfl
    · intro key patch there
      -- An entry under the key of the call comes from the call, and any other one is old.
      rw [kept] at there
      rw [writer?_concat]
      rcases lapsed.of_put there with ⟨rfl, rfl⟩ | ⟨different, there⟩
      · exact ⟨_, if_pos ⟨used, uncached⟩, rfl⟩
      · rw [if_neg fun ⟨other, _⟩ => different (Option.some.inj (other.symm.trans used))]
        exact traced.written key patch there

namespace Run

variable {history earlier later : List (Call σ)} {memory after : Memory σ}

/-- A run that goes on was a run before. -/
theorem front (run : resolver.Run contents (earlier ++ later) after) :
    ∃ memory, resolver.Run contents earlier memory := by
  -- By induction on the calls at the end, the last of which is taken off.
  induction later using List.reverseRecOn generalizing after with
  | nil => exact ⟨after, by simpa using run⟩
  | append_singleton later last ih =>
    rw [← List.append_assoc] at run
    generalize whole : earlier ++ later ++ [last] = history at run
    cases run with
    | start => simp at whole
    | call run =>
      obtain ⟨rfl, -⟩ := List.append_inj' whole rfl
      exact ih run

/-- The last call of a run starts from what the run before has left, but for what is forgotten. -/
theorem last {call : Call σ} (run : resolver.Run contents (earlier ++ [call]) after) :
    ∃ memory before, resolver.Run contents earlier memory ∧
      Contents.Lapses (contents memory.kept) (contents before.kept) ∧
      call = resolver.call call.request before := by
  -- The history of a run determines its last step.
  generalize whole : earlier ++ [call] = history at run
  cases run with
  | start => simp at whole
  | @call history memory run request before lapsed sent =>
    obtain ⟨rfl, same⟩ := List.append_inj' whole rfl
    cases List.singleton_inj.1 same
    exact ⟨memory, before, run, lapsed, rfl⟩

variable (lossy : resolver.store.Lossy contents)
include lossy

/-- However much is forgotten in a run, what the store has was settled by the last writer. -/
theorem traced (run : resolver.Run contents history memory) :
    resolver.Traced contents history memory := by
  -- By induction on the run: first something is forgotten, then a call is made.
  induction run with
  | start empty =>
    exact ⟨fun _ listed => (by cases listed), fun key _ there => (by cases (empty key).symm.trans there)⟩
  | call run request lapsed sent ih => exact (ih.lapse lapsed).call lossy request

/--
Whatever a call of a run is given for its key was settled by the last writer of the key.

The writer is the call itself if nothing was given out to it.
-/
theorem settled {call : Call σ} (run : resolver.Run contents (earlier ++ call :: later) after)
    {key : Digest} (used : call.request.usedKey? resolver.settings = some key) :
    ∃ writer, writer? resolver.settings key (earlier ++ [call]) = some writer ∧
      writer.proposal = settle (writer.request.bounded resolver.settings)
        (resolver.ask (writer.request.bounded resolver.settings) writer.before.sent).1 ∧
      call.proposal.patch = writer.proposal.patch := by
  -- The run up to the call itself is a run, and the call starts from what it has left.
  have run : resolver.Run contents ((earlier ++ [call]) ++ later) after := by simpa using run
  obtain ⟨_, whole⟩ := run.front
  obtain ⟨memory, before, front, lapsed, same⟩ := whole.last
  have traced := (front.traced lossy).lapse lapsed
  rcases resolver.propose_cases lossy call.request before with
    ⟨unused, _⟩ | ⟨own, patch, own_used, found, answer⟩ | ⟨own, left, own_used, _, answer⟩
  · -- A call in direct mode has no key.
    cases unused.symm.trans used
  · -- What was given out was put there by the last writer in front of the call.
    cases own_used.symm.trans used
    have proposal : call.proposal = ⟨patch, .cache, [], none⟩ := by
      rw [same, Resolver.call, answer]
    obtain ⟨writer, wrote, written⟩ := traced.written key patch found
    obtain ⟨writer_used, uncached⟩ := of_writer? wrote
    have settled := traced.settled writer (mem_of_writer? wrote) key writer_used uncached
    refine ⟨writer, ?_, settled, ?_⟩
    · rw [writer?_concat, if_neg fun ⟨_, other⟩ => other (by rw [proposal]), wrote]
    · rw [proposal, written]
  · -- A call that settles its proposal is its own writer.
    have proposal : call.proposal = settle (call.request.bounded resolver.settings)
        (resolver.ask (call.request.bounded resolver.settings) call.before.sent).1 := by
      rw [same, Resolver.call, answer]
    have uncached : call.proposal.source ≠ .cache := by
      rw [proposal]
      exact (settle_source_ne _ _).2
    exact ⟨call, by rw [writer?_concat, if_pos ⟨used, uncached⟩], proposal, rfl⟩

omit lossy

/-- Calls that follow each other at once go on with a run, and nothing is forgotten in between. -/
theorem calls (run : resolver.Run contents history memory) (requests : List Request) :
    resolver.Run contents (history ++ resolver.calls requests memory)
      (resolver.remembered requests memory) := by
  induction requests generalizing history memory with
  -- Without a call the run is the one that there is.
  | nil => simpa [Resolver.calls] using run
  | cons request rest ih =>
    -- Between two such calls no time goes by in which something could be forgotten.
    have next := run.call request (.refl _) rfl
    rw [Resolver.calls, List.append_cons]
    exact ih next

end Run

end

/-- As long as nothing is forgotten, the writer of a key is the first call with it. -/
theorem writer?_calls (settings : ProposalSettings) (service : Option Service)
    (requests : List Request) (key : Digest) :
    let history := (inMemory settings service).calls requests .fresh
    writer? settings key history = firstWith settings key history := by
  intro history
  cases found : firstWith settings key history with
  | none =>
    -- Where no call uses the key none can have written it.
    have unused := firstWith_eq_none_iff.1 found
    refine List.find?_eq_none.2 fun call listed => ?_
    simp [unused call (List.mem_reverse.1 listed)]
  | some first =>
    have used := used_of_firstWith found
    obtain ⟨earlier, later, whole, new⟩ := split_of_firstWith found
    -- The first call finds nothing, and all later ones are given what it has put there.
    obtain ⟨proposal, -⟩ := call_anew whole used new
    have uncached : first.proposal.source ≠ .cache := by
      rw [proposal]
      exact (settle_source_ne _ _).2
    have none_later : writer? settings key later = none := by
      -- A later call with the key is answered from the store, so it writes nothing.
      refine List.find?_eq_none.2 fun call listed => ?_
      obtain ⟨front, rest, split⟩ := List.append_of_mem (List.mem_reverse.1 listed)
      intro writes
      obtain ⟨call_used, call_uncached⟩ : _ ∧ _ := by simpa using writes
      have whole' : history = (earlier ++ first :: front) ++ call :: rest := by
        rw [whole, split]
        simp
      have before : firstWith settings key (earlier ++ first :: front) = some first := by
        rw [firstWith_append, new, firstWith_cons, if_pos used]
        rfl
      obtain ⟨cached, -⟩ := call_again whole' call_used before
      exact call_uncached (by rw [cached])
    -- Behind the first call there is no writer, and in front of it no call with the key.
    rw [whole, List.append_cons, writer?_append, none_later, writer?_concat,
      if_pos ⟨used, uncached⟩]
    rfl

end Resolver

end Minigame.Proposal
