import Mathlib.Data.Finset.Card
import Minigame.Proofs.Proposal.Answer

/-!
Calls for proposals that come one after the other, with a store in memory.

The first call with a key settles the proposal of that key, and the service is asked once for it.
All later calls with the key are given the same patch.
-/

namespace Minigame.Proposal

open Minigame.Text

/-- The key a call looks a proposal up under; in direct mode it looks nothing up. -/
def Request.usedKey? (settings : ProposalSettings) (request : Request) : Option Digest :=
  if isDirectMode request.prompt settings.directModeKeyword then none
  else some ((request.bounded settings).key settings)

/-- What is told apart by the key of a request, as long as no two digests collide. -/
def Request.keyInput (settings : ProposalSettings) (request : Request) : Json × String × String :=
  (Design.projection request.doc, truncate settings.promptKeyChars request.prompt,
   truncate settings.summaryKeyChars request.summary)

theorem Request.key_of_keyInput {settings : ProposalSettings} {request other : Request}
    (same : request.keyInput settings = other.keyInput settings) :
    request.key settings = other.key settings := by
  obtain ⟨doc, prompt, summary⟩ : _ ∧ _ ∧ _ := by simpa [keyInput] using same
  rw [key, key, keyParts, keyParts, doc, prompt, summary]

theorem Request.usedKey?_of_indirect {settings : ProposalSettings} {request : Request}
    (indirect : isDirectMode request.prompt settings.directModeKeyword = false) :
    request.usedKey? settings = some ((request.bounded settings).key settings) := by
  rw [usedKey?, if_neg (by simp [indirect])]

/-- A memory in which nothing is kept and nothing was sent. -/
def Memory.fresh : Memory (List (Digest × Patch)) := ⟨[], []⟩

/-- A call for a proposal, with what was remembered before and after it. -/
structure Call (σ : Type) where
  request : Request
  before : Memory σ
  proposal : Proposal
  after : Memory σ

/-- The first call in a history that used a key. -/
def firstWith {σ : Type} (settings : ProposalSettings) (key : Digest) (history : List (Call σ)) :
    Option (Call σ) :=
  history.find? fun call => call.request.usedKey? settings = some key

section

variable {σ : Type} {settings : ProposalSettings} {key : Digest} {history : List (Call σ)}
  {call : Call σ}

theorem firstWith_cons (rest : List (Call σ)) :
    firstWith settings key (call :: rest) =
      (if call.request.usedKey? settings = some key then some call else none).or
        (firstWith settings key rest) := by
  by_cases used : call.request.usedKey? settings = some key <;> simp [firstWith, used]

theorem firstWith_append (earlier later : List (Call σ)) :
    firstWith settings key (earlier ++ later) =
      (firstWith settings key earlier).or (firstWith settings key later) :=
  List.find?_append

theorem firstWith_eq_none_iff :
    firstWith settings key history = none ↔
      ∀ call ∈ history, call.request.usedKey? settings ≠ some key := by
  simp [firstWith]

/-- A key that a call used has a first call with it. -/
theorem exists_firstWith (listed : call ∈ history)
    (used : call.request.usedKey? settings = some key) :
    ∃ first, firstWith settings key history = some first :=
  Option.ne_none_iff_exists'.1 fun none => firstWith_eq_none_iff.1 none call listed used

theorem mem_of_firstWith (found : firstWith settings key history = some call) :
    call ∈ history :=
  List.mem_of_find?_eq_some found

theorem used_of_firstWith (found : firstWith settings key history = some call) :
    call.request.usedKey? settings = some key := by
  simpa using List.find?_some found

/-- In front of the first call with a key no call used the key. -/
theorem split_of_firstWith (found : firstWith settings key history = some call) :
    ∃ earlier later, history = earlier ++ call :: later ∧
      firstWith settings key earlier = none := by
  obtain ⟨_, earlier, later, split, unused⟩ := List.find?_eq_some_iff_append.1 found
  exact ⟨earlier, later, split, List.find?_eq_none.2 fun other front => by
    simpa using unused other front⟩

end

namespace Resolver

section

variable {σ : Type} (resolver : Resolver σ)

/-- The calls for a list of requests, each with the memory that the one before left behind. -/
def calls : List Request → Memory σ → List (Call σ)
  | [], _ => []
  | request :: rest, memory =>
    let (proposal, after) := resolver.propose request memory
    ⟨request, memory, proposal, after⟩ :: calls rest after

/-- What is remembered after the calls for a list of requests. -/
def remembered (requests : List Request) (memory : Memory σ) : Memory σ :=
  requests.foldl (fun memory request => (resolver.propose request memory).2) memory

@[simp] theorem remembered_nil (memory : Memory σ) : resolver.remembered [] memory = memory := rfl

@[simp] theorem remembered_cons (request : Request) (rest : List Request) (memory : Memory σ) :
    resolver.remembered (request :: rest) memory =
      resolver.remembered rest (resolver.propose request memory).2 := rfl

theorem calls_requests (requests : List Request) (start : Memory σ) :
    (resolver.calls requests start).map (·.request) = requests := by
  induction requests generalizing start with
  | nil => rfl
  | cons request rest ih => exact congrArg (request :: ·) (ih _)

theorem request_mem {requests : List Request} {start : Memory σ} {call : Call σ}
    (listed : call ∈ resolver.calls requests start) : call.request ∈ requests := by
  rw [← resolver.calls_requests requests start]
  exact List.mem_map_of_mem listed

/-- A call in a history starts from what the calls in front of it left behind. -/
theorem calls_split {requests : List Request} {start : Memory σ} {earlier later : List (Call σ)}
    {call : Call σ} (history : resolver.calls requests start = earlier ++ call :: later) :
    earlier = resolver.calls (earlier.map (·.request)) start ∧
    call.before = resolver.remembered (earlier.map (·.request)) start ∧
    resolver.propose call.request call.before = (call.proposal, call.after) := by
  -- The induction takes the calls in front of this one away, first things first.
  induction earlier generalizing requests start with
  | nil =>
    cases requests with
    | nil => cases history
    | cons request rest =>
      obtain ⟨rfl, _⟩ := List.cons.inj history
      -- The first call found what the history started with.
      exact ⟨rfl, rfl, rfl⟩
  | cons first earlier ih =>
    cases requests with
    | nil => cases history
    | cons request rest =>
      obtain ⟨rfl, behind⟩ := List.cons.inj history
      obtain ⟨same, before, made⟩ := ih behind
      exact ⟨congrArg _ same, before, made⟩

end

section

variable (settings : ProposalSettings) (service : Option Service)

/--
What a call can do with a store in memory.

In direct mode it touches nothing. With a key that has a proposal it gives that out and touches
nothing either. With a new key it settles a proposal and keeps it.
-/
theorem propose_inMemory (request : Request) (memory : Memory (List (Digest × Patch))) :
    let resolver := inMemory settings service
    (request.usedKey? settings = none ∧ resolver.propose request memory =
      (⟨directModePatch request.prompt, .directMode, [], none⟩, memory)) ∨
    (∃ key patch, request.usedKey? settings = some key ∧ memory.kept.lookup key = some patch ∧
      resolver.propose request memory = (⟨patch, .cache, [], none⟩, memory)) ∨
    (∃ key, request.usedKey? settings = some key ∧ memory.kept.lookup key = none ∧
      let asked := resolver.ask (request.bounded settings) memory.sent
      let settled := settle (request.bounded settings) asked.1
      resolver.propose request memory =
        (settled, ⟨(key, settled.patch) :: memory.kept, asked.2⟩)) := by
  intro resolver
  -- The cases are those of the call: direct mode, a proposal that is kept, none that is.
  by_cases direct : isDirectMode request.prompt settings.directModeKeyword = true
  · exact .inl ⟨by simp [Request.usedKey?, direct], resolver.propose_direct request memory direct⟩
  · have indirect : isDirectMode request.prompt settings.directModeKeyword = false := by
      simpa using direct
    have used := Request.usedKey?_of_indirect indirect
    cases found : memory.kept.lookup ((request.bounded settings).key settings) with
    -- The store has it, so no service is asked.
    | some patch =>
      exact .inr (.inl ⟨_, patch, used, found,
        resolver.propose_kept request memory indirect (congrArg some found)⟩)
    | none =>
      refine .inr (.inr ⟨_, used, found, ?_⟩)
      simp [resolver, propose, indirect, inMemory, Store.memory, found, make, keep]

/-- A proposal that is kept stays kept, and one that is not is kept by a call with its key. -/
theorem lookup_propose (request : Request) (memory : Memory (List (Digest × Patch)))
    (key : Digest) :
    let made := (inMemory settings service).propose request memory
    made.2.kept.lookup key = (memory.kept.lookup key).or
      (if request.usedKey? settings = some key then some made.1.patch else none) := by
  -- Only the third case keeps something new, and under its own key alone.
  rcases propose_inMemory settings service request memory with
    ⟨unused, made⟩ | ⟨own, patch, used, kept, made⟩ | ⟨own, used, unkept, made⟩
  · simp [made, unused]
  · by_cases same : own = key
    · subst same
      simp [made, kept]
    · simp [made, used, same]
  · by_cases same : own = key
    · subst same
      simp [made, used, unkept]
    · simp [made, used, same, List.lookup_cons, beq_false_of_ne (Ne.symm same)]

/-- What is kept after a history was kept before it, or the first call with the key proposed it. -/
theorem lookup_remembered (requests : List Request) (start : Memory (List (Digest × Patch)))
    (key : Digest) :
    let resolver := inMemory settings service
    (resolver.remembered requests start).kept.lookup key = (start.kept.lookup key).or
      ((firstWith settings key (resolver.calls requests start)).map (·.proposal.patch)) := by
  intro resolver
  -- By induction on the requests: the first one is in front of all others that use the key.
  induction requests generalizing start with
  | nil => simp [calls, firstWith]
  | cons request rest ih =>
    rw [remembered_cons, ih, lookup_propose settings service request start key, calls,
      firstWith_cons, Option.or_assoc]
    by_cases used : request.usedKey? settings = some key <;> simp [used, resolver]

end

section

variable {settings : ProposalSettings} {service : Option Service} {requests : List Request}
  {earlier later : List (Call (List (Digest × Patch)))} {call : Call (List (Digest × Patch))}
  (history : (inMemory settings service).calls requests .fresh = earlier ++ call :: later)
include history

/-- Before a call a key is kept with what the first call in front of it with that key proposed. -/
theorem lookup_before (key : Digest) :
    call.before.kept.lookup key = (firstWith settings key earlier).map (·.proposal.patch) := by
  obtain ⟨same, before, _⟩ := calls_split _ history
  rw [before, lookup_remembered, ← same]
  rfl

/-- A call in direct mode keeps the prompt and touches nothing. -/
theorem call_direct (unused : call.request.usedKey? settings = none) :
    call.proposal = ⟨directModePatch call.request.prompt, .directMode, [], none⟩ ∧
      call.after = call.before := by
  obtain ⟨_, _, made⟩ := calls_split _ history
  -- Without a key only the first of the three cases is left.
  rcases propose_inMemory settings service call.request call.before with
    ⟨_, other⟩ | ⟨_, _, used, _⟩ | ⟨_, used, _⟩
  · exact Prod.mk.inj (made.symm.trans other)
  all_goals cases unused.symm.trans used

/-- A call with a key that was used before is given what was proposed then, and touches nothing. -/
theorem call_again {key : Digest} (used : call.request.usedKey? settings = some key)
    {first : Call (List (Digest × Patch))} (found : firstWith settings key earlier = some first) :
    call.proposal = ⟨first.proposal.patch, .cache, [], none⟩ ∧ call.after = call.before := by
  obtain ⟨_, _, made⟩ := calls_split _ history
  -- The first call with the key has kept its patch by now.
  have kept := lookup_before history key
  rw [found, Option.map_some] at kept
  -- With a key that is kept only the second case is left.
  rcases propose_inMemory settings service call.request call.before with
    ⟨unused, _⟩ | ⟨own, patch, own_used, own_kept, other⟩ | ⟨own, own_used, unkept, _⟩
  · cases unused.symm.trans used
  · cases own_used.symm.trans used
    cases own_kept.symm.trans kept
    exact Prod.mk.inj (made.symm.trans other)
  · cases own_used.symm.trans used
    cases unkept.symm.trans kept

/-- A call with a key that is new settles a proposal from what the service contributes. -/
theorem call_anew {key : Digest} (used : call.request.usedKey? settings = some key)
    (new : firstWith settings key earlier = none) :
    let asked :=
      (inMemory settings service).ask (call.request.bounded settings) call.before.sent
    call.proposal = settle (call.request.bounded settings) asked.1 ∧
      call.after = ⟨(key, call.proposal.patch) :: call.before.kept, asked.2⟩ := by
  obtain ⟨_, _, made⟩ := calls_split _ history
  -- Nothing with the key was kept so far.
  have unkept := lookup_before history key
  rw [new, Option.map_none] at unkept
  -- With a key that is not kept only the third case is left.
  rcases propose_inMemory settings service call.request call.before with
    ⟨unused, _⟩ | ⟨own, patch, own_used, kept, _⟩ | ⟨own, own_used, _, other⟩
  · cases unused.symm.trans used
  · cases own_used.symm.trans used
    cases kept.symm.trans unkept
  · cases own_used.symm.trans used
    obtain ⟨proposal, after⟩ := Prod.mk.inj (made.symm.trans other)
    exact ⟨proposal, by rw [proposal]; exact after⟩

end

section

variable {settings : ProposalSettings} {service : Option Service} {requests : List Request}
  {call : Call (List (Digest × Patch))}

/--
Whatever a call with a key is given was settled by the first call with that key.

Only the first call asks the service, and only its document and its prompt are looked at.
-/
theorem call_settled (listed : call ∈ (inMemory settings service).calls requests .fresh)
    {key : Digest} (used : call.request.usedKey? settings = some key) :
    let resolver := inMemory settings service
    ∃ first, firstWith settings key (resolver.calls requests .fresh) = some first ∧
      first.request.usedKey? settings = some key ∧
      first.proposal = settle (first.request.bounded settings)
        (resolver.ask (first.request.bounded settings) first.before.sent).1 ∧
      call.proposal.patch = first.proposal.patch := by
  intro resolver
  -- The first call with the key found nothing in front of it, so it settled a proposal anew.
  obtain ⟨first, found⟩ := exists_firstWith listed used
  obtain ⟨_, _, history, new⟩ := split_of_firstWith found
  have first_used := used_of_firstWith found
  refine ⟨first, found, first_used, (call_anew history first_used new).1, ?_⟩
  -- What is in front of a call tells whether the call is the first one itself.
  obtain ⟨earlier, later, history⟩ := List.append_of_mem listed
  rw [history, firstWith_append, firstWith_cons, if_pos used] at found
  cases before : firstWith settings key earlier with
  | some other =>
    -- There is an earlier call with the key: this one was given its patch.
    rw [before, Option.some_or] at found
    rw [(call_again history used before).1, Option.some.inj found]
  | none =>
    -- There is none, so this call is the first one.
    rw [before, Option.none_or, Option.some_or] at found
    rw [Option.some.inj found]

/-- Calls with one key are given one patch. -/
theorem patch_same {other : Call (List (Digest × Patch))}
    (listed : call ∈ (inMemory settings service).calls requests .fresh)
    (other_listed : other ∈ (inMemory settings service).calls requests .fresh)
    {key : Digest} (used : call.request.usedKey? settings = some key)
    (other_used : other.request.usedKey? settings = some key) :
    call.proposal.patch = other.proposal.patch := by
  -- Both were given what the same first call settled.
  obtain ⟨first, found, _, _, patch⟩ := call_settled listed used
  obtain ⟨first', found', _, _, patch'⟩ := call_settled other_listed other_used
  cases found.symm.trans found'
  exact patch.trans patch'.symm

/-- Without a service the rules decide, for the first request with a key and for all later ones. -/
theorem rules_settled (listed : call ∈ (inMemory settings none).calls requests .fresh)
    {key : Digest} (used : call.request.usedKey? settings = some key) :
    ∃ first, firstWith settings key ((inMemory settings none).calls requests .fresh) = some first ∧
      first.request.usedKey? settings = some key ∧
      call.proposal.patch = rulePatch first.request := by
  obtain ⟨first, found, first_used, settled, patch⟩ := call_settled listed used
  -- Nothing is contributed, and the rules do not look at the summary.
  have rules : first.proposal.patch = rulePatch first.request := by
    rw [settled]
    rfl
  exact ⟨first, found, first_used, patch.trans rules⟩

/-- The second of two requests with one key is given what the rules say to the first one. -/
theorem rules_settled_pair {first second : Request} {key : Digest}
    (used : first.usedKey? settings = some key) (again : second.usedKey? settings = some key) :
    ∃ call ∈ (inMemory settings none).calls [first, second] .fresh,
      call.request = second ∧ call.proposal.patch = rulePatch first := by
  obtain ⟨front, call, history, asked, asked_last⟩ : ∃ front call,
      (inMemory settings none).calls [first, second] .fresh = [front, call] ∧
      front.request = first ∧ call.request = second := ⟨_, _, rfl, rfl, rfl⟩
  have listed : call ∈ (inMemory settings none).calls [first, second] .fresh := by simp [history]
  obtain ⟨other, found, _, patch⟩ := rules_settled listed (asked_last ▸ again)
  -- The first call of the two used the key, so it is the first one that did.
  rw [history, firstWith_cons, if_pos (asked ▸ used), Option.some_or] at found
  rw [← Option.some.inj found, asked] at patch
  exact ⟨call, listed, asked_last, patch⟩

end

/-- The keys of a list of entries are those that something is found under. -/
theorem mem_keys {entries : List (Digest × Patch)} {key : Digest} :
    key ∈ entries.map (·.1) ↔ (entries.lookup key).isSome := by
  rw [List.lookup_isSome_iff]
  simp

/-- As many texts were sent as proposals are kept, and these are kept under different keys. -/
structure Tally (memory : Memory (List (Digest × Patch))) : Prop where
  apart : (memory.kept.map (·.1)).Nodup
  even : memory.sent.length = memory.kept.length

section

variable (settings : ProposalSettings) (service : Service)

/-- With a service a proposal is kept exactly when a text is sent. -/
theorem tally_propose (request : Request) {memory : Memory (List (Digest × Patch))}
    (tally : Tally memory) :
    Tally ((inMemory settings (some service)).propose request memory).2 := by
  rcases propose_inMemory settings (some service) request memory with
    ⟨_, made⟩ | ⟨_, _, _, _, made⟩ | ⟨key, _, unkept, made⟩
  · rw [made]
    exact tally
  · rw [made]
    exact tally
  -- The key under which something is kept now had nothing before.
  · have new : key ∉ memory.kept.map (·.1) := by
      simp [mem_keys, unkept]
    rw [made]
    exact ⟨List.nodup_cons.2 ⟨new, tally.apart⟩, congrArg (· + 1) tally.even⟩

theorem tally_remembered (requests : List Request) {start : Memory (List (Digest × Patch))}
    (tally : Tally start) :
    Tally ((inMemory settings (some service)).remembered requests start) := by
  -- A fresh memory has as many texts as patches, and each call keeps it so.
  induction requests generalizing start with
  | nil => exact tally
  | cons request rest ih => exact ih (tally_propose settings service request tally)

/-- The keys of a history are those that something is kept under at its end. -/
theorem mem_keys_iff (requests : List Request) (key : Digest) :
    key ∈ ((inMemory settings (some service)).remembered requests .fresh).kept.map (·.1) ↔
      key ∈ requests.filterMap (·.usedKey? settings) := by
  -- In the beginning nothing is kept, so what is kept comes from a call.
  have nothing : Memory.fresh.kept.lookup key = none := rfl
  rw [mem_keys, lookup_remembered, nothing, Option.none_or, Option.isSome_map, firstWith,
    List.find?_isSome]
  -- The requests are those of the calls, of which some one used the key.
  conv_rhs => rw [← calls_requests (inMemory settings (some service)) requests .fresh]
  simp

/-- The service is sent one text for each key that the requests use. -/
theorem sent_length (requests : List Request) :
    ((inMemory settings (some service)).remembered requests .fresh).sent.length =
      (requests.filterMap (·.usedKey? settings)).toFinset.card := by
  -- As many texts as keys were kept, and these are the keys that were used.
  let after := (inMemory settings (some service)).remembered requests .fresh
  have tally : Tally after := tally_remembered settings service requests ⟨List.nodup_nil, rfl⟩
  have keys : (after.kept.map (·.1)).toFinset =
      (requests.filterMap (·.usedKey? settings)).toFinset := by
    ext key
    rw [List.mem_toFinset, List.mem_toFinset, mem_keys_iff]
  calc after.sent.length
      = (after.kept.map (·.1)).length := by rw [tally.even, List.length_map]
    _ = (after.kept.map (·.1)).toFinset.card := (List.toFinset_card_of_nodup tally.apart).symm
    _ = (requests.filterMap (·.usedKey? settings)).toFinset.card := by rw [keys]

/--
The service is asked once for each key, whatever it says, and a key's first proposal stays.

A call in direct mode is settled without any store or service. A call with a key that an earlier
one used is given the patch of that call. Each other call sends the service one text.
-/
theorem calls_once_per_key (requests : List Request) :
    let resolver := inMemory settings (some service)
    (∀ earlier call later, resolver.calls requests .fresh = earlier ++ call :: later →
      (call.request.usedKey? settings = none →
        call.proposal.source = .directMode ∧ call.after = call.before ∧
        ∀ {σ : Type} (other : Option Service) (store : Store σ) (memory : Memory σ),
          (Resolver.mk settings other store).propose call.request memory =
            (call.proposal, memory)) ∧
      ∀ key, call.request.usedKey? settings = some key →
        (∀ first ∈ earlier, first.request.usedKey? settings = some key →
          call.proposal = ⟨first.proposal.patch, .cache, [], none⟩ ∧
            call.after = call.before) ∧
        ((∀ first ∈ earlier, first.request.usedKey? settings ≠ some key) →
          call.after.sent = payload (call.request.bounded settings) :: call.before.sent)) ∧
    (resolver.remembered requests .fresh).sent.length =
      (requests.filterMap (·.usedKey? settings)).toFinset.card := by
  intro resolver
  refine ⟨fun earlier call later history => ⟨fun unused => ?_, fun key used => ⟨?_, ?_⟩⟩,
    sent_length settings service requests⟩
  · obtain ⟨proposal, same⟩ := call_direct history unused
    -- Direct mode is told by the prompt alone, whatever service and store there are.
    have direct : isDirectMode call.request.prompt settings.directModeKeyword = true := by
      simpa [Request.usedKey?] using unused
    refine ⟨by rw [proposal], same, fun other store memory => ?_⟩
    rw [proposal]
    exact propose_direct _ call.request memory direct
  · intro first front first_used
    -- All the calls in front with the key were given one patch, the first of them among others.
    obtain ⟨other, found⟩ := exists_firstWith front first_used
    obtain ⟨proposal, same⟩ := call_again history used found
    have listed : ∀ call' ∈ earlier, call' ∈ resolver.calls requests .fresh :=
      fun call' front => history ▸ List.mem_append_left _ front
    have patch : first.proposal.patch = other.proposal.patch :=
      patch_same (listed first front) (listed other (mem_of_firstWith found)) first_used
        (used_of_firstWith found)
    exact ⟨by rw [proposal, patch], same⟩
  · intro unused
    rw [(call_anew history used (firstWith_eq_none_iff.2 unused)).2]
    rfl

end

end Resolver

end Minigame.Proposal
