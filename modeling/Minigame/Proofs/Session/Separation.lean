import Minigame.Proofs.Session.Sharing

/-!
Games do not influence each other, although all of them share the proposals that are kept.

Two runs are compared: one with the events of all games, and one with the events of a single game,
in which other proposals may be kept and forgotten at other times. Each event of the game leaves it
with the same content in both runs, and the events of other games leave it alone.
-/

namespace Minigame

open Minigame.Text Minigame.Proposal

namespace GameRecord

/-- All that a record says but how the last change of its game came about. -/
def content (record : GameRecord) : GameRecord :=
  { record with metadata := none }

variable {record other : GameRecord} (same : record.content = other.content)
include same

/-- A record is another one with the same content up to how the last change came about. -/
theorem eq_of_content : other = { record with metadata := other.metadata } := by
  calc other
      = { other.content with metadata := other.metadata } := rfl
    _ = { record.content with metadata := other.metadata } := by rw [same]
    _ = { record with metadata := other.metadata } := rfl

/-- What a turn makes of the content of a record depends on the patch alone. -/
theorem content_afterTurn (summaryChars : Nat) (pages : Page.Registry) (prompt : String)
    (compiles : Bool) (model otherModel : String) (now : Timestamp) {proposal given : Proposal}
    (patch : proposal.patch = given.patch) :
    (record.afterTurn summaryChars pages prompt compiles model now proposal).1.content =
      (other.afterTurn summaryChars pages prompt compiles otherModel now given).1.content := by
  -- A turn reads nothing of how the last change came about, and writes it anew.
  rw [eq_of_content same]
  simp only [afterTurn, next, patch]
  rfl

end GameRecord

/-- A call under way with what its record says but how its game was changed last. -/
def Pending.content (pending : Pending) : Pending :=
  { pending with record := pending.record.content }

/-- Calls with one content ask for the same proposal. -/
theorem Pending.request?_eq {pending other : Pending} (same : pending.content = other.content) :
    other.request? = pending.request? := by
  obtain ⟨id, record, work⟩ := pending
  obtain ⟨other_id, other, other_work⟩ := other
  obtain ⟨rfl, content, rfl⟩ : id = other_id ∧ record.content = other.content ∧ work = other_work :=
    by simpa [Pending.content] using same
  rw [GameRecord.eq_of_content content]
  rfl

namespace Studio

section

variable {κ : Type} {studio : Studio κ Records} (inMemory : studio.records = .memory)
  {left right : StudioState κ Records} {id : GameId}
  (same : (left.records.get? id).map GameRecord.content =
    (right.records.get? id).map GameRecord.content)
include inMemory same

/-- What is found of a game, or why nothing is, does not depend on how it was changed last. -/
theorem find_content (user : String) :
    (∃ error, studio.find user id left = .error error ∧ studio.find user id right = .error error) ∨
    ∃ record other, studio.find user id left = .ok record ∧ studio.find user id right = .ok other ∧
      record.content = other.content := by
  simp only [find, inMemory, RecordStore.memory]
  -- A game that is not there is missing in both states.
  cases there : left.records.get? id with
  | none =>
    have missing : right.records.get? id = none := by simpa [there] using same.symm
    simp [missing]
  | some record =>
    obtain ⟨other, found, content⟩ : ∃ other, right.records.get? id = some other ∧
        other.content = record.content := by simpa [there] using same.symm
    -- Whether a user may change a game is a matter of its owner, whom both records share.
    have editable : record.isEditableBy user = other.isEditableBy user := by
      rw [GameRecord.eq_of_content content.symm]
      rfl
    simp only [found, ← editable]
    cases record.isEditableBy user with
    | true => exact .inr ⟨record, other, rfl, rfl, content.symm⟩
    | false => exact .inl ⟨_, rfl, rfl⟩

/-- The first half of a change does not depend on how the game was changed last. -/
theorem start_content (user : String) (change : Change) :
    (∃ error, studio.start user id left change = .error error ∧
      studio.start user id right change = .error error) ∨
    ∃ pending other, studio.start user id left change = .ok pending ∧
      studio.start user id right change = .ok other ∧ pending.content = other.content := by
  unfold start
  -- A blank prompt is refused before any game is looked for.
  by_cases blank : change.isBlank = true
  · exact .inl ⟨_, if_pos blank, if_pos blank⟩
  · rw [if_neg blank, if_neg blank]
    rcases find_content inMemory same user with
      ⟨error, found, other_found⟩ | ⟨record, other, found, other_found, content⟩
    · exact .inl ⟨error, by rw [found], by rw [other_found]⟩
    · -- What is left to be done is read off the content of the record.
      have work : other.work change = record.work change := by
        rw [GameRecord.eq_of_content content]
        rfl
      simp only [found, other_found, work]
      cases record.work change with
      | error error => exact .inl ⟨error, rfl, rfl⟩
      | ok work => exact .inr ⟨_, _, rfl, rfl, congrArg (Pending.mk id · work) content⟩

end

/-- The second half of a change depends on the patch and not on how the game was changed last. -/
theorem written_content {κ : Type} {studio : Studio κ Records} {pending other : Pending}
    (same : pending.content = other.content) (now : Timestamp) {memory other_memory : Memory κ}
    (patch : ∀ request, pending.request? = some request →
      (studio.resolver.propose request memory).1.patch =
        (studio.resolver.propose request other_memory).1.patch) :
    (studio.written now memory pending).content =
      (studio.written now other_memory other).content := by
  have asks := Pending.request?_eq same
  obtain ⟨id, record, work⟩ := pending
  obtain ⟨other_id, other, other_work⟩ := other
  obtain ⟨rfl, content, rfl⟩ : id = other_id ∧ record.content = other.content ∧ work = other_work :=
    by simpa [Pending.content] using same
  cases work with
  | turn compiles prompt =>
    -- Both ask for the same proposal, as a request is made of the content alone.
    have request : other.request prompt = record.request prompt := Option.some.inj asks
    have patch := patch (record.request prompt) rfl
    simp only [written, request]
    exact GameRecord.content_afterTurn content _ _ _ _ _ _ _ patch
  | compile =>
    -- What is compiled and what is published is part of the content.
    simp only [written]
    rw [GameRecord.eq_of_content content]
    rfl
  | publish title description html =>
    simp only [written]
    rw [GameRecord.eq_of_content content]
    rfl

end Studio

/-- What is left of a list with an entry taken out, where the entries with a property are told. -/
theorem List.filter_eraseIdx {α : Type} (holds : α → Bool) {entries : List α} {place : Nat}
    {entry : α} (there : entries[place]? = some entry) :
    let among := ((entries.take place).filter holds).length
    (holds entry = true → (entries.filter holds)[among]? = some entry ∧
      (entries.eraseIdx place).filter holds = (entries.filter holds).eraseIdx among) ∧
    (holds entry = false → (entries.eraseIdx place).filter holds = entries.filter holds) := by
  intro among
  -- The entry stands between what is in front of its place and what is behind it.
  obtain ⟨inside, here⟩ := List.getElem?_eq_some_iff.1 there
  have whole : entries = entries.take place ++ entry :: entries.drop (place + 1) := by
    rw [← here, ← List.drop_eq_getElem_cons inside, List.take_append_drop]
  have filtered : entries.filter holds = (entries.take place).filter holds ++
      (entry :: entries.drop (place + 1)).filter holds := by
    rw [← List.filter_append, ← whole]
  rw [List.eraseIdx_eq_take_drop_succ, List.filter_append, filtered]
  constructor
  · intro kept
    rw [List.filter_cons_of_pos kept]
    exact ⟨by simp [among], by simp [among, List.eraseIdx_append_of_length_le]⟩
  · intro dropped
    rw [List.filter_cons_of_neg (by simp [dropped])]

/--
The event as one of a game alone, if it is about the game.

Among the calls of the game alone a call that writes stands at another place than among all calls.
-/
def Underway.own? {κ : Type} (underway : Underway κ) (id : GameId) :
    SessionEvent κ → Option (SessionEvent κ)
  | .create user creatorName made now =>
    if made = id then some (.create user creatorName made now) else none
  | .read user game change => if game = id then some (.read user game change) else none
  | .write place now =>
    let among := ((underway.pending.take place).filter (·.id = id)).length
    underway.pending[place]?.bind fun pending =>
      if pending.id = id then some (.write among now) else none
  | .stir .. => none

/-- The events of a run that are about a game. -/
def Studio.ownEvents {κ : Type} (studio : Studio κ Records) (id : GameId) :
    List (SessionEvent κ) → Underway κ → List (SessionEvent κ)
  | [], _ => []
  | event :: rest, underway =>
    (underway.own? id event).toList ++ studio.ownEvents id rest (studio.step underway event)

/-- Two runs have come equally far with a game, but for how it was changed last. -/
structure Underway.Alike {κ : Type} (id : GameId) (left right : Underway κ) : Prop where
  stored : (left.state.records.get? id).map GameRecord.content =
    (right.state.records.get? id).map GameRecord.content
  pending : (left.pending.filter (·.id = id)).map Pending.content =
    right.pending.map Pending.content

namespace Underway.Alike

variable {κ : Type} {studio : Studio κ Records} {id : GameId} {left right : Underway κ}
  (alike : Alike id left right)
include alike

/-- Keeping and forgetting proposals makes no difference to a game. -/
theorem stir {event : SessionEvent κ} (stirs : event.isStir = true) :
    Alike id left (studio.step right event) := by
  cases event with
  | create | read | write => cases stirs
  | stir proposals pages => exact ⟨alike.stored, alike.pending⟩

variable (inMemory : studio.records = .memory)
include inMemory

/-- The events of other games make no difference to a game. -/
theorem other {fits : GameRecord → Prop} {safe : Memory κ → Prop} (holds : left.Holds fits safe)
    {event : SessionEvent κ} (foreign : left.own? id event = none) :
    Alike id (studio.step left event) right := by
  cases event with
  | create user creatorName made now =>
    -- Under the identifier of a game that is there nothing is made.
    cases taken : left.state.records.get? made with
    | some record => rwa [Studio.step_taken inMemory taken]
    | none =>
      -- The draft is that of another game.
      have different : id ≠ made := by
        rintro rfl
        simp [own?] at foreign
      rw [Studio.step_free inMemory taken]
      refine ⟨?_, alike.pending⟩
      rw [← alike.stored, Records.get?_set_ne (by exact different)]
  | read user game change =>
    cases started : studio.start user game left.state change with
    | error error => rwa [Studio.step_refused started]
    | ok pending =>
      -- The change that joins the others is one of another game.
      have game_eq := (Studio.start_ok inMemory started).1
      have different : pending.id ≠ id := by
        intro same
        simp [own?, ← game_eq, same] at foreign
      rw [Studio.step_started started]
      refine ⟨alike.stored, ?_⟩
      rw [← alike.pending, List.filter_append]
      simp [different]
  | write place now =>
    cases there : left.pending[place]? with
    | none => rwa [Studio.step_absent there]
    | some pending =>
      -- A call that writes is one of another game, since it is not among the game's own.
      have different : pending.id ≠ id := by
        rintro rfl
        simp [own?, there] at foreign
      obtain ⟨fit, _⟩ := holds.pending pending (List.mem_of_getElem? there)
      have game : (studio.written now left.state.proposals pending).id = pending.id :=
        (studio.written_id ..).trans fit.own
      obtain ⟨pages, next⟩ := Studio.step_write inMemory there now
      obtain ⟨_, dropped⟩ := List.filter_eraseIdx (·.id = id) there
      rw [next]
      refine ⟨?_, ?_⟩
      · -- What is written is the record of another game.
        rw [← alike.stored, Records.get?_set_ne (game ▸ Ne.symm different)]
      · rw [← alike.pending, dropped (by simp [different])]
  | stir proposals pages => exact ⟨alike.stored, alike.pending⟩

/-- A game is made in both runs or in neither of them. -/
theorem create (user : String) (creatorName : Option String) (now : Timestamp) :
    Alike id (studio.step left (.create user creatorName id now))
      (studio.step right (.create user creatorName id now)) := by
  have same := alike.stored
  -- The game is there in both runs or in neither of them.
  cases taken : left.state.records.get? id with
  | some record =>
    obtain ⟨found, there, _⟩ : ∃ found, right.state.records.get? id = some found ∧
        found.content = record.content := by simpa [taken] using same.symm
    rwa [Studio.step_taken inMemory taken, Studio.step_taken inMemory there]
  | none =>
    have free : right.state.records.get? id = none := by simpa [taken] using same.symm
    -- A draft says nothing of the games that there are.
    have made (records : Records) (draft : GameRecord) (own : draft.id = id) :
        (records.set draft).get? id = some draft := by
      rw [← own, Records.get?_set_self]
    rw [Studio.step_free inMemory taken, Studio.step_free inMemory free]
    refine ⟨?_, alike.pending⟩
    rw [made _ _ rfl, made _ _ rfl]

/-- A change of the game is refused in both runs, or it has read the same content in both. -/
theorem read (user : String) (change : Change) :
    studio.requested? right (.read user id change) =
      studio.requested? left (.read user id change) ∧
    Alike id (studio.step left (.read user id change))
      (studio.step right (.read user id change)) := by
  rcases Studio.start_content inMemory alike.stored user change with
    ⟨error, refused, other_refused⟩ | ⟨pending, other, started, other_started, same⟩
  · -- A refused change leaves no trace in either run.
    rw [Studio.step_refused refused, Studio.step_refused other_refused, Studio.requested?,
      Studio.requested?, refused, other_refused]
    exact ⟨rfl, alike⟩
  · have own : pending.id = id := (Studio.start_ok inMemory started).1
    rw [Studio.step_started started, Studio.step_started other_started, Studio.requested?,
      Studio.requested?, started, other_started]
    refine ⟨Pending.request?_eq same, alike.stored, ?_⟩
    -- In each run the change stands behind all others.
    rw [List.filter_append, List.map_append, List.map_append, alike.pending]
    simp [own, same]

omit inMemory in
/-- A call under way in one run is under way in the other, at its place among those of its game. -/
theorem counterpart {place : Nat} {pending : Pending} (there : left.pending[place]? = some pending)
    (own : pending.id = id) :
    ∃ other, right.pending[((left.pending.take place).filter (·.id = id)).length]? = some other ∧
      other.content = pending.content := by
  obtain ⟨kept, _⟩ := List.filter_eraseIdx (·.id = id) there
  obtain ⟨among, _⟩ := kept (by simp [own])
  -- The calls of the game are the same up to their contents, place by place.
  have contents := congrArg (·[((left.pending.take place).filter (·.id = id)).length]?) alike.pending
  rw [List.getElem?_map, List.getElem?_map, among] at contents
  simpa using contents.symm

variable {contents : κ → Contents} {requests : List Request}
  (lossy : studio.proposals.Lossy contents) (unserved : studio.service = none)
  (short : ∀ request ∈ requests, request.prompt.length ≤ studio.settings.proposals.promptKeyChars)
  (apart : KeysApart studio.settings.proposals requests)
  (seeded : ∀ request ∈ requests, Seeded request.doc)
  (left_settled : left.Settled contents studio.settings.proposals requests)
  (right_settled : right.Settled contents studio.settings.proposals requests)
include lossy unserved short apart seeded left_settled right_settled

/-- A call of the game writes the same content in both runs, whatever is kept in either of them. -/
theorem write {place : Nat} {pending : Pending} (there : left.pending[place]? = some pending)
    (own : pending.id = id) (now : Timestamp) :
    let among := ((left.pending.take place).filter (·.id = id)).length
    Alike id (studio.step left (.write place now)) (studio.step right (.write among now)) := by
  intro among
  obtain ⟨other, other_there, same⟩ := alike.counterpart there own
  have same := same.symm
  have other_own : other.id = id := (congrArg Pending.id same).symm.trans own
  -- Both calls are given the request's own patch.
  have patches : ∀ request, pending.request? = some request →
      (studio.resolver.propose request left.state.proposals).1.patch =
        (studio.resolver.propose request right.state.proposals).1.patch := by
    intro request asks
    have listed := left_settled.asked pending (List.mem_of_getElem? there) request asks
    have mine := studio.resolver.propose_own lossy unserved short apart seeded left_settled.kept
      listed
    have theirs := studio.resolver.propose_own lossy unserved short apart seeded
      right_settled.kept listed
    exact mine.trans theirs.symm
  have content := Studio.written_content same now patches
  -- So the records that are found in both runs afterwards have the same content.
  have found {underway : Underway κ}
      (settled : underway.Settled contents studio.settings.proposals requests) {place : Nat}
      {call : Pending} (there : underway.pending[place]? = some call) (own : call.id = id) :
      (underway.state.records.set (studio.written now underway.state.proposals call)).get? id =
        some (studio.written now underway.state.proposals call) := by
    obtain ⟨fit, _⟩ := settled.holds.pending call (List.mem_of_getElem? there)
    have game : (studio.written now underway.state.proposals call).id = id :=
      (studio.written_id ..).trans (fit.own.trans own)
    exact game ▸ Records.get?_set_self ..
  obtain ⟨_, next⟩ := Studio.step_write inMemory there now
  obtain ⟨_, other_next⟩ := Studio.step_write inMemory other_there now
  rw [next, other_next]
  refine ⟨?_, ?_⟩
  · rw [found left_settled there own, found right_settled other_there other_own, Option.map_some,
      Option.map_some, content]
  · -- The calls that have written stand at the same place among those of the game.
    obtain ⟨kept, _⟩ := List.filter_eraseIdx (·.id = id) there
    obtain ⟨_, taken⟩ := kept (by simp [own])
    rw [taken, ← List.eraseIdx_map, alike.pending, List.eraseIdx_map]

/-- An event of the game leads to the same content in both runs, and asks for the same proposal. -/
theorem own {event mine : SessionEvent κ} (own : left.own? id event = some mine) :
    studio.requested? right mine = studio.requested? left event ∧ (∀ safe, mine.Stirs safe) ∧
      Alike id (studio.step left event) (studio.step right mine) := by
  cases event with
  | create user creatorName made now =>
    obtain ⟨rfl, rfl⟩ : made = id ∧ .create user creatorName made now = mine := by
      simpa [own?] using own
    exact ⟨rfl, fun _ => trivial, alike.create inMemory user creatorName now⟩
  | read user game change =>
    obtain ⟨rfl, rfl⟩ : game = id ∧ .read user game change = mine := by simpa [own?] using own
    obtain ⟨asks, next⟩ := alike.read inMemory user change
    exact ⟨asks, fun _ => trivial, next⟩
  | write place now =>
    obtain ⟨pending, there, game, rfl⟩ : ∃ pending, left.pending[place]? = some pending ∧
        pending.id = id ∧
        .write ((left.pending.take place).filter (·.id = id)).length now = mine := by
      simpa [own?, Option.bind_eq_some_iff] using own
    exact ⟨rfl, fun _ => trivial, alike.write inMemory lossy unserved short apart seeded
      left_settled right_settled there game now⟩
  | stir proposals pages => cases own

omit inMemory lossy unserved short apart seeded left_settled right_settled in
theorem stirs {waits : List (SessionEvent κ)} (idle : ∀ event ∈ waits, event.isStir = true) :
    Alike id left (studio.run waits right) := by
  -- By induction on the events, none of which is about a game.
  induction waits generalizing right with
  | nil => exact alike
  | cons event rest ih =>
    rw [List.forall_mem_cons] at idle
    exact ih (alike.stir idle.1) idle.2

/-- A game has the same content after all events and after its own ones alone. -/
theorem run {events alone : List (SessionEvent κ)}
    (stirs : ∀ event ∈ events,
      event.Stirs (Memory.RuledBy contents studio.settings.proposals requests))
    (alone_stirs : ∀ event ∈ alone,
      event.Stirs (Memory.RuledBy contents studio.settings.proposals requests))
    (listed : ∀ request ∈ studio.requests events left, request ∈ requests)
    (same : alone.filter (!·.isStir) = studio.ownEvents id events left) :
    Alike id (studio.run events left) (studio.run alone right) := by
  -- By induction on the events of all games; the run of the game alone waits for the next of its own.
  induction events generalizing left right alone with
  | nil =>
    -- When all events of the game have happened, the run of the game alone can only stir.
    refine alike.stirs fun event there => ?_
    simpa using List.filter_eq_nil_iff.1 same event there
  | cons event events ih =>
    rw [List.forall_mem_cons] at stirs
    have next_settled := left_settled.step inMemory lossy unserved stirs.1
      (Studio.mem_requests_head listed)
    have later := Studio.mem_requests_tail listed
    cases about : left.own? id event with
    | none =>
      -- An event of another game happens in one run alone.
      have same : alone.filter (!·.isStir) = studio.ownEvents id events (studio.step left event) :=
        by simpa [Studio.ownEvents, about] using same
      exact ih (alike.other inMemory left_settled.holds about) next_settled right_settled stirs.2
        alone_stirs later same
    | some mine =>
      -- An event of the game comes next in the other run, once this has stirred what it will.
      have same : alone.filter (!·.isStir) =
          mine :: studio.ownEvents id events (studio.step left event) := by
        simpa [Studio.ownEvents, about] using same
      obtain ⟨waits, rest, rfl, idle, -, same⟩ := List.filter_eq_cons_iff.1 same
      have idle : ∀ event ∈ waits, event.isStir = true := fun event there => by
        simpa using idle event there
      rw [List.forall_mem_append, List.forall_mem_cons] at alone_stirs
      obtain ⟨waits_stirs, mine_stirs, rest_stirs⟩ := alone_stirs
      have waited := right_settled.wait inMemory lossy unserved idle waits_stirs
      obtain ⟨asks, -, alike⟩ := (alike.stirs idle).own inMemory lossy unserved short apart seeded
        left_settled waited about
      have other_settled := waited.step inMemory lossy unserved mine_stirs
        fun request wanted => Studio.mem_requests_head listed request (asks ▸ wanted)
      rw [Studio.run_append]
      exact ih alike next_settled other_settled stirs.2 rest_stirs later same

end Underway.Alike

namespace Studio

/--
Games do not influence each other without a service.

However calls overlap, and whatever the store of proposals forgets meanwhile, a game is left with the
content that its own calls alone would have left it with, whatever is kept and forgotten then. No
prompt is longer than the part of it that goes into its key, and what goes into keys has different
digests.
-/
theorem games_apart {κ : Type} {studio : Studio κ Records} {contents : κ → Contents}
    (inMemory : studio.records = .memory) (lossy : studio.proposals.Lossy contents)
    (unserved : studio.service = none) {proposals others : Memory κ}
    (empty : ∀ key, contents proposals.kept key = none)
    (others_empty : ∀ key, contents others.kept key = none)
    {events alone : List (SessionEvent κ)} {id : GameId}
    (own : alone.filter (!·.isStir) = studio.ownEvents id events (.fresh proposals))
    (stirs : ∀ event ∈ events ++ alone, event.Stirs (Memory.RuledBy contents
      studio.settings.proposals (studio.requests events (.fresh proposals))))
    (short : ∀ request ∈ studio.requests events (.fresh proposals),
      request.prompt.length ≤ studio.settings.proposals.promptKeyChars)
    (apart : KeysApart studio.settings.proposals (studio.requests events (.fresh proposals))) :
    ((studio.run events (.fresh proposals)).state.records.get? id).map GameRecord.content =
      ((studio.run alone (.fresh others)).state.records.get? id).map GameRecord.content := by
  rw [List.forall_mem_append] at stirs
  have fresh := Underway.Settled.fresh studio.settings.proposals
    (studio.requests events (.fresh proposals)) empty
  have others_fresh := Underway.Settled.fresh studio.settings.proposals
    (studio.requests events (.fresh proposals)) others_empty
  have seeded := requests_seeded inMemory lossy unserved fresh.holds
    fun event listed => (stirs.1 event listed).ruled
  -- Before the first event there are no games and no calls under way in either run.
  have alike : Underway.Alike id (.fresh proposals) (.fresh others) := ⟨rfl, rfl⟩
  exact (alike.run inMemory lossy unserved short apart seeded fresh others_fresh stirs.1 stirs.2
    (fun _ listed => listed) own).stored

/--
A game that asks for what another one was given is left as it would be on its own.

Both calls are under way at once, and what was kept for the first one is forgotten before the second
one writes.
-/
theorem games_apart_pop :
    let studio := Studio.inMemory .default none
    let mine : List (SessionEvent _) :=
      [.create "ann" none ⟨1⟩ ⟨0, 0⟩, .read "ann" ⟨1⟩ (.turn true "pop"), .write 0 ⟨3, 0⟩]
    let events : List (SessionEvent _) :=
      [.create "ann" none ⟨1⟩ ⟨0, 0⟩, .create "bob" none ⟨2⟩ ⟨0, 0⟩,
        .read "bob" ⟨2⟩ (.turn true "pop"), .read "ann" ⟨1⟩ (.turn true "pop"), .write 0 ⟨1, 0⟩,
        .stir .fresh [], .write 0 ⟨3, 0⟩]
    let request : Request := ⟨Design.starter "pop", "pop", ""⟩
    studio.requests events (.fresh .fresh) = [request, request] ∧
    studio.ownEvents ⟨1⟩ events (.fresh .fresh) = mine ∧
    ((studio.run events (.fresh .fresh)).state.records.get? ⟨1⟩).map GameRecord.content =
      ((studio.run mine (.fresh .fresh)).state.records.get? ⟨1⟩).map GameRecord.content := by
  intro studio mine events request
  have asked : studio.requests events (.fresh .fresh) = [request, request] := by decide +kernel
  -- Both turns ask for the same proposal, so no two keys could be mixed up.
  have own : studio.ownEvents ⟨1⟩ events (.fresh .fresh) = mine := by rfl
  have same : ∀ other ∈ studio.requests events (.fresh .fresh), other = request := by simp [asked]
  have short : ∀ other ∈ studio.requests events (.fresh .fresh),
      other.prompt.length ≤ SessionSettings.default.proposals.promptKeyChars := by
    intro other listed
    rw [same other listed]
    decide
  have apart : KeysApart SessionSettings.default.proposals
      (studio.requests events (.fresh .fresh)) :=
    .of_keyInput _ fun other listed => by rw [same other listed]
  have empty (key : Digest) : entriesOf (Memory.fresh).kept key = none := rfl
  have stirs : ∀ event ∈ events ++ mine, event.Stirs (Memory.RuledBy entriesOf
      SessionSettings.default.proposals (studio.requests events (.fresh .fresh))) := by
    simp [events, mine, SessionEvent.Stirs, Memory.RuledBy.of_empty empty]
  exact ⟨asked, own, games_apart rfl Store.memory_lossy rfl empty empty (own ▸ rfl) stirs short
    apart⟩

end Studio

end Minigame
