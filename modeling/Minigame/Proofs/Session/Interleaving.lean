import Minigame.Proofs.Session.Calls

/-!
Calls that overlap: between the two halves of a call others may read and write.

A call may write what it has read long ago. So what is to hold of all records must be kept by the
second half of a call on its own, whatever is stored by then.
-/

namespace Minigame

open Minigame.Text Minigame.Proposal

/-- Sessions with calls under way, which have read their records and not written them yet. -/
structure Underway (κ : Type) where
  state : StudioState κ Records
  pending : List Pending

/-- Sessions before their first call. -/
def Underway.fresh {κ : Type} (proposals : Memory κ) : Underway κ :=
  ⟨.fresh proposals, []⟩

/-- What may happen next where calls overlap. -/
inductive SessionEvent (κ : Type) where
  | create (user : String) (creatorName : Option String) (id : GameId) (now : Timestamp)
  /-- The first half of a change. -/
  | read (user : String) (id : GameId) (change : Change)
  /-- The second half of the change at a place among those under way. -/
  | write (place : Nat) (now : Timestamp)
  /-- Calls under way remember proposals and show pages before they write. -/
  | stir (proposals : Memory κ) (pages : Pages)

/-- A proposal is remembered only in a memory of this kind. -/
def SessionEvent.Stirs {κ : Type} (safe : Memory κ → Prop) : SessionEvent κ → Prop
  | .create .. => True
  | .read .. => True
  | .write .. => True
  | .stir proposals _ => safe proposals

/-- Nothing is asked of what is remembered. -/
theorem SessionEvent.stirs_true {κ : Type} (event : SessionEvent κ) :
    event.Stirs fun _ => True := by
  cases event <;> trivial

/-- The events of a call that no other one overlaps with. -/
def SessionCall.events {κ : Type} (now : Timestamp) : SessionCall → List (SessionEvent κ)
  | .create user creatorName id => [.create user creatorName id now]
  | .change user id edit => [.read user id edit, .write 0 now]
  | .play _ => []

/-- A call that no other one overlaps with remembers nothing before it writes. -/
theorem SessionCall.stirs_events {κ : Type} (safe : Memory κ → Prop) (now : Timestamp)
    (call : SessionCall) : ∀ event ∈ call.events now, event.Stirs safe := by
  -- Only the events of other calls remember something in between.
  cases call <;> simp [SessionCall.events, SessionEvent.Stirs]

namespace Studio

variable {κ : Type}

/-- What an event leaves; a change that is refused is not under way afterwards. -/
def step (studio : Studio κ Records) (underway : Underway κ) : SessionEvent κ → Underway κ
  | .create user creatorName id now =>
    { underway with state := (studio.create user creatorName id now underway.state).2 }
  | .read user id change =>
    match studio.start user id underway.state change with
    | .error _ => underway
    | .ok pending => { underway with pending := underway.pending ++ [pending] }
  | .write place now =>
    match underway.pending[place]? with
    | none => underway
    | some pending =>
      ⟨(studio.finish now underway.state pending).2, underway.pending.eraseIdx place⟩
  | .stir proposals pages => { underway with state := { underway.state with proposals, pages } }

/-- What a series of events leaves. -/
def run (studio : Studio κ Records) (events : List (SessionEvent κ)) (underway : Underway κ) :
    Underway κ :=
  events.foldl studio.step underway

@[simp] theorem run_nil (studio : Studio κ Records) (underway : Underway κ) :
    studio.run [] underway = underway := rfl

@[simp] theorem run_cons (studio : Studio κ Records) (event : SessionEvent κ)
    (events : List (SessionEvent κ)) (underway : Underway κ) :
    studio.run (event :: events) underway = studio.run events (studio.step underway event) := rfl

theorem run_append (studio : Studio κ Records) (events later : List (SessionEvent κ))
    (underway : Underway κ) :
    studio.run (events ++ later) underway = studio.run later (studio.run events underway) :=
  List.foldl_append ..

/-- A call that is served at once is a series of events that leaves nothing under way. -/
theorem run_events (studio : Studio κ Records) (call : SessionCall) (now : Timestamp)
    (state : StudioState κ Records) :
    studio.run (call.events now) ⟨state, []⟩ = ⟨(studio.serve now state call).2, []⟩ := by
  cases call with
  | create user creatorName id => rfl
  | play id => rfl
  | change user id change =>
    -- A change that is refused has nothing to write.
    simp only [SessionCall.events, run_cons, run_nil, step]
    cases started : studio.start user id state change with
    | error error => rw [serve_refused now started]; rfl
    | ok pending => rw [serve_started now started]; rfl

/-- Calls that are served one after the other are a series of events, too. -/
theorem run_calls (studio : Studio κ Records) (calls : List (Timestamp × SessionCall))
    (state : StudioState κ Records) :
    studio.run (calls.flatMap fun call => call.2.events call.1) ⟨state, []⟩ =
      ⟨studio.after calls state, []⟩ := by
  -- By induction on the calls, of which the first one leaves nothing under way.
  induction calls generalizing state with
  | nil => rfl
  | cons call rest ih => rw [List.flatMap_cons, run_append, run_events, ih]; rfl

section

variable {studio : Studio κ Records} {underway : Underway κ} {user : String} {id : GameId}
  {change : Change} {place : Nat}

/-- A change that is refused leaves no trace. -/
theorem step_refused {error : SessionError}
    (refused : studio.start user id underway.state change = .error error) :
    studio.step underway (.read user id change) = underway := by
  rw [step, refused]

/-- A change that passes its checks joins those under way. -/
theorem step_started {pending : Pending}
    (started : studio.start user id underway.state change = .ok pending) :
    studio.step underway (.read user id change) =
      { underway with pending := underway.pending ++ [pending] } := by
  rw [step, started]

/-- Nothing is written where no call is under way. -/
theorem step_absent (absent : underway.pending[place]? = none) (now : Timestamp) :
    studio.step underway (.write place now) = underway := by
  rw [step, absent]

variable (inMemory : studio.records = .memory)
include inMemory

/-- No game is made under the identifier of another one. -/
theorem step_taken {record : GameRecord} (taken : underway.state.records.get? id = some record)
    (user : String) (creatorName : Option String) (now : Timestamp) :
    studio.step underway (.create user creatorName id now) = underway := by
  rw [step, create_taken inMemory user creatorName now taken]

/-- A new game gets its draft. -/
theorem step_free (free : underway.state.records.get? id = none) (user : String)
    (creatorName : Option String) (now : Timestamp) :
    let draft := GameRecord.draft id user creatorName now studio.settings.autoDeleteHours
    studio.step underway (.create user creatorName id now) =
      { underway with
        state := { underway.state with records := underway.state.records.set draft } } := by
  rw [step, create_free inMemory user creatorName now free]

/-- A call under way writes what it makes of the record that it has read. -/
theorem step_write {pending : Pending} (there : underway.pending[place]? = some pending)
    (now : Timestamp) :
    ∃ pages, studio.step underway (.write place now) =
      ⟨⟨studio.remembered underway.state.proposals pending,
        underway.state.records.set (studio.written now underway.state.proposals pending), pages⟩,
        underway.pending.eraseIdx place⟩ := by
  -- The writing of a call cannot fail, since the records are in memory.
  obtain ⟨answer, pages, finished, _⟩ := finish_inMemory inMemory now underway.state pending
  exact ⟨pages, by rw [step, there]; simp only [finished]⟩

/--
What an event may do to the records and to the calls under way.

It leaves both as they are, or a game is made, or a call has read its record, or a call that has
done so writes.
-/
theorem step_cases (underway : Underway κ) (event : SessionEvent κ) :
    let next := studio.step underway event
    (next.state.records = underway.state.records ∧ next.pending = underway.pending ∧
      (next.state.proposals = underway.state.proposals ∨
        ∃ pages, event = .stir next.state.proposals pages)) ∨
    (∃ user creatorName id now, underway.state.records.get? id = none ∧
      next.state.records = underway.state.records.set
        (.draft id user creatorName now studio.settings.autoDeleteHours) ∧
      next.pending = underway.pending ∧ next.state.proposals = underway.state.proposals) ∨
    (∃ pending : Pending, underway.state.records.get? pending.id = some pending.record ∧
      pending.work.Fits pending.record ∧ next.state = underway.state ∧
      next.pending = underway.pending ++ [pending]) ∨
    ∃ place pending now, underway.pending[place]? = some pending ∧
      next.state.records = underway.state.records.set
        (studio.written now underway.state.proposals pending) ∧
      next.pending = underway.pending.eraseIdx place ∧
      next.state.proposals = studio.remembered underway.state.proposals pending := by
  intro next
  -- An event that fails falls under the first case, whatever it was.
  cases event with
  | create user creatorName id now =>
    cases taken : underway.state.records.get? id with
    | some record =>
      have next_eq : next = underway := step_taken inMemory taken user creatorName now
      exact .inl (by simp [next_eq])
    | none =>
      have next_eq := step_free inMemory taken user creatorName now
      exact .inr (.inl ⟨user, creatorName, id, now, taken, by simp [next, next_eq]⟩)
  | read user id change =>
    cases started : studio.start user id underway.state change with
    | error error =>
      have next_eq : next = underway := step_refused started
      exact .inl (by simp [next_eq])
    | ok pending =>
      -- The record that a change goes on with is the one that is stored.
      obtain ⟨own, there, fits⟩ := start_ok inMemory started
      exact .inr (.inr (.inl ⟨pending, own ▸ there, fits, by simp [next, step_started started]⟩))
  | write place now =>
    cases listed : underway.pending[place]? with
    | none =>
      have next_eq : next = underway := step_absent listed now
      exact .inl (by simp [next_eq])
    | some pending =>
      obtain ⟨pages, next_eq⟩ := step_write inMemory listed now
      exact .inr (.inr (.inr ⟨place, pending, now, listed, by simp [next, next_eq]⟩))
  | stir proposals pages => exact .inl ⟨rfl, rfl, .inr ⟨pages, rfl⟩⟩

/-- What the first turn of a game leaves: the record that it writes, of its user, and its proposal. -/
theorem run_first_turn (user : String) (creatorName : Option String) (id : GameId)
    {prompt : String} (nonblank : trim prompt ≠ "") (compiles : Bool) (proposals : Memory κ)
    (now later : Timestamp) :
    let draft := GameRecord.draft id user creatorName now studio.settings.autoDeleteHours
    let pending : Pending := ⟨id, draft, .turn compiles (trim prompt)⟩
    let record := studio.written later proposals pending
    let after := studio.run [.create user creatorName id now,
      .read user id (.turn compiles prompt), .write 0 later] (.fresh proposals)
    after.state.records.get? id = some record ∧ record.id = id ∧ record.owner = some user ∧
      after.state.proposals = studio.remembered proposals pending := by
  intro draft pending record after
  let made : Underway κ := ⟨⟨proposals, Records.set draft [], []⟩, []⟩
  have nothing : (Underway.fresh proposals).state.records.get? id = none := rfl
  -- The turn finds the draft of the user, which is the only record there is.
  have there : made.state.records.get? id = some draft := Records.get?_set_self draft []
  have editable : draft.isEditableBy user = true := by
    simp [draft, GameRecord.draft, GameRecord.isEditableBy]
  have started := start_turn inMemory there editable nonblank compiles
  let underway : Underway κ := ⟨made.state, [pending]⟩
  have only : underway.pending[0]? = some pending := rfl
  obtain ⟨pages, written⟩ := step_write inMemory only later
  have after_eq : after = ⟨⟨studio.remembered proposals pending,
      made.state.records.set (studio.written later proposals pending), pages⟩, []⟩ := by
    have created : studio.step (.fresh proposals) (.create user creatorName id now) = made :=
      step_free inMemory nothing user creatorName now
    have begun : studio.step made (.read user id (.turn compiles prompt)) = underway :=
      step_started started
    have ran : after = studio.step underway (.write 0 later) := by
      simp only [after, run_cons, run_nil, created, begun]
    exact ran.trans written
  -- What the turn writes says of its game's making what the draft says.
  have origin : record.origin = draft.origin := studio.written_origin later proposals pending
  have own : record.id = id := congrArg GameRecord.Origin.id origin
  have there : (made.state.records.set record).get? id = some record :=
    own ▸ Records.get?_set_self ..
  rw [after_eq]
  exact ⟨there, own, congrArg GameRecord.Origin.owner origin, rfl⟩

end

/-- What the second half of a call keeps of records, and of what is remembered about proposals. -/
structure Keeps (studio : Studio κ Records) (fits : GameRecord → Prop)
    (safe : Memory κ → Prop) : Prop where
  draft : ∀ id user creatorName now,
    fits (.draft id user creatorName now studio.settings.autoDeleteHours)
  written : ∀ now memory pending, safe memory → pending.Fit → fits pending.record →
    fits (studio.written now memory pending)
  remembered : ∀ memory pending, safe memory → pending.Fit → fits pending.record →
    safe (studio.remembered memory pending)

end Studio

/-- Something that holds of all records, stored and read, and of what is remembered. -/
structure Underway.Holds {κ : Type} (fits : GameRecord → Prop) (safe : Memory κ → Prop)
    (underway : Underway κ) : Prop where
  stored : ∀ id record, underway.state.records.get? id = some record → record.id = id ∧ fits record
  pending : ∀ pending ∈ underway.pending, pending.Fit ∧ fits pending.record
  proposals : safe underway.state.proposals

namespace Underway.Holds

variable {κ : Type} {studio : Studio κ Records} {fits : GameRecord → Prop} {safe : Memory κ → Prop}
  {underway : Underway κ}

/-- Before the first call there is no record that something could fail to hold of. -/
theorem fresh {proposals : Memory κ} (given : safe proposals) :
    (Underway.fresh proposals).Holds fits safe where
  stored _ _ there := by cases there
  pending _ listed := by cases listed
  proposals := given

section

variable (holds : underway.Holds fits safe)
include holds

/-- A record that is written for its game and fits is one of all the records that fit. -/
theorem stored_set {record : GameRecord} (good : fits record) {id : GameId} {found : GameRecord}
    (there : (underway.state.records.set record).get? id = some found) :
    found.id = id ∧ fits found := by
  -- What is found was written just now, or it was there before.
  rcases Records.of_get?_set there with ⟨rfl, rfl⟩ | old
  · exact ⟨rfl, good⟩
  · exact holds.stored id found old

variable (inMemory : studio.records = .memory) (keeps : studio.Keeps fits safe)
include inMemory keeps

/-- What new records have and the second half of a call keeps, an event keeps. -/
theorem step {event : SessionEvent κ} (stirs : event.Stirs safe) :
    (studio.step underway event).Holds fits safe := by
  rcases Studio.step_cases inMemory underway event with
    ⟨records, pending, proposals⟩ | ⟨user, creatorName, id, now, -, records, pending, proposals⟩ |
      ⟨call, there, fit, state, pending⟩ | ⟨place, call, now, listed, records, pending, proposals⟩
  · -- At most the proposals and the pages have been stirred.
    refine ⟨records ▸ holds.stored, pending ▸ holds.pending, ?_⟩
    rcases proposals with same | ⟨pages, stirred⟩
    · exact same ▸ holds.proposals
    · exact stirred ▸ stirs
  · -- The record of a new game is written, and nothing else happens.
    have good := keeps.draft id user creatorName now
    refine ⟨fun id record there => ?_, pending ▸ holds.pending, proposals ▸ holds.proposals⟩
    exact holds.stored_set good (records ▸ there)
  · -- A call joins those under way with a record that was stored.
    obtain ⟨own, good⟩ := holds.stored _ _ there
    refine ⟨state ▸ holds.stored, fun other listed => ?_, state ▸ holds.proposals⟩
    rw [pending, List.mem_append, List.mem_singleton] at listed
    rcases listed with earlier | rfl
    · exact holds.pending other earlier
    · exact ⟨⟨own, fit⟩, good⟩
  · -- The call was fit when it read, and that is all that its writing needs.
    obtain ⟨fit, good⟩ := holds.pending call (List.mem_of_getElem? listed)
    -- What the call writes is kept, and so is what it remembers.
    have kept := keeps.written now _ call holds.proposals fit good
    refine ⟨fun id record there => holds.stored_set kept (records ▸ there), fun other left => ?_, ?_⟩
    · exact holds.pending other (List.mem_of_mem_eraseIdx (pending ▸ left))
    · exact proposals ▸ keeps.remembered _ call holds.proposals fit good

/-- What new records have and the second half of a call keeps holds however calls overlap. -/
theorem run {events : List (SessionEvent κ)} (stirs : ∀ event ∈ events, event.Stirs safe) :
    (studio.run events underway).Holds fits safe := by
  -- By induction on the events, each of which starts from what the one before it has left.
  induction events generalizing underway with
  | nil => exact holds
  | cons event events ih =>
    rw [List.forall_mem_cons] at stirs
    have next : (studio.step underway event).Holds fits safe := holds.step inMemory keeps stirs.1
    exact ih next stirs.2

end

/-- What new records have and the second half of a call keeps, calls keep that are served in turn. -/
theorem after {state : StudioState κ Records} (served : Underway.Holds fits safe ⟨state, []⟩)
    (inMemory : studio.records = .memory) (keeps : studio.Keeps fits safe)
    (calls : List (Timestamp × SessionCall)) :
    Underway.Holds fits safe ⟨studio.after calls state, []⟩ := by
  rw [← Studio.run_calls]
  -- None of these events remembers anything in between.
  refine served.run inMemory keeps fun event listed => ?_
  obtain ⟨call, _, part⟩ := List.mem_flatMap.1 listed
  exact call.2.stirs_events safe call.1 event part

/-- What new records have and the second half of a call keeps holds in every state that is reached. -/
theorem reached (inMemory : studio.records = .memory) (keeps : studio.Keeps fits safe)
    {proposals : Memory κ} (given : safe proposals) {events : List (SessionEvent κ)}
    (stirs : ∀ event ∈ events, event.Stirs safe) :
    (studio.run events (.fresh proposals)).Holds fits safe :=
  (Underway.Holds.fresh given).run inMemory keeps stirs

end Underway.Holds

/-- Each call under way has read what its game's record still says from the time of its making. -/
def Underway.Anchored {κ : Type} (underway : Underway κ) : Prop :=
  ∀ call ∈ underway.pending,
    (underway.state.records.get? call.id).map GameRecord.origin = some call.record.origin

namespace Underway.Anchored

variable {κ : Type} {studio : Studio κ Records} {fits : GameRecord → Prop} {safe : Memory κ → Prop}
  {underway : Underway κ} {id : GameId} {origin : GameRecord.Origin}

/-- Before the first call there is nothing under way. -/
theorem fresh (proposals : Memory κ) : (Underway.fresh proposals).Anchored :=
  fun _ listed => by cases listed

variable (anchored : underway.Anchored) (inMemory : studio.records = .memory)
  (holds : underway.Holds fits safe)
include anchored inMemory holds

/-- No event takes a game away or changes what its record says from the time of its making. -/
theorem origin_step (event : SessionEvent κ)
    (there : (underway.state.records.get? id).map GameRecord.origin = some origin) :
    ((studio.step underway event).state.records.get? id).map GameRecord.origin = some origin := by
  rcases Studio.step_cases inMemory underway event with
    ⟨records, -⟩ | ⟨user, creatorName, made, now, free, records, -⟩ | ⟨-, -, -, state, -⟩ |
      ⟨place, call, now, listed, records, -⟩
  · rw [records, there]
  · -- A game is made only where there is none, so it is another one.
    have other : id ≠ made := by
      rintro rfl
      simp [free] at there
    rw [records, Records.get?_set_ne (by exact other), there]
  · rw [state, there]
  · -- A call writes what it has read, and this has the origin that is stored: it is anchored.
    have call_listed := List.mem_of_getElem? listed
    have written := studio.written_origin now underway.state.proposals call
    have own : (studio.written now underway.state.proposals call).id = call.id :=
      (studio.written_id ..).trans (holds.pending call call_listed).1.own
    by_cases same : id = call.id
    · rw [same] at there ⊢
      rw [records, ← own, Records.get?_set_self, Option.map_some, written,
        ← anchored call call_listed, there]
    · rw [records, Records.get?_set_ne (own ▸ same), there]

/-- Calls under way stay anchored. -/
theorem step (event : SessionEvent κ) : (studio.step underway event).Anchored := by
  intro call listed
  -- Either the call was under way before, or it has just read the record that is stored.
  have old (before : call ∈ underway.pending) := anchored.origin_step inMemory holds event
    (anchored call before)
  rcases Studio.step_cases inMemory underway event with
    ⟨-, pending, -⟩ | ⟨-, -, -, -, -, -, pending, -⟩ | ⟨read, there, -, state, pending⟩ |
      ⟨place, -, -, -, -, pending, -⟩
  · exact old (pending ▸ listed)
  · exact old (pending ▸ listed)
  · -- A call that has just read is anchored in what it has read.
    rw [pending, List.mem_append, List.mem_singleton] at listed
    rcases listed with before | rfl
    · exact old before
    · rw [state, there, Option.map_some]
  · exact old (List.mem_of_mem_eraseIdx (pending ▸ listed))

variable (keeps : studio.Keeps fits safe)
include keeps

/-- However calls overlap, they stay anchored. -/
theorem run {events : List (SessionEvent κ)} (stirs : ∀ event ∈ events, event.Stirs safe) :
    (studio.run events underway).Anchored := by
  -- A step needs that calls write to their own games, so both invariants are carried along.
  induction events generalizing underway with
  | nil => exact anchored
  | cons event events ih =>
    rw [List.forall_mem_cons] at stirs
    have next_anchored := anchored.step inMemory holds event
    have next_holds := holds.step inMemory keeps stirs.1
    exact ih next_anchored next_holds stirs.2

/-- However calls overlap, each game stays, with what its record says from the time of its making. -/
theorem origin_run {events : List (SessionEvent κ)} (stirs : ∀ event ∈ events, event.Stirs safe)
    (there : (underway.state.records.get? id).map GameRecord.origin = some origin) :
    ((studio.run events underway).state.records.get? id).map GameRecord.origin = some origin := by
  -- The origin that is stored now is stored after the first event, and so on.
  induction events generalizing underway with
  | nil => exact there
  | cons event events ih =>
    rw [List.forall_mem_cons] at stirs
    have next_anchored := anchored.step inMemory holds event
    have next_holds := holds.step inMemory keeps stirs.1
    have next_there := anchored.origin_step inMemory holds event there
    exact ih next_anchored next_holds stirs.2 next_there

end Underway.Anchored

end Minigame
