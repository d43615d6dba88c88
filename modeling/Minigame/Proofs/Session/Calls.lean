import Minigame.Proofs.Text.Trim
import Minigame.Session.Studio

/-!
Calls on sessions, and the two halves of a call that changes a game.

The first half reads the one record that the call is about and makes all its checks. The second half
works on what was read, whatever has happened since, and writes one record.
-/

namespace Minigame

open Minigame.Text Minigame.Proposal

/-- What a user wants to be done with a game. -/
inductive Change where
  /-- A change by a prompt, with a page made or without. -/
  | turn (compiles : Bool) (prompt : String)
  | compile
  | publish (title : String) (description : Option String)

/-- Whether the text that a change needs is blank. -/
def Change.isBlank : Change → Bool
  | .turn _ prompt => trim prompt = ""
  | .compile => false
  | .publish title _ => trim title = ""

/-- What is said to a change whose text is blank. -/
def Change.missing : Change → SessionError
  | .turn .. => .missingPrompt
  | .compile => .missingPrompt
  | .publish .. => .missingTitle

/-- A call on a session. -/
inductive SessionCall where
  | create (user : String) (creatorName : Option String) (id : GameId)
  | change (user : String) (id : GameId) (change : Change)
  | play (id : GameId)

/-- The game that a call is about. -/
def SessionCall.game : SessionCall → GameId
  | .create _ _ id => id
  | .change _ id _ => id
  | .play id => id

/-- What a call gives back. -/
inductive Answer where
  | created (id : GameId)
  | turned (outcome : TurnOutcome)
  | compiled (html : String)
  | published (publication : Publication)
  | played (html : String)

/-- What is left to be done for a change after its checks, with texts that are trimmed. -/
inductive Work where
  | turn (compiles : Bool) (prompt : String)
  | compile
  | publish (title : String) (description : Option String) (html : String)

/-- What is left to be done for a change of a game with this record. -/
def GameRecord.work (record : GameRecord) : Change → Except SessionError Work
  | .turn compiles prompt => .ok (.turn compiles (trim prompt))
  -- The page is part of the work, so what is published is what was read.
  | .compile => .ok .compile
  | .publish title description => record.artifact.map (.publish (trim title) description)

/-- A call that has read its record. -/
structure Pending where
  id : GameId
  record : GameRecord
  work : Work

/-- What holds of work that a record was found fit for. -/
def Work.Fits (record : GameRecord) : Work → Prop
  | .turn _ prompt => trim prompt = prompt ∧ prompt ≠ ""
  | .compile => True
  | .publish _ _ html => record.artifact = .ok html

/-- A call whose record is that of its game and has been found fit. -/
structure Pending.Fit (pending : Pending) : Prop where
  own : pending.record.id = pending.id
  work : pending.work.Fits pending.record

/-- What a record says from the time when its game was made. -/
structure GameRecord.Origin where
  id : GameId
  owner : Option String
  creatorName : Option String
  createdAt : Timestamp
  autoDeleteAt : Option Timestamp
  deriving DecidableEq

/-- What a record says from the time when its game was made. -/
def GameRecord.origin (record : GameRecord) : Origin :=
  ⟨record.id, record.owner, record.creatorName, record.createdAt, record.autoDeleteAt⟩

/-- What a game's record makes a prompt ask for. -/
def GameRecord.request (record : GameRecord) (prompt : String) : Request :=
  ⟨record.current prompt, prompt, record.summary⟩

/-- The proposal that a call goes on to ask for. -/
def Pending.request? (pending : Pending) : Option Request :=
  match pending.work with
  | .turn _ prompt => some (pending.record.request prompt)
  -- Making a page or showing one asks for no proposal.
  | .compile => none
  | .publish .. => none

/-- The state before the first call. -/
def StudioState.fresh {κ : Type} (proposals : Memory κ) : StudioState κ Records :=
  ⟨proposals, [], []⟩

namespace Studio

variable {κ ρ α β : Type}

/-- Changes a game, by `generate` or `update` where there is a prompt. -/
def change (studio : Studio κ ρ) (user : String) (id : GameId) (now : Timestamp)
    (state : StudioState κ ρ) : Change → Except SessionError Answer × StudioState κ ρ
  | .turn true prompt =>
    (studio.generate user id prompt now state).map (·.map Answer.turned) fun after => after
  | .turn false prompt =>
    (studio.update user id prompt now state).map (·.map Answer.turned) fun after => after
  | .compile => (studio.compile user id now state).map (·.map Answer.compiled) fun after => after
  | .publish title description =>
    (studio.publish user id title description now state).map (·.map Answer.published)
      fun after => after

/-- Answers a call. -/
def serve (studio : Studio κ ρ) (now : Timestamp) (state : StudioState κ ρ) :
    SessionCall → Except SessionError Answer × StudioState κ ρ
  | .create user creatorName id =>
    (studio.create user creatorName id now state).map (·.map Answer.created) fun after => after
  | .change user id change => studio.change user id now state change
  | .play id => ((studio.play id state).map Answer.played, state)

/-- The state after calls that are served one after the other. -/
def after (studio : Studio κ ρ) (calls : List (Timestamp × SessionCall)) (state : StudioState κ ρ) :
    StudioState κ ρ :=
  calls.foldl (fun state call => (studio.serve call.1 state call.2).2) state

/-- The first half of a change: the checks and the reading. -/
def start (studio : Studio κ ρ) (user : String) (id : GameId) (state : StudioState κ ρ)
    (change : Change) : Except SessionError Pending :=
  -- The text is looked at before the record, so a blank one is refused of any game.
  if change.isBlank then .error change.missing
  else
    match studio.find user id state with
    | .error error => .error error
    | .ok record => (record.work change).map (Pending.mk id record)

/-- The second half of a change: the work and the writing. -/
def finish (studio : Studio κ ρ) (now : Timestamp) (state : StudioState κ ρ) (pending : Pending) :
    Except SessionError Answer × StudioState κ ρ :=
  match pending.work with
  | .turn compiles prompt =>
    -- The service is asked with what the record said when it was read.
    let (proposal, proposals) :=
      studio.resolver.propose (pending.record.request prompt) state.proposals
    let (record, outcome) :=
      pending.record.afterTurn studio.settings.summaryChars studio.templates prompt compiles
        (studio.modelName proposal) now proposal
    studio.save record (.turned outcome) { state with proposals }
  | .compile =>
    let html := pending.record.compiled studio.templates
    studio.save (pending.record.afterCompile html now) (.compiled html) state
  | .publish title description html =>
    -- The page is shown before the record is written.
    let path := studio.settings.publicationPath pending.id
    let pages := Fields.set path ⟨utf8 html, htmlContentType⟩ state.pages
    let record :=
      pending.record.afterPublish (truncate studio.settings.titleChars title)
        (description.getD "") path now
    studio.save record (.published ⟨pending.id, path, studio.settings.publicUrl path⟩)
      { state with pages }

/-- Giving back something else does not change what is saved. -/
theorem save_map (studio : Studio κ ρ) (record : GameRecord) (give : α → β) (answer : α)
    (state : StudioState κ ρ) :
    (studio.save record answer state).map (·.map give) (fun after => after) =
      studio.save record (give answer) state := by
  -- What is given back plays no part in whether the record can be written.
  unfold save
  cases studio.records.put record state.records with
  | error error => rfl
  | ok records => rfl

/-- A turn is its first half and then its second half. -/
theorem turn_eq (studio : Studio κ ρ) (compiles : Bool) (user : String) (id : GameId)
    (prompt : String) (now : Timestamp) (state : StudioState κ ρ) :
    (studio.turn compiles user id prompt now state).map (·.map Answer.turned)
        (fun after => after) =
      match studio.start user id state (.turn compiles prompt) with
      | .error error => (.error error, state)
      | .ok pending => studio.finish now state pending := by
  -- Both sides make the same checks in the same order: first the prompt, then the record.
  unfold turn start
  -- A blank prompt is refused before anything is looked for.
  by_cases blank : trim prompt = ""
  · simp only [Change.isBlank, blank, decide_true, if_true]
    rfl
  · simp only [Change.isBlank, blank, decide_false, Bool.false_eq_true, if_false]
    cases studio.find user id state with
    | error error => rfl
    | ok record => exact save_map ..

/-- A change is its first half and then its second half. -/
theorem change_eq (studio : Studio κ ρ) (user : String) (id : GameId) (now : Timestamp)
    (state : StudioState κ ρ) (change : Change) :
    studio.change user id now state change =
      match studio.start user id state change with
      | .error error => (.error error, state)
      | .ok pending => studio.finish now state pending := by
  cases change with
  | turn compiles prompt =>
    -- The two calls that take a prompt are one definition.
    cases compiles with
    | true => exact studio.turn_eq true user id prompt now state
    | false => exact studio.turn_eq false user id prompt now state
  | compile =>
    -- There is no text to be blank, so the record alone can stop the call.
    unfold Studio.change Studio.compile start
    simp only [Change.isBlank, Bool.false_eq_true, if_false]
    cases studio.find user id state with
    | error error => rfl
    | ok record => exact save_map ..
  | publish title description =>
    unfold Studio.change Studio.publish start
    -- A blank title is refused before anything is looked for.
    by_cases blank : trim title = ""
    · simp only [Change.isBlank, blank, decide_true, if_true]
      rfl
    · simp only [Change.isBlank, blank, decide_false, Bool.false_eq_true, if_false]
      cases studio.find user id state with
      | error error => rfl
      | ok record =>
        -- The page is looked at last, and only a publication looks at it.
        simp only [GameRecord.work]
        cases record.artifact with
        | error error => rfl
        | ok html => exact save_map ..

section

variable {studio : Studio κ ρ} {user : String} {id : GameId} {state : StudioState κ ρ}
  {change : Change} (now : Timestamp)

/-- A change that fails its checks leaves everything as it was. -/
theorem serve_refused {error : SessionError}
    (refused : studio.start user id state change = .error error) :
    studio.serve now state (.change user id change) = (.error error, state) := by
  rw [serve, change_eq, refused]

/-- A change that passes its checks goes on to its second half. -/
theorem serve_started {pending : Pending}
    (started : studio.start user id state change = .ok pending) :
    studio.serve now state (.change user id change) = studio.finish now state pending := by
  rw [serve, change_eq, started]

end

section

variable (studio : Studio κ ρ) (now : Timestamp) (memory : Memory κ) (pending : Pending)

/-- The record that a call writes, with what it finds remembered about proposals. -/
def written : GameRecord :=
  match pending.work with
  | .turn compiles prompt =>
    let proposal := (studio.resolver.propose (pending.record.request prompt) memory).1
    (pending.record.afterTurn studio.settings.summaryChars studio.templates prompt compiles
      (studio.modelName proposal) now proposal).1
  | .compile => pending.record.afterCompile (pending.record.compiled studio.templates) now
  | .publish title description _ =>
    pending.record.afterPublish (truncate studio.settings.titleChars title) (description.getD "")
      (studio.settings.publicationPath pending.id) now

/-- What is remembered about proposals after a call. -/
def remembered : Memory κ :=
  match pending.request? with
  | some request => (studio.resolver.propose request memory).2
  | none => memory

/-- No call changes what a record says from the time when its game was made. -/
theorem written_origin : (studio.written now memory pending).origin = pending.record.origin := by
  -- Each of the three ways to write updates other fields than those of the origin.
  unfold written
  split
  · rfl
  · rfl
  · rfl

/-- A call writes the record of the game whose record it has read. -/
theorem written_id : (studio.written now memory pending).id = pending.record.id :=
  congrArg GameRecord.Origin.id (studio.written_origin now memory pending)

end

section

variable {studio : Studio κ Records} (inMemory : studio.records = .memory)
include inMemory

section

variable (user : String) (creatorName : Option String) {id : GameId} (now : Timestamp)
  {state : StudioState κ Records}

/-- No game is created under the identifier of another one. -/
theorem create_taken {record : GameRecord} (taken : state.records.get? id = some record) :
    -- The record is a draft under the identifier, which is no longer free.
    studio.create user creatorName id now state = (.error (.store (.duplicate id)), state) := by
  simp [create, inMemory, RecordStore.memory, GameRecord.draft, taken]

/-- A game with a new identifier is created. -/
theorem create_free (free : state.records.get? id = none) :
    studio.create user creatorName id now state = (.ok id, ⟨state.proposals,
      state.records.set (.draft id user creatorName now studio.settings.autoDeleteHours),
      state.pages⟩) := by
  simp [create, inMemory, RecordStore.memory, GameRecord.draft, free]

end

/-- With records in memory a call that has passed its checks always succeeds. -/
theorem finish_inMemory (now : Timestamp) (state : StudioState κ Records) (pending : Pending) :
    ∃ answer pages, studio.finish now state pending =
        (.ok answer, ⟨studio.remembered state.proposals pending,
          state.records.set (studio.written now state.proposals pending), pages⟩) ∧
      ∀ path, path ≠ studio.settings.publicationPath pending.id →
        Fields.get? path pages = Fields.get? path state.pages := by
  -- A publication alone shows a page, under the path of its game.
  obtain ⟨id, record, work⟩ := pending
  cases work with
  -- A turn remembers its proposal.
  | turn compiles prompt =>
    simp only [finish, save, inMemory]
    exact ⟨_, state.pages, rfl, fun _ _ => rfl⟩
  -- Making a page asks for no proposal.
  | compile =>
    simp only [finish, save, inMemory]
    exact ⟨_, state.pages, rfl, fun _ _ => rfl⟩
  | publish title description html =>
    simp only [finish, save, inMemory]
    exact ⟨_, _, rfl, fun path other => Fields.get?_set_ne other _ _⟩

/-- A call that has passed its checks shows a page if it publishes one, under the path of its game. -/
theorem finish_pages (now : Timestamp) (state : StudioState κ Records) (pending : Pending) :
    (studio.finish now state pending).2.pages =
      match pending.work with
      | .turn .. => state.pages
      | .compile => state.pages
      | .publish _ _ html =>
        Fields.set (studio.settings.publicationPath pending.id) ⟨utf8 html, htmlContentType⟩
          state.pages := by
  -- Only the last kind of work touches the pages.
  obtain ⟨id, record, work⟩ := pending
  cases work with
  | turn compiles prompt => simp only [finish, save, inMemory, RecordStore.memory]
  | compile => simp only [finish, save, inMemory, RecordStore.memory]
  | publish title description html => simp only [finish, save, inMemory, RecordStore.memory]

section

variable {user : String} {id : GameId} {state : StudioState κ Records}

/-- What is found is there, and the user may change it. -/
theorem find_ok {record : GameRecord} (found : studio.find user id state = .ok record) :
    state.records.get? id = some record ∧ record.isEditableBy user = true := by
  simp only [find, inMemory, RecordStore.memory] at found
  -- Of all that can be said of a game, only its record is a success, and only to its owner.
  split at found
  · cases found
  · cases found
  · next other there =>
    split at found
    · next editable =>
      -- The record that was looked up is the one that is given out.
      cases found
      exact ⟨Except.ok.inj there, editable⟩
    · cases found

/-- What is there is found by a user who may change it. -/
theorem find_editable {record : GameRecord} (there : state.records.get? id = some record)
    (editable : record.isEditableBy user = true) : studio.find user id state = .ok record := by
  simp only [find, inMemory, RecordStore.memory, there, editable, if_true]

/-- A record that a user may not change is not given out to the user. -/
theorem find_forbidden {record : GameRecord} (there : state.records.get? id = some record)
    (refused : record.isEditableBy user = false) :
    studio.find user id state = .error (.forbidden id user) := by
  simp only [find, inMemory, RecordStore.memory, there, refused, Bool.false_eq_true, if_false]

omit inMemory in
/-- Work is fit for the record that it was found for. -/
theorem fits_of_work {record : GameRecord} {change : Change} {work : Work}
    (nonblank : change.isBlank = false) (found : record.work change = .ok work) :
    work.Fits record := by
  cases change with
  | turn compiles prompt =>
    -- A prompt is trimmed before it goes on, and trimming it again changes nothing.
    cases found
    exact ⟨trim_trim prompt, by simpa [Change.isBlank] using nonblank⟩
  | compile =>
    cases found
    trivial
  | publish title description =>
    -- The page that goes on to be published is the one that the record was found to have.
    simp only [GameRecord.work] at found
    cases page : record.artifact with
    | error error =>
      rw [page] at found
      cases found
    | ok html =>
      rw [page] at found
      cases found
      exact page

omit inMemory in
/-- A change has passed three checks: its text, the record of its game and the work on the record. -/
theorem start_cases {change : Change} {pending : Pending}
    (started : studio.start user id state change = .ok pending) :
    change.isBlank = false ∧ pending.id = id ∧ studio.find user id state = .ok pending.record ∧
      pending.record.work change = .ok pending.work := by
  unfold start at started
  -- The first check is that of the text.
  split at started
  · cases started
  · next blank =>
    -- The second check is that of the user, and a failure ends the call.
    split at started
    · cases started
    · next record found =>
      -- The record that was found goes on with the work that it has.
      cases prepared : record.work change with
      | error error =>
        rw [prepared] at started
        cases started
      | ok work =>
        rw [prepared] at started
        cases started
        exact ⟨Bool.eq_false_iff.2 blank, rfl, found, prepared⟩

/-- A call that has passed its checks has read the record of its game and found it fit. -/
theorem start_ok {change : Change} {pending : Pending}
    (started : studio.start user id state change = .ok pending) :
    pending.id = id ∧ state.records.get? id = some pending.record ∧
      pending.work.Fits pending.record := by
  -- What was found was there, and what was prepared fits it.
  obtain ⟨nonblank, same, found, prepared⟩ := start_cases started
  obtain ⟨there, _⟩ := find_ok inMemory found
  exact ⟨same, there, fits_of_work nonblank prepared⟩

/-- A turn with a prompt passes its checks where the user may change the game. -/
theorem start_turn {record : GameRecord} (there : state.records.get? id = some record)
    (editable : record.isEditableBy user = true) {prompt : String} (nonblank : trim prompt ≠ "")
    (compiles : Bool) :
    studio.start user id state (.turn compiles prompt) =
      .ok ⟨id, record, .turn compiles (trim prompt)⟩ := by
  rw [start, find_editable inMemory there editable, if_neg (by simpa [Change.isBlank] using nonblank)]
  rfl

/-- A publication with a title passes its checks where the game has a page to show. -/
theorem start_publish {record : GameRecord} (there : state.records.get? id = some record)
    (editable : record.isEditableBy user = true) {title : String} (nonblank : trim title ≠ "")
    {html : String} (has : record.html = some html) (filled : html ≠ "")
    (description : Option String) :
    studio.start user id state (.publish title description) =
      .ok ⟨id, record, .publish (trim title) description html⟩ := by
  -- A page that is not empty is fit to be published.
  have artifact : record.artifact = .ok html := by
    rw [GameRecord.artifact, has]
    exact if_neg filled
  rw [start, find_editable inMemory there editable, if_neg (by simpa [Change.isBlank] using nonblank)]
  simp only [GameRecord.work, artifact]
  rfl

/-- Whoever does not own a game is told so, where the text that the change needs is not blank. -/
theorem start_forbidden {change : Change} (nonblank : change.isBlank = false)
    {record : GameRecord} (there : state.records.get? id = some record)
    (refused : record.isEditableBy user = false) :
    studio.start user id state change = .error (.forbidden id user) := by
  rw [start, nonblank, find_forbidden inMemory there refused]
  rfl

end

end

end Studio

end Minigame
