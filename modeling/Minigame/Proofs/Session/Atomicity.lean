import Minigame.Proofs.Session.Interleaving

/-!
What a call leaves alone.

A call that fails leaves everything as it was. A call that succeeds writes one record and shows one
page at most, and both are those of its game.
-/

namespace Minigame

open Minigame.Text Minigame.Proposal

/-- Each record is kept under the identifier that it has. -/
def Records.Own (records : Records) : Prop :=
  ∀ id record, records.get? id = some record → record.id = id

namespace Studio

variable {κ : Type} {studio : Studio κ Records} {state : StudioState κ Records}

section

variable (inMemory : studio.records = .memory)
include inMemory

/-- A change that has passed its checks leaves what it writes as the record of its game. -/
theorem finish_get?_self (own : state.records.Own) {pending : Pending}
    (there : state.records.get? pending.id = some pending.record) (now : Timestamp) :
    (studio.finish now state pending).2.records.get? pending.id =
      some (studio.written now state.proposals pending) := by
  -- The record that is written has the identifier of the one that was read.
  have game := (studio.written_id now state.proposals pending).trans (own _ _ there)
  obtain ⟨_, _, finished, _⟩ := finish_inMemory inMemory now state pending
  rw [finished, ← game]
  exact Records.get?_set_self ..

/-- A call leaves everything as it was, or it succeeds and writes the record of its game. -/
theorem serve_cases (own : state.records.Own) (now : Timestamp) (call : SessionCall) :
    (studio.serve now state call).2 = state ∨
    ∃ answer proposals record pages,
      studio.serve now state call =
        (.ok answer, ⟨proposals, state.records.set record, pages⟩) ∧
      record.id = call.game ∧
      ∀ path, path ≠ studio.settings.publicationPath call.game →
        Fields.get? path pages = Fields.get? path state.pages := by
  cases call with
  | create user creatorName id =>
    -- Making a game is refused where there is one, and otherwise writes its draft.
    cases taken : state.records.get? id with
    | some record =>
      rw [serve, create_taken inMemory user creatorName now taken]
      exact .inl rfl
    | none =>
      rw [serve, create_free inMemory user creatorName now taken]
      exact .inr ⟨_, _, _, _, rfl, rfl, fun _ _ => rfl⟩
  | play id => exact .inl rfl
  | change user id change =>
    -- A change can fail in its first half only, which writes nothing.
    cases started : studio.start user id state change with
    | error error =>
      rw [serve_refused now started]
      exact .inl rfl
    | ok pending =>
      rw [serve_started now started]
      obtain ⟨same, there, _⟩ := start_ok inMemory started
      -- The second half cannot fail, and it writes the record that belongs to the game.
      obtain ⟨answer, pages, finished, frame⟩ := finish_inMemory inMemory now state pending
      have game := (studio.written_id now state.proposals pending).trans (own id _ there)
      exact .inr ⟨answer, _, _, pages, finished, game, same ▸ frame⟩

/-- A call that fails leaves everything as it was. -/
theorem serve_error (own : state.records.Own) {now : Timestamp} {call : SessionCall}
    {error : SessionError} (failed : (studio.serve now state call).1 = .error error) :
    (studio.serve now state call).2 = state := by
  rcases serve_cases inMemory own now call with same | ⟨answer, _, _, _, served, _⟩
  · exact same
  · -- What has written a record has succeeded.
    rw [served] at failed
    cases failed

/-- A call leaves the records of other games as they are. -/
theorem serve_get?_ne (own : state.records.Own) (now : Timestamp) {call : SessionCall} {id : GameId}
    (other : id ≠ call.game) :
    (studio.serve now state call).2.records.get? id = state.records.get? id := by
  rcases serve_cases inMemory own now call with same | ⟨_, _, record, _, served, game, _⟩
  · rw [same]
  · -- The record that is written lies under the identifier of the call.
    rw [served, Records.get?_set_ne (game ▸ other)]

/-- A call leaves the pages under other paths than that of its game as they are. -/
theorem serve_pages_ne (own : state.records.Own) (now : Timestamp) {call : SessionCall}
    {path : String} (other : path ≠ studio.settings.publicationPath call.game) :
    Fields.get? path (studio.serve now state call).2.pages = Fields.get? path state.pages := by
  rcases serve_cases inMemory own now call with same | ⟨_, _, _, pages, served, _, frame⟩
  · rw [same]
  · rw [served]
    exact frame path other

end

/-- Every record has an owner, and no call takes it away. -/
theorem keeps_owner (studio : Studio κ Records) :
    studio.Keeps (fun record => record.owner.isSome) fun _ => True where
  draft _ _ _ _ := rfl
  written now memory pending _ _ owned := by
    -- The owner is part of what a record says from the beginning.
    have same := congrArg GameRecord.Origin.owner (studio.written_origin now memory pending)
    exact (congrArg Option.isSome same).trans owned
  remembered _ _ _ _ _ := trivial

/--
Calls fail without a trace, reach their own game only, and are refused to whoever does not own it.

So it is after any calls that may have overlapped. A call that fails leaves the records, the pages
and the proposals as they were. Any call leaves the records of other games alone and what is played
of them, and all pages but the one of its game. A change of a game by a user who is not its owner is
refused as forbidden, unless it is refused for a blank text.
-/
theorem serve_atomic (inMemory : studio.records = .memory) (proposals : Memory κ)
    (events : List (SessionEvent κ)) (now : Timestamp) (call : SessionCall) :
    let before := (studio.run events (.fresh proposals)).state
    let served := studio.serve now before call
    (∀ error, served.1 = .error error → served.2 = before) ∧
    (∀ id, id ≠ call.game → served.2.records.get? id = before.records.get? id ∧
      studio.play id served.2 = studio.play id before) ∧
    (∀ path, path ≠ studio.settings.publicationPath call.game →
      Fields.get? path served.2.pages = Fields.get? path before.pages) ∧
    ∀ user id change record, call = .change user id change →
      before.records.get? id = some record → record.owner ≠ some user →
      change.isBlank = false → served = (.error (.forbidden id user), before) := by
  intro before served
  -- In every state that is reached each record is kept as its own, and has an owner.
  have holds : (studio.run events (.fresh proposals)).Holds (fun record => record.owner.isSome)
      fun _ => True :=
    .reached inMemory studio.keeps_owner trivial fun event _ => event.stirs_true
  have own : before.records.Own := fun id record there => (holds.stored id record there).1
  have pages : ∀ path, path ≠ studio.settings.publicationPath call.game →
      Fields.get? path served.2.pages = Fields.get? path before.pages :=
    fun path other => serve_pages_ne inMemory own now other
  refine ⟨fun error failed => serve_error inMemory own failed, fun id other => ⟨?_, ?_⟩, pages, ?_⟩
  · exact serve_get?_ne inMemory own now other
  · -- What is played of a game is under its path, and paths tell games apart.
    have path : studio.settings.publicationPath id ≠ studio.settings.publicationPath call.game :=
      fun same => other (SessionSettings.publicationPath_inj same)
    rw [play, play, pages _ path]
  · rintro user id change record rfl there foreign nonblank
    -- There is an owner, and it is someone else.
    obtain ⟨owner, owned⟩ := Option.isSome_iff_exists.1 (holds.stored id record there).2
    have refused : record.isEditableBy user = false := by
      -- A user who may change the game would be that owner.
      have different : owner ≠ user := fun same => foreign (owned.trans (congrArg some same))
      simpa [GameRecord.isEditableBy, owned] using different
    exact serve_refused now (start_forbidden inMemory nonblank there refused)

/-- A game with an owner is not changed by anyone else, and stays as it is. -/
theorem serve_atomic_foreign :
    let studio := Studio.inMemory .default none
    let before := (studio.run [.create "ann" none ⟨1⟩ ⟨0, 0⟩] (.fresh ⟨[], []⟩)).state
    (before.records.get? ⟨1⟩).isSome ∧
    studio.serve ⟨1, 0⟩ before (.change "bob" ⟨1⟩ (.turn true "pop")) =
      (.error (.forbidden ⟨1⟩ "bob"), before) := by
  intro studio before
  have inMemory : studio.records = .memory := rfl
  obtain ⟨_, _, _, refused⟩ := serve_atomic inMemory ⟨[], []⟩
    [.create "ann" none ⟨1⟩ ⟨0, 0⟩] ⟨1, 0⟩ (.change "bob" ⟨1⟩ (.turn true "pop"))
  exact ⟨rfl, refused "bob" ⟨1⟩ (.turn true "pop") _ rfl rfl (by decide) (by decide)⟩

end Studio

end Minigame
