import Minigame.Proofs.Session.Atomicity
import Minigame.Proofs.Session.Soundness

/-!
Published pages stay as they are.

A page is kept under the path of its game, apart from the record. What is played of a game is what
its record held when the game was last published, and nothing but the next publication of the game
changes it.
-/

namespace Minigame

open Minigame.Text Minigame.Proposal

/-- A call as it was served: the state that it found, and what it gave back. -/
structure Served (κ : Type) where
  before : StudioState κ Records
  call : SessionCall
  answer : Except SessionError Answer

/-- Whether a call was a publication of this game that has succeeded. -/
def Served.publishes {κ : Type} (id : GameId) (served : Served κ) : Bool :=
  match served.call, served.answer with
  | .change _ game (.publish _ _), .ok _ => game = id
  | _, _ => false

theorem Served.publishes_iff {κ : Type} {id : GameId} {served : Served κ} :
    served.publishes id = true ↔ ∃ user title description answer,
      served.call = .change user id (.publish title description) ∧ served.answer = .ok answer := by
  constructor
  · intro yes
    -- Of all calls only a publication that gave something back counts.
    unfold publishes at yes
    split at yes
    · next user game title description answer call given =>
      obtain rfl : game = id := of_decide_eq_true yes
      exact ⟨user, title, description, answer, call, given⟩
    · cases yes
  · rintro ⟨user, title, description, answer, call, given⟩
    simp [publishes, call, given]

/-- A call was no publication of a game, or none that has succeeded. -/
theorem Served.publishes_eq_false {κ : Type} {id : GameId} {served : Served κ}
    (no : ∀ user title description answer,
      served.call = .change user id (.publish title description) → served.answer ≠ .ok answer) :
    served.publishes id = false := by
  -- What counts as a publication would be one that has succeeded.
  refine Bool.eq_false_iff.2 fun yes => ?_
  obtain ⟨user, title, description, answer, called, given⟩ := publishes_iff.1 yes
  exact no user title description answer called given

namespace Studio

variable {κ : Type}

/-- Calls as they are served one after the other. -/
def served (studio : Studio κ Records) :
    List (Timestamp × SessionCall) → StudioState κ Records → List (Served κ)
  | [], _ => []
  | (now, call) :: rest, state =>
    ⟨state, call, (studio.serve now state call).1⟩ ::
      studio.served rest (studio.serve now state call).2

/-- The publications of a game that have succeeded among calls that are served one after the other. -/
def publications (studio : Studio κ Records) (id : GameId)
    (calls : List (Timestamp × SessionCall)) (state : StudioState κ Records) : List (Served κ) :=
  (studio.served calls state).filter (·.publishes id)

/-- The publications among some calls and later ones are those of both. -/
theorem publications_append (studio : Studio κ Records) (id : GameId)
    (calls later : List (Timestamp × SessionCall)) (state : StudioState κ Records) :
    studio.publications id (calls ++ later) state =
      studio.publications id calls state ++
        studio.publications id later (studio.after calls state) := by
  -- Each call is served from what those in front of it have left.
  suffices all : studio.served (calls ++ later) state =
      studio.served calls state ++ studio.served later (studio.after calls state) by
    rw [publications, all, List.filter_append, publications, publications]
  induction calls generalizing state with
  | nil => rfl
  | cons call rest ih => exact congrArg (_ :: ·) (ih _)

/-- The last publication is the last one among later calls, or that of the first call. -/
theorem last_publications_cons (studio : Studio κ Records) (id : GameId)
    (call : Timestamp × SessionCall) (rest : List (Timestamp × SessionCall))
    (state : StudioState κ Records) (last : Option (Served κ)) :
    let first : Served κ := ⟨state, call.2, (studio.serve call.1 state call.2).1⟩
    (studio.publications id (call :: rest) state).getLast?.or last =
      (studio.publications id rest (studio.serve call.1 state call.2).2).getLast?.or
        (if first.publishes id then some first else last) := by
  intro first
  rw [publications, served, List.filter_cons]
  -- If the first call publishes, it is the last one to do so exactly where no later one does.
  by_cases publishes : first.publishes id = true
  · rw [if_pos publishes, if_pos publishes, List.getLast?_cons, publications]
    cases ((studio.served rest _).filter _).getLast? with
    | none => rfl
    | some later => rfl
  · rw [if_neg publishes, if_neg publishes, publications]

/-- A page that is kept under the path of a game is the one that is played. -/
theorem play_of_pages {studio : Studio κ Records} {id : GameId} {state : StudioState κ Records}
    {html : String} {pages : Pages}
    (kept : state.pages = Fields.set (studio.settings.publicationPath id)
      ⟨utf8 html, htmlContentType⟩ pages) :
    studio.play id state = .ok html := by
  -- The bytes of the page are decoded to its text.
  rw [play, kept, Fields.get?_set_self]
  exact congrArg Except.ok (ofUtf8_utf8 html)

/-- What a call may do to what is played of a game, and to its record. -/
inductive Effect (studio : Studio κ Records) (id : GameId) (served : Served κ)
    (next : StudioState κ Records) : Prop
  /-- It publishes the page that the record has. -/
  | publishes (yes : served.publishes id = true) {record : GameRecord} {html : String}
      (there : served.before.records.get? id = some record) (has : record.html = some html)
      (played : studio.play id next = .ok html)
      (left : (next.records.get? id).map GameRecord.html = some (some html))
  /-- What is played stays as it was, and so does the page of a record that says it is published. -/
  | leaves (no : served.publishes id = false)
      (played : studio.play id next = studio.play id served.before)
      (kept : ∀ found, next.records.get? id = some found → found.status = .published →
        ∃ record, served.before.records.get? id = some record ∧ record.status = .published ∧
          record.html = found.html)

/-- Where nothing is published and nothing changes, what is played stays. -/
theorem Effect.unchanged {studio : Studio κ Records} {id : GameId} {served : Served κ}
    (no : served.publishes id = false) : studio.Effect id served served.before :=
  .leaves no rfl fun found there published => ⟨found, there, published, rfl⟩

section

variable {studio : Studio κ Records} (inMemory : studio.records = .memory) {id : GameId}
  {state : StudioState κ Records}
include inMemory

omit inMemory in
/-- A call that publishes nothing leaves a game published only if it leaves its page. -/
theorem written_published {now : Timestamp} {memory : Memory κ} {pending : Pending}
    -- What is published by the record stays so only as long as its page does.
    (stays : ∀ title description html, pending.work ≠ .publish title description html)
    (published : (studio.written now memory pending).status = .published) :
    pending.record.status = .published ∧
      pending.record.html = (studio.written now memory pending).html := by
  obtain ⟨id, record, work⟩ := pending
  -- A turn without a page keeps the page and the status.
  cases work with
  | turn compiles prompt =>
    -- A turn that makes a page takes the game back to where it can be published again.
    cases compiles with
    | true => cases published
    | false => exact ⟨published, rfl⟩
  | compile => cases published
  | publish title description html => exact absurd rfl (stays title description html)

/-- A change that has passed its checks publishes a page, or it leaves all pages as they are. -/
theorem finish_published (own : state.records.Own) {user : String} {edit : Change}
    {pending : Pending} (started : studio.start user id state edit = .ok pending)
    (now : Timestamp) :
    let next := (studio.finish now state pending).2
    (∃ title description html, edit = .publish title description ∧
      pending.record.html = some html ∧ studio.play id next = .ok html ∧
      (next.records.get? id).map GameRecord.html = some (some html)) ∨
    (∀ title description, edit ≠ .publish title description) ∧ next.pages = state.pages ∧
      ∀ found, next.records.get? id = some found → found.status = .published →
        pending.record.status = .published ∧ pending.record.html = found.html := by
  intro next
  -- What has passed its checks works on the record of its game.
  obtain ⟨rfl, there, fits⟩ := start_ok inMemory started
  have pages := finish_pages inMemory now state pending
  obtain ⟨_, _, _, work⟩ := start_cases started
  have written : next.records.get? pending.id = some (studio.written now state.proposals pending) :=
    finish_get?_self inMemory own there now
  -- Nothing but a publication shows a page, so the other calls leave the status at most.
  have stays (kept : ∀ title description html, pending.work ≠ .publish title description html)
      (found : GameRecord) (now_there : next.records.get? pending.id = some found)
      (published : found.status = .published) :
      pending.record.status = .published ∧ pending.record.html = found.html := by
    obtain rfl := Option.some.inj (written.symm.trans now_there)
    exact written_published kept published
  cases edit with
  | turn compiles prompt =>
    have turn := Except.ok.inj work
    simp only [← turn] at pages
    exact .inr ⟨fun _ _ => nofun, pages, stays fun _ _ _ => by rw [← turn]; nofun⟩
  | compile =>
    have compile := Except.ok.inj work
    simp only [← compile] at pages
    exact .inr ⟨fun _ _ => nofun, pages, stays fun _ _ _ => by rw [← compile]; nofun⟩
  | publish title description =>
    -- The page that a publication shows is the one that the record holds.
    cases shown : pending.record.artifact with
    | error error =>
      simp only [GameRecord.work, shown] at work
      cases work
    | ok html =>
      have publish : Work.publish (trim title) description html = pending.work := by
        simpa [GameRecord.work, shown, Except.map] using work
      simp only [← publish] at pages
      have html_there := GameRecord.Sound.html_of_artifact shown
      refine .inl ⟨title, description, html, rfl, html_there, play_of_pages pages, ?_⟩
      rw [written, Option.map_some, ← html_there]
      simp only [Studio.written, ← publish]
      rfl

/-- A publication with a title succeeds where the game has a page to show. -/
theorem serve_publish {user : String} {record : GameRecord}
    (there : state.records.get? id = some record) (editable : record.isEditableBy user = true)
    {title : String} (nonblank : trim title ≠ "") {html : String} (has : record.html = some html)
    (filled : html ≠ "") (description : Option String) (now : Timestamp) :
    ∃ answer, (studio.serve now state (.change user id (.publish title description))).1 =
      .ok answer := by
  -- The title and the page are there, so the checks are passed.
  have started := start_publish inMemory there editable nonblank has filled description
  obtain ⟨answer, _, finished, _⟩ := finish_inMemory inMemory now state
    ⟨id, record, .publish (trim title) description html⟩
  exact ⟨answer, by rw [serve_started now started, finished]⟩

/-- A call for another game leaves the record as it is, and what is under another path. -/
theorem serve_elsewhere (own : state.records.Own) (now : Timestamp) {call : SessionCall}
    (other : id ≠ call.game) :
    let served : Served κ := ⟨state, call, (studio.serve now state call).1⟩
    studio.Effect id served (studio.serve now state call).2 := by
  -- Two games are never published under one path.
  have elsewhere : studio.settings.publicationPath id ≠
      studio.settings.publicationPath call.game :=
    fun same => other (SessionSettings.publicationPath_inj same)
  refine .leaves (Served.publishes_eq_false ?silent) ?played fun found there published =>
    ⟨found, ?there, published, rfl⟩
  case silent =>
    rintro user title description answer rfl
    exact absurd rfl other
  case played => rw [play, play, serve_pages_ne inMemory own now elsewhere]
  case there => rwa [← serve_get?_ne inMemory own now other]

/-- Making a game publishes nothing, and a new game is not published. -/
theorem create_effect (user : String) (creatorName : Option String) (now : Timestamp) :
    let created := studio.serve now state (.create user creatorName id)
    studio.Effect id ⟨state, .create user creatorName id, created.1⟩ created.2 := by
  intro created
  simp only [created, serve]
  cases taken : state.records.get? id with
  -- A game that is there already is not made again.
  | some record =>
    rw [create_taken inMemory user creatorName now taken]
    exact .unchanged rfl
  | none =>
    rw [create_free inMemory user creatorName now taken]
    -- The new game is a draft, and others keep their records.
    refine .leaves rfl rfl fun found there published => ?_
    rcases Records.of_get?_set there with ⟨-, rfl⟩ | old
    · cases published
    · rw [taken] at old
      cases old

/-- A change publishes the page of its game, or it leaves what is played as it is. -/
theorem change_effect (own : state.records.Own) (user : String) (edit : Change)
    (now : Timestamp) :
    let changed := studio.serve now state (.change user id edit)
    studio.Effect id ⟨state, .change user id edit, changed.1⟩ changed.2 := by
  intro changed
  cases started : studio.start user id state edit with
  | error error =>
    -- A change that is refused leaves everything as it was.
    have refused : changed = (.error error, state) := serve_refused now started
    rw [refused]
    exact .unchanged (Served.publishes_eq_false fun _ _ _ _ _ => nofun)
  | ok pending =>
    have goes : changed = studio.finish now state pending := serve_started now started
    obtain ⟨_, there, _⟩ := start_ok inMemory started
    rw [goes]
    -- Whether a page was published is told by the kind of the change.
    rcases finish_published inMemory own started now with
      ⟨title, description, html, rfl, has, played, left⟩ | ⟨silently, pages, kept⟩
    · obtain ⟨answer, _, finished, _⟩ := finish_inMemory inMemory now state pending
      have given : (studio.finish now state pending).1 = .ok answer := by rw [finished]
      exact .publishes (Served.publishes_iff.2 ⟨user, title, description, answer, rfl, given⟩)
        there has played left
    · -- Without a publication the pages are those from before.
      refine .leaves (Served.publishes_eq_false ?_) ?_ fun found listed published =>
        ⟨pending.record, there, kept found listed published⟩
      · rintro _ title description _ called
        cases called
        exact absurd rfl (silently title description)
      · rw [play, play, pages]

/-- Every call has one of the two effects on a game. -/
theorem serve_effect (own : state.records.Own) (now : Timestamp) (call : SessionCall) :
    let served : Served κ := ⟨state, call, (studio.serve now state call).1⟩
    studio.Effect id served (studio.serve now state call).2 := by
  -- Either the call is about another game, or it is told by its kind.
  by_cases other : id ≠ call.game
  · exact serve_elsewhere inMemory own now other
  · obtain rfl : id = call.game := not_ne_iff.1 other
    cases call with
    | create user creatorName id => exact create_effect inMemory user creatorName now
    | change user id edit => exact change_effect inMemory own user edit now
    | play id => exact .unchanged rfl

end

/-- What is played of a game is its last publication, and the page of a game that is published. -/
structure Shows (studio : Studio κ Records) (id : GameId) (last : Option (Served κ))
    (state : StudioState κ Records) : Prop where
  unpublished : last = none → studio.play id state = .error (.notPublished id)
  published : ∀ served, last = some served → ∃ record html,
    served.before.records.get? id = some record ∧ record.html = some html ∧
      studio.play id state = .ok html
  current : ∀ record, state.records.get? id = some record → record.status = .published →
    ∃ html, record.html = some html ∧ studio.play id state = .ok html

namespace Shows

variable {studio : Studio κ Records} {id : GameId} {last : Option (Served κ)}
  {state : StudioState κ Records}

/-- Before the first call nothing is published. -/
theorem fresh (studio : Studio κ Records) (id : GameId) (proposals : Memory κ) :
    studio.Shows id none (.fresh proposals) where
  unpublished _ := rfl
  published _ there := by cases there
  current _ there := by cases there

variable (shows : studio.Shows id last state) (inMemory : studio.records = .memory)
include shows inMemory

/-- A call goes on with the last publication, or it is the last publication itself. -/
theorem serve (own : state.records.Own) (now : Timestamp) (call : SessionCall) :
    let served : Served κ := ⟨state, call, (studio.serve now state call).1⟩
    studio.Shows id (if served.publishes id then some served else last)
      (studio.serve now state call).2 := by
  intro served
  have effect : studio.Effect id served (studio.serve now state call).2 :=
    serve_effect inMemory own now call
  cases effect with
  | @publishes yes record html there has played left =>
    -- The page that was just published is played, and the record has it.
    rw [if_pos yes]
    refine ⟨nofun, fun last same => ?_, fun found listed _ => ⟨html, ?_, played⟩⟩
    · obtain rfl := Option.some.inj same
      exact ⟨record, html, there, has, played⟩
    · simpa [listed] using left
  | leaves no played kept =>
    -- The record may have changed since its publication, but then it does not say so any more.
    rw [if_neg (Bool.eq_false_iff.1 no)]
    refine ⟨fun none => ?_, fun last same => ?_, fun found listed published => ?_⟩
    · rw [played, shows.unpublished none]
    · rw [played]
      exact shows.published last same
    · obtain ⟨record, there, before, same⟩ := kept found listed published
      rw [played, ← same]
      exact shows.current record there before

/-- What is played after calls is the last publication among them, or else what it was before. -/
theorem after (own : ∀ calls, (studio.after calls state).records.Own)
    (calls : List (Timestamp × SessionCall)) :
    studio.Shows id ((studio.publications id calls state).getLast?.or last)
      (studio.after calls state) := by
  -- By induction on the calls: a publication that comes first is the last one until the next.
  induction calls generalizing state last with
  -- Without calls everything is as it was.
  | nil => exact shows
  | cons call rest ih =>
    have next := shows.serve inMemory (own []) call.1 call.2
    rw [last_publications_cons]
    exact ih next fun calls => own (call :: calls)

end Shows

/--
What is played of a game is what its record held when the game was last published.

It is there if and only if a publication of the game has succeeded, whatever else was called. And
it is the page that the record has, as long as the record says that the game is published.
-/
theorem publication_stable {studio : Studio κ Records} (inMemory : studio.records = .memory)
    (proposals : Memory κ) (calls : List (Timestamp × SessionCall)) (id : GameId) :
    let state := studio.after calls (.fresh proposals)
    let publications := studio.publications id calls (.fresh proposals)
    ((∃ html, studio.play id state = .ok html) ↔ publications ≠ []) ∧
    (∀ last, publications.getLast? = some last → ∃ record html,
      last.before.records.get? id = some record ∧ record.html = some html ∧
        studio.play id state = .ok html) ∧
    ∀ record, state.records.get? id = some record → record.status = .published →
      ∃ html, record.html = some html ∧ studio.play id state = .ok html := by
  intro state publications
  -- In every state that is reached each record is kept as its own.
  have own (calls : List (Timestamp × SessionCall)) :
      (studio.after calls (.fresh proposals)).records.Own := by
    have fresh : Underway.Holds (fun record : GameRecord => record.owner.isSome) (fun _ => True)
        ⟨.fresh proposals, []⟩ := .fresh trivial
    have holds := fresh.after inMemory studio.keeps_owner calls
    exact fun id record there => (holds.stored id record there).1
  have shows := (Shows.fresh studio id proposals).after inMemory own calls
  rw [Option.or_none] at shows
  refine ⟨⟨fun ⟨html, played⟩ empty => ?_, fun some => ?_⟩, shows.published, shows.current⟩
  · -- Without a publication there would be nothing to play.
    have missing := shows.unpublished (List.getLast?_eq_none_iff.2 empty)
    rw [missing] at played
    -- There is a last publication, and it is the one that is played.
    cases played
  · obtain ⟨last, there⟩ := Option.isSome_iff_exists.1 (List.getLast?_isSome.2 some)
    obtain ⟨_, html, _, _, played⟩ := shows.published last there
    exact ⟨html, played⟩

/-- A turn after the publication makes another page, but it is not the one that is played. -/
theorem publication_stable_later :
    let studio := Studio.inMemory .default none
    let made : List (Timestamp × SessionCall) :=
      [(⟨0, 0⟩, .create "ann" none ⟨1⟩), (⟨1, 0⟩, .change "ann" ⟨1⟩ (.turn true "pop"))]
    let later : List (Timestamp × SessionCall) :=
      [(⟨2, 0⟩, .change "ann" ⟨1⟩ (.publish "Pop" none)),
        (⟨3, 0⟩, .change "ann" ⟨1⟩ (.turn true "maze"))]
    ∃ html, ((studio.after made (.fresh ⟨[], []⟩)).records.get? ⟨1⟩).map GameRecord.html =
        some (some html) ∧
      studio.play ⟨1⟩ (studio.after (made ++ later) (.fresh ⟨[], []⟩)) = .ok html := by
  intro studio made later
  have inMemory : studio.records = .memory := rfl
  -- The game is made and has one turn, which writes its record.
  let draft := GameRecord.draft ⟨1⟩ "ann" none ⟨0, 0⟩ SessionSettings.default.autoDeleteHours
  let pending : Pending := ⟨⟨1⟩, draft, .turn true (trim "pop")⟩
  obtain ⟨record, written⟩ : ∃ record, studio.written ⟨1, 0⟩ ⟨[], []⟩ pending = record := ⟨_, rfl⟩
  let before := studio.after made (.fresh ⟨[], []⟩)
  have nonblank : trim "pop" ≠ "" := by decide +kernel
  obtain ⟨left, -, owner, -⟩ :=
    run_first_turn inMemory "ann" none ⟨1⟩ nonblank true ⟨[], []⟩ ⟨0, 0⟩ ⟨1, 0⟩
  have owner : record.owner = some "ann" := (congrArg GameRecord.owner written).symm.trans owner
  have there : before.records.get? ⟨1⟩ = some record := by
    have served := congrArg Underway.state (studio.run_calls made (.fresh ⟨[], []⟩))
    exact (congrArg (·.records.get? ⟨1⟩) served).symm.trans (left.trans (congrArg some written))
  -- The user who made the game may change it.
  have editable : record.isEditableBy "ann" = true := by simp [GameRecord.isEditableBy, owner]
  -- The first turn leaves a page, and this is not empty, so it can be published.
  obtain ⟨doc, html⟩ : ∃ doc, record.html = some (studio.templates.compile doc) :=
    written ▸ ⟨_, rfl⟩
  have titled : trim "Pop" ≠ "" := by decide +kernel
  obtain ⟨answer, answered⟩ := serve_publish inMemory there editable titled html
    (Page.Registry.standard_compile_ne_empty doc) none ⟨2, 0⟩
  -- The turn behind the publication publishes nothing, whatever it gives back.
  have only : studio.publications ⟨1⟩ later before =
      [⟨before, .change "ann" ⟨1⟩ (.publish "Pop" none), .ok answer⟩] := by
    have calls : studio.served later before =
        [⟨before, .change "ann" ⟨1⟩ (.publish "Pop" none), (studio.serve ⟨2, 0⟩ before _).1⟩,
          ⟨_, _, _⟩] := rfl
    rw [publications, calls, answered]
    rfl
  have last : (studio.publications ⟨1⟩ (made ++ later) (.fresh ⟨[], []⟩)).getLast? =
      some ⟨before, .change "ann" ⟨1⟩ (.publish "Pop" none), .ok answer⟩ := by
    rw [publications_append, only, List.getLast?_concat]
  obtain ⟨_, published, _⟩ := publication_stable inMemory ⟨[], []⟩ (made ++ later) ⟨1⟩
  obtain ⟨_, _, same, has, played⟩ := published _ last
  exact ⟨_, (congrArg (Option.map GameRecord.html) same).trans (congrArg some has), played⟩

end Studio

end Minigame
