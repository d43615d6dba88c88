import Minigame.Proofs.Page.Filled
import Minigame.Proofs.Session.Interleaving

/-!
What holds of every record, however calls overlap.

Each call changes some parts of a record and leaves others as it has read them, so what is said about
the parts of a record is said so that each call keeps it of any record that it can have read.
-/

namespace Minigame

open Minigame.Text Minigame.Proposal

namespace GameRecord

/-- What holds of the parts of a record with each other. -/
structure Sound (settings : SessionSettings) (pages : Page.Registry) (record : GameRecord) :
    Prop where
  html_isSome : record.html.isSome ↔ record.status ≠ .creating
  html_filled : record.html ≠ some ""
  html_compiled : ∀ metadata, record.metadata = some metadata → metadata.strategy ≠ .patchOnly →
    record.html = some (record.compiled pages)
  spec_isSome : record.spec.isSome ↔ record.history ≠ []
  metadata_eq_none : record.metadata = none ↔ record.spec = none ∧ record.html = none
  published_together : record.storagePath.isSome ↔ record.publishedAt.isSome
  published : record.status = .published → record.storagePath.isSome
  storagePath : ∀ path, record.storagePath = some path → path = settings.publicationPath record.id
  history : ∀ turn ∈ record.history,
    turn.role = .user ∧ trim turn.content = turn.content ∧ isBlankText turn.content = false

namespace Sound

variable {settings : SessionSettings} {pages : Page.Registry} {record : GameRecord}

/-- In the record of a new game everything is missing together. -/
theorem draft (id : GameId) (user : String) (creatorName : Option String) (now : Timestamp) :
    (GameRecord.draft id user creatorName now settings.autoDeleteHours).Sound settings pages := by
  -- There is no document, no page and no turn.
  constructor <;> simp [GameRecord.draft]

/-- A page that can be published is there and shows something. -/
theorem html_of_artifact {html : String} (fit : record.artifact = .ok html) :
    record.html = some html := by
  unfold artifact at fit
  -- A page that is missing or empty is not fit.
  split at fit
  · cases fit
  · next shown there =>
    split at fit
    · cases fit
    · cases fit
      exact there

variable (sound : record.Sound settings pages)
include sound

/-- A turn leaves a document and its prompt, and a page of that document if it made one. -/
theorem afterTurn (filled : ∀ doc, pages.compile doc ≠ "") {prompt : String}
    (trimmed : trim prompt = prompt) (nonempty : prompt ≠ "") (summaryChars : Nat) (compiles : Bool)
    (model : String) (now : Timestamp) (proposal : Proposal) :
    (record.afterTurn summaryChars pages prompt compiles model now proposal).1.Sound
      settings pages where
  html_isSome := by
    -- Only a turn that makes a page moves the status, and it moves both together.
    cases compiles with
    | true => simp [GameRecord.afterTurn]
    | false => simpa [GameRecord.afterTurn] using sound.html_isSome
  html_filled := by
    cases compiles with
    | true => simp [GameRecord.afterTurn, filled]
    | false => simpa [GameRecord.afterTurn] using sound.html_filled
  html_compiled metadata made strategy := by
    cases compiles with
    | true => rfl
    | false =>
      -- A turn that makes no page says that it was a patch only.
      cases made
      exact absurd rfl strategy
  spec_isSome := by simp [GameRecord.afterTurn]
  metadata_eq_none := by simp [GameRecord.afterTurn]
  published_together := sound.published_together
  published status := by
    cases compiles with
    -- A turn with a page takes the game back from being published.
    | true => cases status
    | false => exact sound.published status
  storagePath := sound.storagePath
  history turn listed := by
    -- The prompt of the turn is the one new entry, and it was found not to be blank.
    rcases List.mem_append.1 listed with earlier | last
    · exact sound.history turn earlier
    · cases List.mem_singleton.1 last
      exact ⟨rfl, trimmed, isBlankText_eq_false trimmed nonempty⟩

/-- A compilation leaves the page of the document that there is. -/
theorem afterCompile (filled : ∀ doc, pages.compile doc ≠ "") (now : Timestamp) :
    (record.afterCompile (record.compiled pages) now).Sound settings pages where
  html_isSome := by simp [GameRecord.afterCompile]
  html_filled := by simp [GameRecord.afterCompile, compiled, filled]
  html_compiled _ _ _ := rfl
  spec_isSome := sound.spec_isSome
  metadata_eq_none := by simp [GameRecord.afterCompile]
  published_together := sound.published_together
  -- A game whose page was made anew is not published.
  published status := by cases status
  storagePath := sound.storagePath
  history := sound.history

/-- A publication leaves everything that the page was made of. -/
theorem afterPublish {html : String} (fit : record.artifact = .ok html)
    (title description : String) (now : Timestamp) :
    (record.afterPublish title description (settings.publicationPath record.id) now).Sound
      settings pages where
  -- Whatever the status was, there is a page, for it was looked at before.
  html_isSome := by simp [GameRecord.afterPublish, html_of_artifact fit]
  html_filled := sound.html_filled
  html_compiled := sound.html_compiled
  spec_isSome := sound.spec_isSome
  metadata_eq_none := sound.metadata_eq_none
  published_together := by simp [GameRecord.afterPublish]
  published _ := rfl
  storagePath path there := (Option.some.inj there).symm
  history := sound.history

end Sound

end GameRecord

namespace Studio

variable {κ : Type} {studio : Studio κ Records}

/-- New records are sound, and whatever a call has read, it writes a sound record. -/
theorem keeps_sound (filled : ∀ doc, studio.templates.compile doc ≠ "") :
    studio.Keeps (GameRecord.Sound studio.settings studio.templates) fun _ => True where
  draft := GameRecord.Sound.draft
  written now memory pending _ fit sound := by
    obtain ⟨id, record, work⟩ := pending
    cases work with
    -- The prompt of a turn was found fit when the record was read.
    | turn compiles prompt => exact sound.afterTurn filled fit.work.1 fit.work.2 ..
    | compile => exact sound.afterCompile filled now
    | publish title description html =>
      -- The path is made from the game of the call, which is that of the record.
      have own : record.id = id := fit.own
      subst own
      exact sound.afterPublish fit.work ..
  remembered _ _ _ _ _ := trivial

/--
However calls overlap, every stored record is sound, and its game keeps what it was made with.

A call works on the record that it has read, and other calls may have written since, so a record may
say nothing of what they did. But its parts always fit with each other, and from then on its game is
there and has the same origin.
-/
theorem records_sound (inMemory : studio.records = .memory)
    (filled : ∀ doc, studio.templates.compile doc ≠ "") (proposals : Memory κ)
    (events later : List (SessionEvent κ)) :
    let before := studio.run events (.fresh proposals)
    let after := studio.run later before
    ∀ id record, before.state.records.get? id = some record →
      record.id = id ∧ record.Sound studio.settings studio.templates ∧
      ∃ next, after.state.records.get? id = some next ∧ next.origin = record.origin := by
  -- No call leaves an empty page where the templates leave none.
  intro before after id record there
  have keeps := keeps_sound filled
  have stirs (events : List (SessionEvent κ)) (event) (_ : event ∈ events) :=
    SessionEvent.stirs_true event
  have fresh : (Underway.fresh proposals).Holds
      (GameRecord.Sound studio.settings studio.templates) fun _ => True := .fresh trivial
  -- The first run leaves a sound record; during the second one its game keeps the origin.
  have holds := fresh.run inMemory keeps (stirs events)
  have anchored := (Underway.Anchored.fresh proposals).run inMemory fresh keeps (stirs events)
  obtain ⟨own, sound⟩ := holds.stored id record there
  have kept := anchored.origin_run inMemory holds keeps (stirs later)
    (congrArg (Option.map GameRecord.origin) there)
  obtain ⟨next, found, same⟩ := Option.map_eq_some_iff.1 kept
  exact ⟨own, sound, next, found, same⟩

/-- A turn and a compilation that overlap leave a sound record of the game, with its owner. -/
theorem records_sound_overlapping :
    let studio := Studio.inMemory .default none
    let made : List (SessionEvent _) := [.create "ann" none ⟨1⟩ ⟨0, 0⟩]
    let overlap : List (SessionEvent _) :=
      [.read "ann" ⟨1⟩ (.turn false "pop"), .read "ann" ⟨1⟩ .compile, .write 0 ⟨1, 0⟩,
        .write 0 ⟨2, 0⟩]
    ∃ record, (studio.run (made ++ overlap) (.fresh ⟨[], []⟩)).state.records.get? ⟨1⟩ =
        some record ∧
      record.Sound .default .standard ∧ record.owner = some "ann" := by
  intro studio made overlap
  have filled : ∀ doc, studio.templates.compile doc ≠ "" := Page.Registry.standard_compile_ne_empty
  have drafted : (studio.run made (.fresh ⟨[], []⟩)).state.records.get? ⟨1⟩ =
      some (.draft ⟨1⟩ "ann" none ⟨0, 0⟩ SessionSettings.default.autoDeleteHours) := rfl
  obtain ⟨_, _, record, there, origin⟩ :=
    records_sound rfl filled ⟨[], []⟩ made overlap ⟨1⟩ _ drafted
  rw [← run_append] at there
  obtain ⟨_, sound, _⟩ := records_sound rfl filled ⟨[], []⟩ (made ++ overlap) [] ⟨1⟩ record there
  exact ⟨record, there, sound, congrArg GameRecord.Origin.owner origin⟩

end Studio

end Minigame
