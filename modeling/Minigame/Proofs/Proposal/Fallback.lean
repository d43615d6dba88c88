import Minigame.Proofs.Survival.Reading
import Minigame.Proofs.Patch.Added
import Minigame.Proofs.Proposal.Seeding

/-!
What the rules without a service make of a game that was already specified.

They put values where the document has nothing to read, and those that they put are the ones that a
game has anyway. Only a title that is missing and a limit that the prompt states are new.
-/

namespace Minigame.Proposal

open Minigame.Text Minigame.Survival

/--
A value that the rules put at a place of a document, and when they do.

The template is set whatever was there, and so is the number of objects that a prompt states.
-/
inductive Seed (doc : Json) (prompt : String) : List String → Json → Prop
  | template : Seed doc prompt ["meta", "template"] (.str Template.bubbleClicker.name)
  | title (untitled : Design.title? doc = none) :
      Seed doc prompt ["meta", "title"] (.str (seedTitle prompt))
  | spawn (absent : doc.at? ["rules", "spawn"] = none) :
      Seed doc prompt ["rules", "spawn"] SpawnRule.default.toJson
  | hud (absent : doc.at? ["hud"] = none) : Seed doc prompt ["hud"] Hud.default.toJson
  | hidpi (absent : doc.at? ["scene", "hidpi"] = none) :
      Seed doc prompt ["scene", "hidpi"] (.bool true)
  | limit (unlimited : hasLimit doc = false) :
      Seed doc prompt ["rules", "limit"] (limitRuleOf (Phrase.limit? prompt)).toJson
  | most {count : Nat} (stated : Phrase.limit? prompt = some count) :
      Seed doc prompt ["rules", "limit", "max_concurrent"] (.nat count)

variable {doc : Json} {prompt : String}

/-- The places that the rules without a service work at. -/
def seedSpots : List (List String) :=
  [["meta", "template"], ["meta", "title"], ["rules", "spawn"], ["hud"], ["scene", "hidpi"],
   ["rules", "limit"], ["rules", "limit", "max_concurrent"]]

theorem Seed.mem_seedSpots {segments : List String} {value : Json}
    (seed : Seed doc prompt segments value) : segments ∈ seedSpots := by
  cases seed <;> simp [seedSpots]

/-- The parts that a survival game gets from the rules where it lacks them. -/
def seedDefaults : List (List String × Json) :=
  [(["rules", "spawn"], SpawnRule.default.toJson), (["hud"], Hud.default.toJson),
   (["scene", "hidpi"], .bool true)]

/-- A seed that such a part lies in is the part itself, and the document has none. -/
theorem Seed.default_of_mem {segments tail : List String} {value default : Json}
    (seed : Seed doc prompt segments value) (listed : (segments ++ tail, default) ∈ seedDefaults) :
    doc.at? (segments ++ tail) = none ∧ value.at? tail = some default := by
  -- The other seeds are put at places that are not in the list.
  cases seed with
  | spawn absent | hud absent | hidpi absent =>
    obtain ⟨rfl, rfl⟩ : tail = [] ∧ default = _ := by simpa [seedDefaults] using listed
    exact ⟨absent, rfl⟩
  | _ => simp [seedDefaults] at listed

/-- The rules without a service put seeds into the document and do nothing else. -/
theorem mem_fallbackPatch {operation : Operation} (listed : operation ∈ fallbackPatch doc prompt) :
    ∃ segments value, Seed doc prompt segments value ∧ operation = put segments value := by
  have absent (segments : List String) :
      (doc.pointer? (Path.mk segments).text).isNone = true → doc.at? segments = none := by
    rw [Json.pointer?_text]
    exact Option.isNone_iff_eq_none.1
  -- Each operation stands under the condition of its seed.
  unfold fallbackPatch at listed
  split at listed
  · rcases List.mem_append.1 listed with survival | limit
    · split at survival
      · simp only [seedSurvival, List.mem_append, List.mem_singleton, mem_when_iff,
          Bool.and_eq_true] at survival
        rcases survival with (((rfl | ⟨untitled, rfl⟩) | ⟨⟨free, -⟩, rfl⟩) | ⟨free, rfl⟩) | ⟨free, rfl⟩
        · exact ⟨_, _, .template, rfl⟩
        · exact ⟨_, _, .title (Option.isNone_iff_eq_none.1 untitled), rfl⟩
        · exact ⟨_, _, .spawn (absent ["rules", "spawn"] free), rfl⟩
        · exact ⟨_, _, .hud (absent ["hud"] free), rfl⟩
        · exact ⟨_, _, .hidpi (absent ["scene", "hidpi"] free), rfl⟩
      · cases survival
    · rcases mem_seedLimit_iff.1 limit with ⟨-, count, stated, rfl⟩ | ⟨unlimited, -, rfl⟩
      · exact ⟨_, _, .most stated, rfl⟩
      · exact ⟨_, _, .limit unlimited, rfl⟩
  · cases listed

/-- A place that no seed is put below is left alone, or a part of a seed is there. -/
theorem at?_fallbackPatch (kept : List String)
    (whole : ∀ spot ∈ seedSpots, kept <+: spot → spot <+: kept)
    (named : ∀ segment ∈ kept, Json.segmentIndex? segment = none) (below : kept ≠ []) :
    let after := (fallbackPatch doc prompt).apply doc
    after.at? kept = doc.at? kept ∨ ∃ segments value tail, Seed doc prompt segments value ∧
      segments ++ tail = kept ∧ after.at? kept = value.at? tail := by
  -- The patch puts values and nothing else, so that its last value above the place counts.
  intro after
  have puts : ∀ operation ∈ fallbackPatch doc prompt, operation.value?.isSome := by
    intro operation listed
    obtain ⟨segments, value, -, rfl⟩ := mem_fallbackPatch listed
    rfl
  have above : ∀ operation ∈ fallbackPatch doc prompt,
      kept <+: operation.path.segments → operation.path.segments <+: kept := by
    intro operation listed
    obtain ⟨segments, value, seed, rfl⟩ := mem_fallbackPatch listed
    exact whole segments seed.mem_seedSpots
  refine (Patch.apply_put puts above named below doc).imp_right ?_
  rintro ⟨operation, listed, value, tail, there, place, read⟩
  obtain ⟨segments, value, seed, rfl⟩ := mem_fallbackPatch listed
  cases there
  exact ⟨segments, value, tail, seed, place, read⟩

/-- Below a limit that is no mapping there is nothing under a name. -/
theorem at?_limit_eq_none (unlimited : hasLimit doc = false) {leaf : String}
    (named : Json.segmentIndex? leaf = none) : doc.at? ["rules", "limit", leaf] = none := by
  have read : doc.pointer? "/rules/limit" = doc.at? ["rules", "limit"] :=
    Json.pointer?_text ⟨["rules", "limit"]⟩ doc
  rw [hasLimit, read] at unlimited
  rw [show ["rules", "limit", leaf] = ["rules", "limit"] ++ [leaf] from rfl, Json.at?_append]
  -- Whatever is there instead, only a mapping has something under a name.
  cases there : doc.at? ["rules", "limit"] with
  | none => rfl
  | some limit =>
    rw [Option.bind_some, Json.at?_singleton]
    cases limit with
    | obj fields => simp [there, Json.asFields?] at unlimited
    | arr items => exact Json.under?_arr_of_named named items
    | _ => rfl

/-- A number that a prompt states is positive and has 32 bits. -/
theorem limit?_bounds {count : Nat} (stated : Phrase.limit? prompt = some count) :
    0 < count ∧ count < 2 ^ 32 := by
  -- The number was found by a pattern, read in 32 bits, and dropped if it is zero.
  simp only [Phrase.limit?, Option.bind_eq_bind, Option.bind_eq_some_iff] at stated
  obtain ⟨found, -, digits, -, number, read, positive⟩ := stated
  obtain ⟨-, small⟩ := Option.filter_eq_some_iff.1 read
  split at positive
  · next above =>
    cases positive
    exact ⟨above, by simpa using small⟩
  · cases positive

section

variable (doc prompt)

/-- The theme, the skin and the size of the game are left alone. -/
theorem fallback_kept : ∀ place ∈ [["meta", "theme"], ["meta", "skin"], ["scene", "size"]],
    ((fallbackPatch doc prompt).apply doc).at? place = doc.at? place := by
  intro place listed
  -- No seed is put at these places, above them or below them.
  have apart : ∀ place ∈ [["meta", "theme"], ["meta", "skin"], ["scene", "size"]],
      (∀ spot ∈ seedSpots, ¬ spot <+: place ∧ ¬ place <+: spot) ∧
        (∀ segment ∈ place, Json.segmentIndex? segment = none) ∧ place ≠ [] := by decide
  obtain ⟨beside, named, below⟩ := apart place listed
  have whole : ∀ spot ∈ seedSpots, place <+: spot → spot <+: place :=
    fun spot there above => absurd above (beside spot there).2
  refine (at?_fallbackPatch place whole named below).resolve_right ?_
  rintro ⟨segments, value, tail, seed, joined, -⟩
  exact (beside segments seed.mem_seedSpots).1 ⟨tail, joined⟩

variable {doc prompt} in
/-- A place is filled with a default, if every seed that is put there or above has the default there. -/
theorem fallback_filled (kept : List String) {default : Json}
    (whole : ∀ spot ∈ seedSpots, kept <+: spot → spot <+: kept)
    (named : ∀ segment ∈ kept, Json.segmentIndex? segment = none) (below : kept ≠ [])
    (fills : ∀ {segments value tail}, Seed doc prompt segments value → segments ++ tail = kept →
      doc.at? kept = none ∧ value.at? tail = some default) :
    Json.Filled kept default doc ((fallbackPatch doc prompt).apply doc) := by
  -- The place was left alone, or a seed is read there.
  refine (at?_fallbackPatch kept whole named below).imp_right ?_
  rintro ⟨segments, value, tail, seed, place, read⟩
  obtain ⟨absent, there⟩ := fills seed place
  exact ⟨absent, read.trans there⟩

/-- The parts that a survival game lacks are left alone, or they are new and the defaults. -/
theorem fallback_seeded {place : List String} {default : Json}
    (listed : (place, default) ∈ seedDefaults) :
    Json.Filled place default doc ((fallbackPatch doc prompt).apply doc) := by
  -- No seed lies below such a part.
  have lone : ∀ part ∈ seedDefaults, (∀ spot ∈ seedSpots, part.1 <+: spot → spot <+: part.1) ∧
      (∀ segment ∈ part.1, Json.segmentIndex? segment = none) ∧ part.1 ≠ [] := by decide
  obtain ⟨whole, named, below⟩ := lone _ listed
  refine fallback_filled place whole named below fun seed joined => ?_
  subst joined
  exact seed.default_of_mem listed

/-- Whether the game ends at its limit is left alone, or the whole limit is new. -/
theorem fallback_ends : Json.Filled ["rules", "limit", "end_on_limit"] (.bool true) doc
    ((fallbackPatch doc prompt).apply doc) := by
  refine fallback_filled _ (by decide) (by decide) (by decide) fun {_ _ tail} seed place => ?_
  -- Only a new limit says whether the game ends.
  cases seed with
  | limit unlimited =>
    obtain rfl : tail = ["end_on_limit"] := by simpa using place
    exact ⟨at?_limit_eq_none unlimited (by decide), rfl⟩
  | _ => simp at place

/-- The title is left alone unless none can be read. -/
theorem fallback_title : Design.title? ((fallbackPatch doc prompt).apply doc) = Design.title? doc ∨
    Design.title? doc = none := by
  rcases at?_fallbackPatch ["meta", "title"] (by decide) (by decide) (by decide) with same |
    ⟨segments, value, tail, seed, place, -⟩
  · exact .inl (Json.textAt?_readAt ["meta", "title"] [] same)
  · cases seed with
    -- A title is put only where none can be read.
    | title untitled => exact .inr untitled
    | _ => simp at place

/-- What older designs call the limit is left alone, since a new limit does not speak of it. -/
theorem fallback_bubbles :
    ((fallbackPatch doc prompt).apply doc).at? ["rules", "limit", "concurrent_bubbles"] =
      doc.at? ["rules", "limit", "concurrent_bubbles"] := by
  rcases at?_fallbackPatch ["rules", "limit", "concurrent_bubbles"] (by decide) (by decide)
    (by decide) with same | ⟨segments, value, tail, seed, place, read⟩
  · exact same
  · -- A new limit is the only seed above this place.
    cases seed with
    | limit unlimited =>
      obtain rfl : tail = ["concurrent_bubbles"] := by simpa using place
      exact read.trans (at?_limit_eq_none unlimited (by decide)).symm
    | _ => simp at place

/-- The number of objects that may live at once is left alone, or it is the one that the prompt states. -/
theorem fallback_maxConcurrent :
    let most (doc : Json) := (Game.limitRule doc).maxConcurrent
    let after := (fallbackPatch doc prompt).apply doc
    most after = most doc ∨
      ∃ count, Phrase.limit? prompt = some count ∧ most after = max 1 (min 10000 count) := by
  intro most after
  -- A number that the prompt states is found as it is, wherever it was put.
  have stated {count : Nat} (states : Phrase.limit? prompt = some count)
      (read : after.at? ["rules", "limit", "max_concurrent"] = some (.nat count)) :
      most after = max 1 (min 10000 count) := by
    -- The number is small enough to be read as itself.
    obtain ⟨positive, small⟩ := limit?_bounds states
    exact Game.maxConcurrent_nat positive (by omega) read
  rcases at?_fallbackPatch ["rules", "limit", "max_concurrent"] (by decide) (by decide)
    (by decide) with same | ⟨segments, value, tail, seed, place, read⟩
  · exact .inl (Game.maxConcurrent_congr same (fallback_bubbles doc prompt))
  · cases seed with
    | limit unlimited =>
      obtain rfl : tail = ["max_concurrent"] := by simpa using place
      cases states : Phrase.limit? prompt with
      | none =>
        -- A new limit without a number has the one that a game has anyway.
        have put : after.at? ["rules", "limit", "max_concurrent"] = some (.nat 100) := by
          rw [read, states]
          rfl
        left
        calc most after = 100 := Game.maxConcurrent_nat (by decide) (by decide) put
          _ = most doc := (Game.maxConcurrent_default (at?_limit_eq_none unlimited (by decide))
            (at?_limit_eq_none unlimited (by decide))).symm
      | some count => exact .inr ⟨count, rfl, stated states (by rw [read, states]; rfl)⟩
    | most states =>
      obtain rfl : tail = [] := by simpa using place
      -- The number was put into the limit that was there.
      exact .inr ⟨_, states, stated states read⟩
    | _ => simp at place

end

/--
The rules without a service never change a game that was already specified.

The game that the document asks for afterwards is the one that it asked for before. Only a title can
be new where none could be read, and the number of objects that may live at once can be the one that
the prompt states, brought into the range of a game.
-/
theorem fallback_keeps_game (doc : Json) (prompt : String) :
    let game := Game.ofDesign doc
    let seeded := Game.ofDesign ((fallbackPatch doc prompt).apply doc)
    seeded = { game with
        scene := { game.scene with title := seeded.scene.title }
        limit := { game.limit with maxConcurrent := seeded.limit.maxConcurrent } } ∧
      (seeded.scene.title = game.scene.title ∨ Design.title? doc = none) ∧
      (seeded.limit.maxConcurrent = game.limit.maxConcurrent ∨
        ∃ count, Phrase.limit? prompt = some count ∧
          seeded.limit.maxConcurrent = max 1 (min 10000 count)) := by
  -- Every part of the game is read where the document was left alone or got the default.
  intro game seeded
  refine ⟨?_, (fallback_title doc prompt).imp_left fun same => ?_,
    fallback_maxConcurrent doc prompt⟩
  · -- Each default stands in the list, so the lemma about the list fills them all.
    have seeded {place : List String} {default : Json} (listed : (place, default) ∈ seedDefaults) :=
      fallback_seeded doc prompt listed
    exact Game.ofDesign_filled (fallback_kept doc prompt) (seeded (by simp [seedDefaults]))
      (seeded (by simp [seedDefaults])) (seeded (by simp [seedDefaults])) (fallback_ends doc prompt)
  · exact congrArg (·.getD "Bubble Rush") same

/-- A game without a title gets one, and the prompt asks for more objects than there can be. -/
example :
    let doc := Json.obj [("rules", .obj [("limit", .obj [("concurrent_bubbles", .nat 7)])])]
    let seeded := Game.ofDesign ((fallbackPatch doc "slimes, limit 20000").apply doc)
    (Game.ofDesign doc).scene.title = "Bubble Rush" ∧ seeded.scene.title = "Slime Rush" ∧
      (Game.ofDesign doc).limit.maxConcurrent = 7 ∧ seeded.limit.maxConcurrent = 10000 := by
  decide +kernel

end Minigame.Proposal
