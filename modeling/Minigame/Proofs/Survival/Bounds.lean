import Minigame.Proofs.Survival.Play

/-!
How many objects a run counts and has on its stage.

A frame spawns no more than its window still lacks, and it ends the run or holds the stage at the
limit, so the counters and the state of a run always fit its objects.
-/

namespace Minigame

/-- A number that was brought into a range lies in it. -/
theorem clamped_bounds (value : Option Float) {default low high : Nat} (least : low ≤ default)
    (most : default ≤ high) :
    low ≤ clamped value default low high ∧ clamped value default low high ≤ high := by
  cases value with
  -- The default lies in the range by itself.
  | none => exact ⟨least, most⟩
  | some number =>
    -- What is no number or is too small becomes the low end, and what is too great the high end.
    change low ≤ clampRounded low high number ∧ clampRounded low high number ≤ high
    unfold clampRounded
    dsimp only
    split
    · omega
    · split <;> omega

namespace Survival

/-- A game has room for an object. -/
theorem Game.limit_pos (doc : Json) : 0 < (ofDesign doc).limit.maxConcurrent :=
  (clamped_bounds _ (by decide) (by decide)).1

namespace Orb

/-- Nothing is popped where no object lies. -/
theorem popLast_eq_none_iff (x y : Float) (orbs : List Orb) :
    popLast x y orbs = none ↔ ∀ orb ∈ orbs, orb.contains x y = false := by
  induction orbs with
  | nil => simp [popLast]
  | cons orb rest ih =>
    rw [popLast, List.forall_mem_cons, ← ih]
    -- The rest is hit, or this object decides.
    cases popLast x y rest <;> simp

/-- What is popped is the last of the objects that a point lies on. -/
theorem popLast_eq_some {x y : Float} {orbs popped : List Orb}
    (found : popLast x y orbs = some popped) :
    ∃ before orb after, orbs = before ++ orb :: after ∧ popped = before ++ orb.pop :: after
      ∧ orb.contains x y = true ∧ ∀ other ∈ after, other.contains x y = false := by
  induction orbs generalizing popped with
  | nil => cases found
  | cons orb rest ih =>
    rw [popLast] at found
    -- The rest is searched first, so an object is popped only if none behind it is hit.
    cases behind : popLast x y rest with
    | some others =>
      rw [behind] at found
      obtain rfl := Option.some.inj found
      obtain ⟨before, hit, after, rfl, rfl, within, last⟩ := ih behind
      exact ⟨orb :: before, hit, after, rfl, rfl, within, last⟩
    | none =>
      -- Nothing behind this object is hit, so it is the last one if the point lies on it.
      simp only [behind, Option.ite_none_right_eq_some, Option.some.injEq] at found
      obtain ⟨within, rfl⟩ := found
      exact ⟨[], orb, rest, rfl, rfl, within, (popLast_eq_none_iff x y rest).mp behind⟩

/-- A pop leaves all objects on the stage. -/
theorem length_popLast {x y : Float} {orbs popped : List Orb}
    (found : popLast x y orbs = some popped) : popped.length = orbs.length := by
  obtain ⟨before, orb, after, rfl, rfl, -, -⟩ := popLast_eq_some found
  -- Only one object is exchanged.
  simp

end Orb

/-- Books in which the current window has no more objects than its target and than were counted. -/
structure Books.Fits (books : Books) : Prop where
  inWindow : books.spawnedInWindow ≤ books.schedule.windowTarget books.windowIndex
  counted : books.spawnedInWindow ≤ books.totalSpawned

/-- Spawning no more than what is due keeps a window within its target. -/
theorem Books.Fits.spawn {books : Books} (fits : books.Fits) {count : Nat}
    (most : count ≤ books.due) : (books.spawn count).Fits := by
  -- What is due is what the window lacks, at most.
  have lacking : books.due ≤ books.schedule.windowTarget books.window - books.carried :=
    Nat.min_le_left _ _
  have carried : books.carried ≤ books.schedule.windowTarget books.window
      ∧ books.carried ≤ books.totalSpawned := by
    -- Either the window goes on with what it has, or it begins with nothing.
    unfold Books.carried
    split
    case isTrue same =>
      rw [same]
      exact ⟨fits.inWindow, fits.counted⟩
    case isFalse => exact ⟨Nat.zero_le _, Nat.zero_le _⟩
  constructor
  · change books.carried + count ≤ books.schedule.windowTarget books.window
    -- With no more than what is due the window keeps its target.
    omega
  · exact Nat.add_le_add_right carried.2 count

namespace Run

/-- The number of objects that a frame of a running run spawns. -/
def spawns (run : Run) (frameMs : Float) : Nat :=
  (run.ticked frameMs).enterWindow.quota

variable {run : Run}

/-- A frame of a running run is booked with the objects that it spawns. -/
theorem advance_books_spawn (running : run.state = .running) (frameMs : Float) :
    (run.advance frameMs).books = (run.ticked frameMs).books.spawn (run.spawns frameMs) := by
  rw [advance_of_running running, endAtLimit_books, moveOrbs_books]
  exact spawnDue_books_spawn (run.ticked frameMs)

/-- A frame spawns at most what is due in its window. -/
theorem spawns_le_due (frameMs : Float) :
    run.spawns frameMs ≤ (run.ticked frameMs).books.due := by
  rw [spawns, enterWindow_quota]
  split
  · exact Nat.le_refl _
  · -- The room on the stage may be even less.
    exact Nat.min_le_left _ _

/-- A frame spawns no more than the cap. -/
theorem spawns_le_cap (frameMs : Float) : run.spawns frameMs ≤ catchUpCap :=
  Nat.le_trans (run.spawns_le_due frameMs) (Nat.min_le_right _ _)

theorem advance_totalSpawned (running : run.state = .running) (frameMs : Float) :
    (run.advance frameMs).totalSpawned = run.totalSpawned + run.spawns frameMs :=
  congrArg Books.totalSpawned (advance_books_spawn running frameMs)

/-- A frame of a run that cannot end spawns no more than there is room for. -/
theorem spawns_le_room (endless : run.limit.endOnLimit = false) (frameMs : Float) :
    run.spawns frameMs ≤ run.limit.maxConcurrent - run.orbs.length := by
  -- The clock has nothing to do with how a run ends.
  have endless' : ¬ (run.ticked frameMs).limit.endOnLimit = true := by
    rw [show (run.ticked frameMs).limit = run.limit from rfl, endless]
    decide
  rw [spawns, enterWindow_quota, if_neg endless']
  exact Nat.min_le_right _ _

/-- The stage gains at most what a frame spawns. -/
theorem length_advance_le (running : run.state = .running) (frameMs : Float) :
    (run.advance frameMs).orbs.length ≤ run.orbs.length + run.spawns frameMs := by
  -- Spawning adds as many objects as it counts, and moving only takes objects away.
  have spawned := (run.ticked frameMs).live_spawnDue
  have counted :
      (run.ticked frameMs).spawnDue.totalSpawned = run.totalSpawned + run.spawns frameMs :=
    congrArg Books.totalSpawned (spawnDue_books_spawn (run.ticked frameMs))
  have moved := length_moveOrbs_le (run.ticked frameMs).spawnDue (frameLength frameMs)
  have orbs : (run.ticked frameMs).orbs.length = run.orbs.length := rfl
  have total : (run.ticked frameMs).totalSpawned = run.totalSpawned := rfl
  rw [advance_of_running running, endAtLimit_orbs]
  omega

/-- A run that is ended at its limit has a best time. -/
theorem endAtLimit_of_full
    (full : run.limit.endOnLimit ∧ run.limit.maxConcurrent ≤ run.orbs.length) :
    run.endAtLimit.state = .ended ∧ run.endAtLimit.bestMs.isSome := by
  rw [endAtLimit, if_pos full, recordIfBetter]
  split
  · next noRecord =>
    -- Only a best time that there is can be as good as this one.
    refine ⟨rfl, ?_⟩
    cases best : run.bestMs with
    | none => simp [isNoRecord, best] at noRecord
    | some timeMs => rfl
  · exact ⟨rfl, rfl⟩

/-- A frame ends a run that has reached its limit, and no other run. -/
theorem advance_outcome (running : run.state = .running) (frameMs : Float) :
    if run.limit.endOnLimit ∧ run.limit.maxConcurrent ≤ (run.advance frameMs).orbs.length then
      (run.advance frameMs).state = .ended ∧ (run.advance frameMs).bestMs.isSome
    else (run.advance frameMs).state = .running := by
  -- Whether a frame ends the run is decided after it has spawned and moved.
  let moved := (run.ticked frameMs).spawnDue.moveOrbs (frameLength frameMs)
  have limit : moved.limit = run.limit :=
    congrArg Books.limit (run.ticked frameMs).enterWindow_books
  have state : moved.state = .running := ((run.ticked frameMs).enterWindow_state).trans running
  rw [advance_of_running running, endAtLimit_orbs, ← limit]
  split
  case isTrue full => exact endAtLimit_of_full full
  case isFalse room => rw [endAtLimit, if_neg room]; exact state

/-- A pop changes nothing or takes the hit object of a running run. -/
theorem popAt_cases (run : Run) (x y : Float) :
    run.popAt x y = (false, run)
      ∨ run.state = .running ∧ ∃ popped, Orb.popLast x y run.orbs = some popped
        ∧ run.popAt x y = (true, { run with orbs := popped }) := by
  unfold popAt
  split
  case isTrue running =>
    -- The point lies on no object, or the last one that it lies on is popped.
    cases found : Orb.popLast x y run.orbs with
    | none => exact .inl rfl
    | some popped => exact .inr ⟨running, popped, rfl, rfl⟩
  case isFalse => exact .inl rfl

theorem popAt_of_not_running (idle : run.state ≠ .running) (x y : Float) :
    run.popAt x y = (false, run) :=
  if_neg idle

/-- A run that was started and has not ended. -/
def IsOpen (run : Run) : Prop :=
  run.state = .running ∨ run.state = .paused

/-- What holds of a run after any inputs. -/
structure Sound (run : Run) : Prop where
  /-- A window never brings more objects than its target. -/
  inWindow : run.spawnedInWindow ≤ run.schedule.windowTarget run.windowIndex
  counted : run.spawnedInWindow ≤ run.totalSpawned
  live : run.orbs.length ≤ run.totalSpawned
  /-- A run that ends at its limit is below it before. -/
  below : run.limit.endOnLimit = true → run.IsOpen → run.orbs.length < run.limit.maxConcurrent
  /-- The last frame of a run brings at most one cap of objects to a stage that was not full. -/
  full : run.limit.endOnLimit = true → run.state = .ended →
    run.limit.maxConcurrent ≤ run.orbs.length
      ∧ run.orbs.length ≤ run.limit.maxConcurrent + 49 ∧ run.bestMs.isSome
  /-- Any other run holds at its limit. -/
  held : run.limit.endOnLimit = false →
    run.orbs.length ≤ run.limit.maxConcurrent ∧ run.state ≠ .ended

theorem Sound.initial (game : Game) (seed : UInt64) : (initial game seed).Sound where
  inWindow := Nat.zero_le _
  counted := Nat.le_refl 0
  live := Nat.le_refl 0
  below _ started := by rcases started with running | paused <;> contradiction
  full _ ended := by contradiction
  held _ := ⟨Nat.zero_le _, nofun⟩

/-- An input that changes neither books nor the number of objects keeps a run sound. -/
theorem Sound.of_books (sound : run.Sound) {next : Run} (books : next.books = run.books)
    (orbs : next.orbs.length = run.orbs.length) (started : next.IsOpen → run.IsOpen)
    (ended : next.state = .ended → run.state = .ended)
    (best : run.bestMs.isSome → next.bestMs.isSome) : next.Sound := by
  obtain ⟨schedule, limit, -, window, inWindow, total⟩ := Books.mk.inj books
  refine ⟨?_, ?_, ?_, ?_, ?_, ?_⟩
  · rw [schedule, window, inWindow]; exact sound.inWindow
  · rw [inWindow, total]; exact sound.counted
  · rw [orbs, total]; exact sound.live
  · -- Below the limit it stays as long as it is open.
    rw [limit, orbs]
    exact fun ends isOpen => sound.below ends (started isOpen)
  · -- What had ended before is as full as it was.
    rw [limit, orbs]
    intro ends final
    obtain ⟨least, most, kept⟩ := sound.full ends (ended final)
    exact ⟨least, most, best kept⟩
  · rw [limit, orbs]
    intro endless
    obtain ⟨most, goesOn⟩ := sound.held endless
    exact ⟨most, fun final => goesOn (ended final)⟩

theorem Sound.start (sound : run.Sound) (room : 0 < run.limit.maxConcurrent) :
    run.start.Sound := by
  unfold Run.start
  split
  · exact sound
  · exact sound
  · -- A new run has an empty stage and room for an object.
    exact {
      inWindow := Nat.zero_le _
      counted := Nat.le_refl 0
      live := Nat.le_refl 0
      below := fun _ _ => room
      full := fun _ ended => by contradiction
      held := fun _ => ⟨Nat.zero_le _, nofun⟩ }

theorem Sound.togglePause (sound : run.Sound) : run.togglePause.Sound := by
  -- A pause and its end pass between the two open states.
  refine sound.of_books run.togglePause_books ?_ ?_ ?_ ?_ <;> unfold Run.togglePause <;> split
  all_goals simp_all [IsOpen]

theorem Sound.popAt (sound : run.Sound) (x y : Float) : (run.popAt x y).2.Sound := by
  obtain missed | ⟨-, popped, found, hit⟩ := run.popAt_cases x y
  · rwa [missed]
  · rw [hit]
    -- As many objects are on the stage as before.
    exact sound.of_books rfl (Orb.length_popLast found) id id id

theorem Sound.recordIfBetter (sound : run.Sound) (timeMs : Float) :
    (run.recordIfBetter timeMs).2.Sound := by
  unfold Run.recordIfBetter
  split
  · exact sound
  · exact sound.of_books rfl rfl id id fun _ => rfl

/-- A frame spawns what its window lacks at most, and the stage gains no more than that. -/
theorem Sound.advance (sound : run.Sound) (frameMs : Float) : (run.advance frameMs).Sound := by
  by_cases running : run.state = .running
  case neg => rwa [advance_of_not_running running]
  have booked := advance_books_spawn running frameMs
  -- The rules of the game are booked and stay.
  have limit : (run.advance frameMs).limit = run.limit := congrArg Books.limit booked
  have total := advance_totalSpawned running frameMs
  -- The clock moves first; the books are in order before anything is spawned.
  have before : (run.ticked frameMs).books.Fits := ⟨sound.inWindow, sound.counted⟩
  have fits : (run.advance frameMs).books.Fits := booked ▸ before.spawn (spawns_le_due frameMs)
  have stage := length_advance_le running frameMs
  have outcome := advance_outcome running frameMs
  refine ⟨fits.inWindow, fits.counted, ?live, ?below, ?full, ?held⟩
  case live =>
    -- What the stage gains the total gains as well.
    have live := sound.live
    omega
  case below =>
    intro ends started
    rw [limit] at ends ⊢
    -- A frame that fills the stage ends the run, so it is neither running nor paused.
    refine Nat.lt_of_not_le fun full => ?_
    rw [if_pos ⟨ends, full⟩] at outcome
    simp [IsOpen, outcome.1] at started
  case full =>
    intro ends final
    rw [limit] at ends ⊢
    -- The stage was below its limit before, and the frame adds one cap at most.
    have room := sound.below ends (.inl running)
    have capped : run.spawns frameMs ≤ 50 := spawns_le_cap frameMs
    split at outcome
    case isTrue full => exact ⟨full.2, by omega, outcome.2⟩
    -- A stage that is not full does not end the run.
    case isFalse =>
      rw [outcome] at final
      contradiction
  case held =>
    intro endless
    rw [limit] at endless ⊢
    -- Without an end the frame itself stays within the room that there is.
    have most := (sound.held endless).1
    have room := spawns_le_room endless frameMs
    rw [if_neg (by simp [endless])] at outcome
    refine ⟨by omega, ?_⟩
    rw [outcome]
    nofun

theorem Sound.step (sound : run.Sound) (room : 0 < run.limit.maxConcurrent) (input : Input) :
    (run.step input).Sound := by
  cases input with
  | start => exact sound.start room
  | togglePause => exact sound.togglePause
  | advance frameMs => exact sound.advance frameMs
  | popAt x y => exact sound.popAt x y
  | recordIfBetter timeMs => exact sound.recordIfBetter timeMs

/-- No input changes the schedule or the limit. -/
theorem step_rules (run : Run) (input : Input) :
    (run.step input).schedule = run.schedule ∧ (run.step input).limit = run.limit := by
  have of_books {next : Run} (books : next.books = run.books) :
      next.schedule = run.schedule ∧ next.limit = run.limit :=
    ⟨congrArg Books.schedule books, congrArg Books.limit books⟩
  cases input with
  | start =>
    change run.start.schedule = run.schedule ∧ run.start.limit = run.limit
    unfold Run.start
    split <;> exact ⟨rfl, rfl⟩
  | togglePause => exact of_books run.togglePause_books
  | advance frameMs =>
    by_cases running : run.state = .running
    · have booked := advance_books_spawn running frameMs
      exact ⟨congrArg Books.schedule booked, congrArg Books.limit booked⟩
    · exact of_books (congrArg Run.books (advance_of_not_running running frameMs))
  | popAt x y => exact of_books (run.popAt_books x y)
  | recordIfBetter timeMs => exact of_books (run.recordIfBetter_books timeMs)

/-- A run keeps its schedule and its limit. -/
theorem play_rules (run : Run) (inputs : List Input) :
    (run.play inputs).schedule = run.schedule ∧ (run.play inputs).limit = run.limit := by
  induction inputs generalizing run with
  | nil => exact ⟨rfl, rfl⟩
  | cons input inputs ih =>
    obtain ⟨schedule, limit⟩ := run.step_rules input
    exact ⟨(ih (run.step input)).1.trans schedule, (ih (run.step input)).2.trans limit⟩

/-- A run with room for an object stays sound, whatever is done with it. -/
theorem Sound.play (sound : run.Sound) (room : 0 < run.limit.maxConcurrent)
    (inputs : List Input) : (run.play inputs).Sound := by
  induction inputs generalizing run with
  | nil => exact sound
  | cons input inputs ih =>
    refine ih (sound.step room input) ?_
    rwa [(run.step_rules input).2]

/-- A frame adds no more than the cap to what was counted. -/
theorem totalSpawned_advance_le (run : Run) (frameMs : Float) :
    (run.advance frameMs).totalSpawned ≤ run.totalSpawned + catchUpCap := by
  by_cases running : run.state = .running
  · rw [advance_totalSpawned running]
    exact Nat.add_le_add_left (spawns_le_cap frameMs) _
  · rw [advance_of_not_running running]
    exact Nat.le_add_right _ _

/--
The state of a run fits its counters and its stage, whatever was done with it.

It has the schedule and the limit of its game, a frame spawns at most fifty objects, and a run that
is not running takes neither frames nor pops.
-/
theorem play_sound (doc : Json) (seed : UInt64) (inputs : List Input) :
    let game := Game.ofDesign doc
    let run := (initial game seed).play inputs
    run.schedule = .ofRule game.spawn ∧ run.limit = game.limit ∧ run.Sound
      ∧ (∀ frameMs, (run.advance frameMs).totalSpawned ≤ run.totalSpawned + 50)
      ∧ (run.state ≠ .running →
        ∀ frameMs x y, run.advance frameMs = run ∧ run.popAt x y = (false, run)) := by
  intro game run
  obtain ⟨schedule, limit⟩ := (initial game seed).play_rules inputs
  refine ⟨schedule, limit, (Sound.initial game seed).play (Game.limit_pos doc) inputs,
    run.totalSpawned_advance_le, fun idle frameMs x y => ?_⟩
  exact ⟨advance_of_not_running idle frameMs, popAt_of_not_running idle x y⟩

end Run

end Survival

end Minigame
