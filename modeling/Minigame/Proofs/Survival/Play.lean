import Minigame.Survival.Run

/-!
Runs under arbitrary input.

What is booked of a run, its time and its counters, changes with a start and with a frame alone.
-/

namespace Minigame.Survival

/-- What can be done with a run. -/
inductive Input where
  | start
  | togglePause
  | advance (frameMs : Float)
  | popAt (x y : Float)
  | recordIfBetter (timeMs : Float)

namespace Run

/-- A run after an input. -/
def step (run : Run) : Input → Run
  -- Each input is one of the functions that a page calls.
  | .start => run.start
  | .togglePause => run.togglePause
  | .advance frameMs => run.advance frameMs
  | .popAt x y => (run.popAt x y).2
  | .recordIfBetter timeMs => (run.recordIfBetter timeMs).2

/-- A run after some inputs. -/
def play (run : Run) (inputs : List Input) : Run :=
  inputs.foldl step run

end Run

/-- What is booked of a run. -/
structure Books where
  schedule : Schedule
  limit : LimitRule
  elapsedMs : Float
  windowIndex : Nat
  spawnedInWindow : Nat
  totalSpawned : Nat
  deriving DecidableEq

namespace Books

/-- The books at the start of a run. -/
def opened (schedule : Schedule) (limit : LimitRule) : Books :=
  ⟨schedule, limit, 0.0, 0, 0, 0⟩

/-- The window of the running time. -/
def window (books : Books) : Nat :=
  books.schedule.windowIndex books.elapsedMs

/-- What that window has spawned already. -/
def carried (books : Books) : Nat :=
  -- What was spawned in a window that has passed counts no more.
  if books.window = books.windowIndex then books.spawnedInWindow else 0

/-- What is due in that window. -/
def due (books : Books) : Nat :=
  books.schedule.frameQuota books.window books.carried

/-- The books with a number of objects spawned in the window of the running time. -/
def spawn (books : Books) (count : Nat) : Books :=
  { books with
    windowIndex := books.window, spawnedInWindow := books.carried + count,
    totalSpawned := books.totalSpawned + count }

/-- The books with what is due spawned. -/
def fill (books : Books) : Books :=
  { books with
    windowIndex := books.window, spawnedInWindow := books.carried + books.due,
    totalSpawned := books.totalSpawned + books.due }

/-- The books at another time. -/
def atTime (books : Books) (elapsedMs : Float) : Books :=
  { books with elapsedMs }

/-- The books after a frame. -/
def advance (books : Books) (frameMs : Float) : Books :=
  (books.atTime (books.elapsedMs + Run.frameLength frameMs)).fill

theorem totalSpawned_le_foldl (books : Books) (frames : List Float) :
    books.totalSpawned ≤ (frames.foldl advance books).totalSpawned := by
  induction frames generalizing books with
  | nil => exact Nat.le_refl _
  -- No frame takes anything from the total.
  | cons frameMs frames ih => exact Nat.le_trans (Nat.le_add_right _ _) (ih (books.advance frameMs))

end Books

theorem Orb.length_spawn (width height : Float) (count : Nat) (g : Generator) :
    (Orb.spawn width height count g).1.length = count := by
  induction count generalizing g with
  | zero => rfl
  | succ count ih => exact congrArg (· + 1) (ih _)

namespace Run

/-- The books of a run. -/
def books (run : Run) : Books :=
  ⟨run.schedule, run.limit, run.elapsedMs, run.windowIndex, run.spawnedInWindow, run.totalSpawned⟩

theorem initial_books (game : Game) (seed : UInt64) :
    (initial game seed).books = .opened (.ofRule game.spawn) game.limit := rfl

/-- A start opens new books, unless the run is under way. -/
theorem start_books (run : Run) :
    run.start.books = if run.state = .running ∨ run.state = .paused then run.books
      else .opened run.schedule run.limit := by
  unfold start
  split
  -- Under way means running or paused.
  case h_1 running => rw [if_pos (.inl running)]
  case h_2 paused => rw [if_pos (.inr paused)]
  case h_3 running paused =>
    rw [if_neg (not_or.mpr ⟨running, paused⟩)]
    rfl

theorem togglePause_books (run : Run) : run.togglePause.books = run.books := by
  unfold togglePause
  split <;> rfl

theorem recordIfBetter_books (run : Run) (timeMs : Float) :
    (run.recordIfBetter timeMs).2.books = run.books := by
  unfold recordIfBetter
  split <;> rfl

theorem popAt_books (run : Run) (x y : Float) : (run.popAt x y).2.books = run.books := by
  unfold popAt
  -- A tap that hits marks one object, and objects are not booked.
  split
  · split <;> rfl
  · rfl

theorem moveOrbs_books (run : Run) (frameMs : Float) : (run.moveOrbs frameMs).books = run.books :=
  rfl

theorem endAtLimit_books (run : Run) : run.endAtLimit.books = run.books := by
  unfold endAtLimit
  split
  · exact recordIfBetter_books _ _
  · rfl

theorem enterWindow_books (run : Run) :
    run.enterWindow.books =
      { run.books with windowIndex := run.books.window, spawnedInWindow := run.books.carried } := by
  unfold enterWindow
  -- In the window of before its count goes on, and in another one it begins anew.
  by_cases same : run.schedule.windowIndex run.elapsedMs = run.windowIndex
  · have window : run.books.window = run.windowIndex := same
    have carried : run.books.carried = run.spawnedInWindow := if_pos same
    rw [window, carried, if_pos same]
    rfl
  · have carried : run.books.carried = 0 := if_neg same
    rw [carried, if_neg same]
    rfl

theorem enterWindow_orbs (run : Run) : run.enterWindow.orbs = run.orbs := by
  unfold enterWindow
  dsimp only
  split <;> rfl

theorem enterWindow_state (run : Run) : run.enterWindow.state = run.state := by
  unfold enterWindow
  dsimp only
  split <;> rfl

/-- A run that cannot end spawns no more of what is due than it has room for. -/
theorem enterWindow_quota (run : Run) :
    run.enterWindow.quota = if run.limit.endOnLimit then run.books.due
      else min run.books.due (run.limit.maxConcurrent - run.orbs.length) := by
  -- Entering a window changes its two counters alone. The quota is taken after the window was
  -- entered; what it looks at is in the books.
  have entered := run.enterWindow_books
  have schedule : run.enterWindow.schedule = run.schedule := congrArg Books.schedule entered
  have limit : run.enterWindow.limit = run.limit := congrArg Books.limit entered
  have window : run.enterWindow.windowIndex = run.books.window :=
    congrArg Books.windowIndex entered
  have carried : run.enterWindow.spawnedInWindow = run.books.carried :=
    congrArg Books.spawnedInWindow entered
  rw [quota, schedule, limit, window, carried, enterWindow_orbs]
  rfl

/-- What is spawned is added to both counters of the window that was entered. -/
theorem spawnDue_books_spawn (run : Run) :
    run.spawnDue.books = run.books.spawn run.enterWindow.quota := by
  -- The state of the objects and of the generator is not looked at by the books.
  change { run.enterWindow.books with
      spawnedInWindow := run.enterWindow.books.spawnedInWindow + run.enterWindow.quota,
      totalSpawned := run.enterWindow.books.totalSpawned + run.enterWindow.quota } = _
  rw [enterWindow_books]
  rfl

/-- Without a ceiling all that is due is spawned. -/
theorem spawnDue_books (run : Run) (ends : run.limit.endOnLimit = true) :
    run.spawnDue.books = run.books.fill := by
  rw [spawnDue_books_spawn, enterWindow_quota, if_pos ends]
  rfl

theorem advance_of_not_running {run : Run} (idle : run.state ≠ .running) (frameMs : Float) :
    run.advance frameMs = run :=
  if_neg idle

/-- A run at the time of its next frame. -/
def ticked (run : Run) (frameMs : Float) : Run :=
  { run with elapsedMs := run.elapsedMs + frameLength frameMs }

theorem advance_of_running {run : Run} (running : run.state = .running) (frameMs : Float) :
    run.advance frameMs
      = ((run.ticked frameMs).spawnDue.moveOrbs (frameLength frameMs)).endAtLimit :=
  if_pos running

/-- A frame of a run that ends at its limit is booked without a look at the objects. -/
theorem advance_books {run : Run} (running : run.state = .running)
    (ends : run.limit.endOnLimit = true) (frameMs : Float) :
    (run.advance frameMs).books = run.books.advance frameMs := by
  -- Neither moving nor ending a run is booked.
  rw [advance_of_running running, endAtLimit_books, moveOrbs_books]
  exact spawnDue_books (run.ticked frameMs) ends

theorem recordIfBetter_orbs (run : Run) (timeMs : Float) :
    (run.recordIfBetter timeMs).2.orbs = run.orbs := by
  unfold recordIfBetter
  split <;> rfl

theorem endAtLimit_orbs (run : Run) : run.endAtLimit.orbs = run.orbs := by
  unfold endAtLimit
  split
  · exact recordIfBetter_orbs _ _
  · rfl

/-- What is spawned comes onto the stage and is counted. -/
theorem live_spawnDue (run : Run) :
    run.spawnDue.orbs.length + run.totalSpawned = run.orbs.length + run.spawnDue.totalSpawned := by
  -- Both sides grow by the quota of this frame.
  have total : run.enterWindow.totalSpawned = run.totalSpawned :=
    congrArg Books.totalSpawned run.enterWindow_books
  have spawned : run.spawnDue.orbs.length = run.orbs.length + run.enterWindow.quota := by
    -- As many objects come onto the stage as the quota says.
    change (run.enterWindow.orbs ++ (Orb.spawn _ _ run.enterWindow.quota _).1).length = _
    rw [List.length_append, Orb.length_spawn, enterWindow_orbs]
  have counted : run.spawnDue.totalSpawned = run.totalSpawned + run.enterWindow.quota := by
    rw [← total]
    rfl
  omega

theorem length_moveOrbs_le (run : Run) (frameMs : Float) :
    (run.moveOrbs frameMs).orbs.length ≤ run.orbs.length :=
  -- Moving leaves out what has popped, and everything else stays one object.
  Nat.le_trans (List.length_filter_le _ _) (Nat.le_of_eq (List.length_map _))

/-- Objects only leave the stage when they move, so there are no more of them than were counted. -/
theorem live_advance_le {run : Run} (live : run.orbs.length ≤ run.totalSpawned) (frameMs : Float) :
    (run.advance frameMs).orbs.length ≤ (run.advance frameMs).totalSpawned := by
  by_cases running : run.state = .running
  -- The time goes on without a change of the stage, what is spawned is counted, and moving adds
  -- nothing.
  · have ticked : (run.ticked frameMs).orbs.length ≤ (run.ticked frameMs).totalSpawned := live
    have spawned := (run.ticked frameMs).live_spawnDue
    have moved := length_moveOrbs_le (run.ticked frameMs).spawnDue (frameLength frameMs)
    have counted : (run.advance frameMs).totalSpawned
        = (run.ticked frameMs).spawnDue.totalSpawned := by
      rw [advance_of_running running]
      exact congrArg Books.totalSpawned (endAtLimit_books _)
    rw [counted, advance_of_running running, endAtLimit_orbs]
    omega
  · -- A run that is not running does nothing in a frame.
    rwa [advance_of_not_running running]

/-- With fewer objects on stage than there may be the run goes on. -/
theorem advance_state {run : Run} (running : run.state = .running) (frameMs : Float)
    (room : (run.advance frameMs).orbs.length < run.limit.maxConcurrent) :
    (run.advance frameMs).state = .running := by
  let moved := (run.ticked frameMs).spawnDue.moveOrbs (frameLength frameMs)
  have limit : moved.limit = run.limit :=
    congrArg Books.limit (run.ticked frameMs).enterWindow_books
  -- Until the limit is looked at the run is still running.
  have state : moved.state = .running := ((run.ticked frameMs).enterWindow_state).trans running
  rw [advance_of_running running, endAtLimit_orbs] at room
  rw [advance_of_running running, endAtLimit, if_neg]
  · exact state
  · -- To end the run the stage would have to be full.
    rintro ⟨-, full⟩
    exact absurd (limit ▸ full) (Nat.not_le_of_lt room)

/-- A run goes on as long as fewer objects were counted than it may have on stage. -/
theorem play_frames : ∀ {run : Run} (frames : List Float), run.state = .running →
    run.limit.endOnLimit = true → run.orbs.length ≤ run.totalSpawned →
    (frames.foldl Books.advance run.books).totalSpawned < run.limit.maxConcurrent →
    (run.play (frames.map .advance)).books = frames.foldl Books.advance run.books
  | _, [], _, _, _, _ => rfl
  | run, frameMs :: frames, running, ends, live, room => by
    have books := advance_books running ends frameMs
    -- The limit is part of the books, and no frame changes it.
    have limit : (run.advance frameMs).limit = run.limit := congrArg Books.limit books
    rw [List.foldl_cons, ← books] at room
    -- What is counted after this frame is counted at the end, too.
    have counted := Books.totalSpawned_le_foldl (run.advance frameMs).books frames
    have live' := live_advance_le live frameMs
    -- There is room after this frame, since no more are on stage than were counted.
    have below := Nat.lt_of_le_of_lt (Nat.le_trans live' counted) room
    have running' := advance_state running frameMs below
    rw [List.foldl_cons, ← books]
    exact play_frames frames running' (limit ▸ ends) live' (limit ▸ room)

/-- What is booked of a run that is started and then played with room for all its objects. -/
theorem play_start_frames (game : Game) (seed : UInt64) (ends : game.limit.endOnLimit = true)
    (frames : List Float)
    (room : (frames.foldl Books.advance
      (.opened (.ofRule game.spawn) game.limit)).totalSpawned < game.limit.maxConcurrent) :
    ((initial game seed).play (.start :: frames.map .advance)).books
      = frames.foldl Books.advance (.opened (.ofRule game.spawn) game.limit) := by
  -- A new run starts at once, and its stage is empty.
  have opened : (initial game seed).start.books = .opened (.ofRule game.spawn) game.limit := rfl
  have started : (initial game seed).start.state = .running := rfl
  rw [← opened] at room ⊢
  exact play_frames frames started ends (Nat.zero_le _) room

end Run

end Minigame.Survival
