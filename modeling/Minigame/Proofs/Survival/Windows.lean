import Mathlib.Data.List.SplitBy
import Minigame.Proofs.Survival.Play
import Minigame.Proofs.Survival.Schedule

/-!
How many objects a run spawns, window by window.

A run goes through its windows in order, and each of them brings one frame's cap of objects for
every frame played in it, until its target is reached.
-/

namespace Minigame.Survival

open Minigame.Rounding

/-- A frame that was played: the window it lies in and the number of objects it spawned. -/
structure Frame where
  window : Nat
  spawned : Nat
  deriving DecidableEq

/-- The next frame of a run. -/
def Run.frame (run : Run) (frameMs : Float) : Frame :=
  let next := run.advance frameMs
  ⟨run.schedule.windowIndex next.elapsedMs, next.totalSpawned - run.totalSpawned⟩

namespace Frame

/-- The number of objects that some frames spawned. -/
def sum (frames : List Frame) : Nat :=
  (frames.map spawned).sum

/-- The frames that lie in a window. -/
def inWindow (window : Nat) (frames : List Frame) : List Frame :=
  frames.filter (·.window = window)

/-- Frames cut wherever the window changes. -/
def blocks (frames : List Frame) : List (List Frame) :=
  frames.splitBy fun frame next => frame.window == next.window

/-- The window of a block, read off its first frame. -/
def windowOf : List Frame → Nat
  | [] => 0
  | frame :: _ => frame.window

theorem sum_append (frames more : List Frame) : sum (frames ++ more) = sum frames + sum more := by
  simp [sum]

theorem sum_flatten (frames : List (List Frame)) :
    sum frames.flatten = (frames.map sum).sum := by
  induction frames with
  | nil => rfl
  | cons block rest ih => rw [List.flatten_cons, sum_append, ih, List.map_cons, List.sum_cons]

theorem sum_concat (frames : List Frame) (frame : Frame) :
    sum (frames ++ [frame]) = sum frames + frame.spawned := by
  simp [sum]

theorem inWindow_append (window : Nat) (frames more : List Frame) :
    inWindow window (frames ++ more) = inWindow window frames ++ inWindow window more :=
  List.filter_append ..

/-- Frames of other windows are left out. -/
theorem inWindow_eq_nil {window : Nat} {frames : List Frame}
    (others : ∀ frame ∈ frames, frame.window ≠ window) : inWindow window frames = [] := by
  rw [inWindow, List.filter_eq_nil_iff]
  -- None of the frames passes the test.
  simpa using others

theorem inWindow_eq_self {window : Nat} {frames : List Frame}
    (all : ∀ frame ∈ frames, frame.window = window) : inWindow window frames = frames := by
  rw [inWindow, List.filter_eq_self]
  simpa using all

/-- A new frame joins those of its window. -/
theorem inWindow_concat_self (frames : List Frame) (frame : Frame) :
    inWindow frame.window (frames ++ [frame]) = inWindow frame.window frames ++ [frame] := by
  rw [inWindow_append, @inWindow_eq_self _ [frame] (by simp)]

theorem inWindow_concat_other {frame : Frame} {window : Nat} (other : frame.window ≠ window)
    (frames : List Frame) : inWindow window (frames ++ [frame]) = inWindow window frames := by
  rw [inWindow_append, @inWindow_eq_nil _ [frame] (by simpa using other), List.append_nil]

/-- Linked frames all lie in the window of the first one. -/
theorem window_of_isChain {block : List Frame}
    (linked : block.IsChain fun frame next => (frame.window == next.window) = true) :
    ∀ frame ∈ block, frame.window = windowOf block := by
  intro frame member
  -- Equality of windows is transitive, so links between neighbours link all pairs.
  rcases block with _ | ⟨first, rest⟩
  · exact absurd member (by simp)
  · have same : (first :: rest).Pairwise fun frame next => frame.window = next.window := by
      rw [← List.isChain_iff_pairwise]
      exact linked.imp fun _ _ equal => beq_iff_eq.mp equal
    -- A frame is the first one, or it is linked to it.
    rcases List.mem_cons.mp member with rfl | later
    · rfl
    · exact ((List.pairwise_cons.mp same).1 frame later).symm

/-- When windows come in order, what comes after a block lies in later windows. -/
theorem window_lt_of_cut {first : List Frame} {rest : List (List Frame)}
    (filled : [] ∉ first :: rest)
    (apart : (first :: rest).IsChain fun block next => windowOf block ≠ windowOf next)
    (ordered : (first :: rest).flatten.Pairwise (·.window ≤ ·.window)) :
    ∀ frame ∈ rest.flatten, windowOf first < frame.window := by
  rw [List.flatten_cons, List.pairwise_append] at ordered
  obtain ⟨-, ordered', across⟩ := ordered
  rw [List.mem_cons, not_or] at filled
  rcases first with _ | ⟨start, more⟩
  · exact absurd rfl filled.1
  rcases rest with _ | ⟨_ | ⟨head, tail⟩, rest⟩
  · simp
  · exact absurd rfl (not_or.mp (List.mem_cons.not.mp filled.2)).1
  · -- The next block begins a new window, and all that follows comes after its first frame.
    -- The next window is not the one of before, so it is a later one.
    have less : start.window < head.window := by
      have most := across start (.head _) head (by simp)
      have other : start.window ≠ head.window := (List.isChain_cons_cons.mp apart).1
      omega
    intro frame member
    rw [List.flatten_cons, List.cons_append] at ordered' member
    -- The frame begins the next block, or it comes after the one that does.
    rcases List.mem_cons.mp member with rfl | after
    · exact less
    · exact less.trans_le ((List.pairwise_cons.mp ordered').1 frame after)

/-- When windows come in order, blocks that are cut apart have all the frames of their windows. -/
theorem eq_inWindow_of_cut : ∀ {cut : List (List Frame)}, [] ∉ cut →
    (∀ block ∈ cut, ∀ frame ∈ block, frame.window = windowOf block) →
    (cut.IsChain fun block next => windowOf block ≠ windowOf next) →
    cut.flatten.Pairwise (·.window ≤ ·.window) →
    ∀ block ∈ cut, block = inWindow (windowOf block) cut.flatten
  | [], _, _, _, _ => by simp
  | first :: rest, filled, same, apart, ordered => by
    have later := window_lt_of_cut filled apart ordered
    rw [List.mem_cons, not_or] at filled
    rw [List.flatten_cons, List.pairwise_append] at ordered
    have ih := eq_inWindow_of_cut filled.2 (fun block member => same block (.tail _ member))
      apart.tail ordered.2.1
    intro block member
    rw [List.flatten_cons, inWindow_append]
    rcases List.mem_cons.mp member with rfl | member'
    · -- All of the first block lies in its window, and nothing after it does.
      rw [inWindow_eq_self (same _ member),
        inWindow_eq_nil fun frame within => (later frame within).ne', List.append_nil]
    · -- A later block has nothing in common with the first one.
      rw [inWindow_eq_nil, List.nil_append]
      · exact ih block member'
      · intro frame within
        rcases block with _ | ⟨head, tail⟩
        · exact absurd member' filled.2
        have after := later head (List.mem_flatten.mpr ⟨_, member', .head _⟩)
        rw [same first (.head _) frame within]
        exact after.ne

/-- When windows come in order, every block has all the frames of its window. -/
theorem block_eq_inWindow {frames : List Frame} (ordered : frames.Pairwise (·.window ≤ ·.window)) :
    ∀ block ∈ blocks frames, block = inWindow (windowOf block) frames := by
  -- A block holds neighbours that lie in one window.
  have same : ∀ block ∈ blocks frames, ∀ frame ∈ block, frame.window = windowOf block :=
    fun block member => window_of_isChain (List.isChain_of_mem_splitBy member)
  have whole : (blocks frames).flatten = frames := List.flatten_splitBy _ _
  -- What the cut guarantees: no block is empty, and neighbours differ in their windows.
  have filled : [] ∉ blocks frames := List.nil_notMem_splitBy _ _
  have apart : (blocks frames).IsChain fun block next => windowOf block ≠ windowOf next := by
    refine (List.isChain_getLast_head_splitBy _ frames).imp_of_mem_imp ?_
    rintro block next member member' ⟨nonempty, nonempty', other⟩
    rw [beq_eq_false_iff_ne, same block member _ (List.getLast_mem nonempty),
      same next member' _ (List.head_mem nonempty')] at other
    exact other
  -- The frames are the blocks, one behind the other.
  rw [← whole] at ordered
  have each := eq_inWindow_of_cut filled same apart ordered
  rwa [whole] at each

end Frame

/-- A run with the frames that were played since it was started last. -/
structure Course where
  run : Run
  frames : List Frame

namespace Course

/-- A run of which no frame was played. -/
def initial (run : Run) : Course :=
  ⟨run, []⟩

/-- A start that takes effect begins a new course, and a frame that is played adds to it. -/
def step (course : Course) (input : Input) : Course where
  run := course.run.step input
  frames :=
    match input, course.run.state with
    | .start, .idle => []
    | .start, .ended => []
    | .advance frameMs, .running => course.frames ++ [course.run.frame frameMs]
    | _, _ => course.frames

def play (course : Course) (inputs : List Input) : Course :=
  inputs.foldl step course

/-- The course goes along with the run and does not change it. -/
theorem play_run (course : Course) (inputs : List Input) :
    (course.play inputs).run = course.run.play inputs := by
  induction inputs generalizing course with
  | nil => rfl
  | cons input inputs ih => exact ih (course.step input)

end Course

open Minigame.Survival.Frame

/-- What the books of a run tell of the frames that were played. -/
structure Books.Ledger (books : Books) (frames : List Frame) : Prop where
  clock : 0.0 ≤ books.elapsedMs
  current : books.windowIndex = books.window
  ordered : frames.Pairwise (·.window ≤ ·.window)
  latest : ∀ frame ∈ frames, frame.window ≤ books.windowIndex
  total : books.totalSpawned = sum frames
  inCurrent : books.spawnedInWindow = sum (inWindow books.windowIndex frames)
  filled : ∀ window, sum (inWindow window frames)
    = min (catchUpCap * (inWindow window frames).length) (books.schedule.windowTarget window)

namespace Books.Ledger

theorem opened (schedule : Schedule) (limit : LimitRule) :
    (Books.opened schedule limit).Ledger [] where
  clock := zero_le_zero
  current := schedule.windowIndex_zero.symm
  ordered := .nil
  latest := by simp
  total := rfl
  inCurrent := rfl
  filled window := (Nat.zero_min _).symm

variable {books : Books} {frames : List Frame} {elapsedMs : Float}

/-- A later time lies in the window of the latest frames or in one without frames. -/
theorem latest_at (ledger : books.Ledger frames) (later : books.elapsedMs ≤ elapsedMs) :
    books.windowIndex ≤ (books.atTime elapsedMs).window
      ∧ ∀ frame ∈ frames, frame.window ≤ (books.atTime elapsedMs).window := by
  have window : books.windowIndex ≤ (books.atTime elapsedMs).window := by
    -- The books stand in the window of their own time.
    rw [ledger.current]
    exact books.schedule.windowIndex_mono later
  exact ⟨window, fun frame member => (ledger.latest frame member).trans window⟩

/-- What a window has spawned so far is carried into its next frame. -/
theorem carried_at (ledger : books.Ledger frames) (later : books.elapsedMs ≤ elapsedMs) :
    (books.atTime elapsedMs).carried = sum (inWindow (books.atTime elapsedMs).window frames) := by
  -- The frame goes on in the window of the frames before, or it enters one that has none.
  unfold Books.carried
  split
  case isTrue same =>
    rw [same]
    exact ledger.inCurrent
  case isFalse other =>
    rw [inWindow_eq_nil]
    · rfl
    · intro frame member
      -- All frames lie in the window of the books or before it.
      have before := ledger.latest frame member
      have window := (ledger.latest_at later).1
      have other : (books.atTime elapsedMs).window ≠ books.windowIndex := other
      omega

/-- The frame at a later time keeps the books right. -/
theorem fill_at (ledger : books.Ledger frames) (later : books.elapsedMs ≤ elapsedMs) :
    (books.atTime elapsedMs).fill.Ledger
      (frames ++ [⟨(books.atTime elapsedMs).window, (books.atTime elapsedMs).due⟩]) := by
  have carried := ledger.carried_at later
  obtain ⟨-, latest⟩ := ledger.latest_at later
  set moved := books.atTime elapsedMs with move
  let frame : Frame := ⟨moved.window, moved.due⟩
  -- The window of the new frame has spawned what was carried into it and what was due.
  have spawned : sum (inWindow frame.window (frames ++ [frame])) = moved.carried + moved.due := by
    rw [inWindow_concat_self, sum_concat, carried]
  refine ⟨float_le_trans zero_le_zero ledger.clock later, rfl, ?ordered, ?latest, ?total,
    spawned.symm, ?filled⟩
  case ordered =>
    -- The new frame lies behind all others, in no earlier window.
    exact List.pairwise_append.mpr ⟨ledger.ordered, List.pairwise_singleton _ _,
      by simpa using latest⟩
  case latest =>
    intro other member
    rcases List.mem_append.mp member with before | new
    · -- Earlier frames lie in the window of the later time or before it.
      exact latest other before
    · rw [List.mem_singleton.mp new]
      exact le_rfl
  case total =>
    -- What is due is counted with the rest.
    rw [sum_concat, ← ledger.total]
    rfl
  case filled =>
    intro window
    by_cases joined : frame.window = window
    · -- One frame more in this window: the schedule fills it up by one more cap.
      have count : moved.carried = min (catchUpCap * (inWindow moved.window frames).length)
          (moved.schedule.windowTarget moved.window) := carried.trans (ledger.filled moved.window)
      rw [← joined, spawned, inWindow_concat_self, List.length_append, List.length_singleton,
        Books.due, count]
      exact books.schedule.frameQuota_after _ _
    · -- All other windows have the frames they had.
      rw [inWindow_concat_other joined]
      exact ledger.filled window

/-- So does a frame of any length. -/
theorem advance (ledger : books.Ledger frames) (frameMs : Float) :
    (books.advance frameMs).Ledger
      (frames ++ [⟨(books.advance frameMs).window,
        (books.advance frameMs).totalSpawned - books.totalSpawned⟩]) := by
  -- A frame never turns the clock back, and the counter grows by what was due.
  have later := le_add ledger.clock (Run.zero_le_frameLength frameMs)
  have spawned : (books.advance frameMs).totalSpawned - books.totalSpawned
      = (books.atTime (books.elapsedMs + Run.frameLength frameMs)).due :=
    Nat.add_sub_cancel_left ..
  rw [spawned]
  exact ledger.fill_at later

end Books.Ledger

/-- What a frame of a run that ends at its limit is booked as. -/
theorem Run.frame_eq {run : Run} (running : run.state = .running)
    (ends : run.limit.endOnLimit = true) (frameMs : Float) :
    run.frame frameMs = ⟨(run.books.advance frameMs).window,
      (run.books.advance frameMs).totalSpawned - run.books.totalSpawned⟩ := by
  have books := advance_books running ends frameMs
  -- The schedule is one of the things that are booked.
  have schedule : (run.advance frameMs).schedule = run.schedule := congrArg Books.schedule books
  rw [← books, frame, ← schedule]
  rfl

namespace Course

/-- A course of a run that ends at its limit, with its books in order. -/
structure Kept (schedule : Schedule) (course : Course) : Prop where
  schedule : course.run.schedule = schedule
  ends : course.run.limit.endOnLimit = true
  ledger : course.run.books.Ledger course.frames

variable {schedule : Schedule} {course : Course}

/-- The schedule and the limit are booked, so they stay as they are while the books keep them. -/
theorem Kept.of_ledger (kept : course.Kept schedule) {next : Course}
    (rules : next.run.schedule = course.run.schedule ∧ next.run.limit = course.run.limit)
    (ledger : next.run.books.Ledger next.frames) : next.Kept schedule where
  schedule := rules.1.trans kept.schedule
  ends := by
    rw [rules.2]
    exact kept.ends
  ledger := ledger

/-- An input that changes neither books nor frames keeps the books in order. -/
theorem Kept.of_books (kept : course.Kept schedule) {next : Course}
    (books : next.run.books = course.run.books) (frames : next.frames = course.frames) :
    next.Kept schedule := by
  refine kept.of_ledger ⟨congrArg Books.schedule books, congrArg Books.limit books⟩ ?_
  -- Equal books tell of the same frames.
  rw [books, frames]
  exact kept.ledger

/-- New books without frames are in order. -/
theorem Kept.of_opened (kept : course.Kept schedule) {next : Course}
    (books : next.run.books = .opened course.run.schedule course.run.limit)
    (frames : next.frames = []) : next.Kept schedule := by
  refine kept.of_ledger ⟨congrArg Books.schedule books, congrArg Books.limit books⟩ ?_
  rw [books, frames]
  exact .opened _ _

theorem Kept.start (kept : course.Kept schedule) : (course.step .start).Kept schedule := by
  -- A start that takes no effect keeps books and frames; one that does drops both together.
  have books := course.run.start_books
  cases state : course.run.state with
  | running => exact kept.of_books (books.trans (if_pos (.inl state))) (by simp [step, state])
  | paused => exact kept.of_books (books.trans (if_pos (.inr state))) (by simp [step, state])
  | idle => exact kept.of_opened (books.trans (if_neg (by simp [state]))) (by simp [step, state])
  | ended => exact kept.of_opened (books.trans (if_neg (by simp [state]))) (by simp [step, state])

theorem Kept.advance (kept : course.Kept schedule) (frameMs : Float) :
    (course.step (.advance frameMs)).Kept schedule := by
  by_cases running : course.run.state = .running
  · have books : (course.step (.advance frameMs)).run.books = course.run.books.advance frameMs :=
      Run.advance_books running kept.ends frameMs
    have frames : (course.step (.advance frameMs)).frames
        = course.frames ++ [course.run.frame frameMs] := by
      simp only [step, running]
    refine kept.of_ledger ⟨congrArg Books.schedule books, congrArg Books.limit books⟩ ?_
    -- The frame that is booked is the one that joins the others.
    rw [books, frames, Run.frame_eq running kept.ends]
    exact kept.ledger.advance frameMs
  · -- Only a running run is advanced, and only its frames are counted.
    refine kept.of_books (congrArg Run.books (Run.advance_of_not_running running frameMs)) ?_
    cases state : course.run.state with
    | running => exact absurd state running
    | _ => simp only [step, state]

/-- Every input keeps the books in order. -/
theorem Kept.step (kept : course.Kept schedule) (input : Input) :
    (course.step input).Kept schedule := by
  cases input with
  | start => exact kept.start
  | togglePause => exact kept.of_books course.run.togglePause_books rfl
  | advance frameMs => exact kept.advance frameMs
  | popAt x y => exact kept.of_books (course.run.popAt_books x y) rfl
  | recordIfBetter timeMs => exact kept.of_books (course.run.recordIfBetter_books timeMs) rfl

theorem Kept.play (kept : course.Kept schedule) (inputs : List Input) :
    (course.play inputs).Kept schedule := by
  induction inputs generalizing course with
  | nil => exact kept
  | cons input inputs ih => exact ih (kept.step input)

theorem Kept.initial (game : Game) (seed : UInt64) (ends : game.limit.endOnLimit = true) :
    (Course.initial (.initial game seed)).Kept (.ofRule game.spawn) where
  schedule := rfl
  ends := ends
  ledger := by
    rw [show (Course.initial (.initial game seed)).run.books = _ from Run.initial_books game seed]
    exact .opened _ _

end Course

/--
What a run has spawned, counted by the blocks of frames that were played in one window.

Each block brings one frame's cap of objects for every frame, until the target of its window is
reached; no window is left and entered again, so none ever brings more than its target.
-/
theorem Run.totalSpawned_eq_blocks (doc : Json) (seed : UInt64) (inputs : List Input)
    (ends : (Game.ofDesign doc).limit.endOnLimit = true) :
    let start := Run.initial (.ofDesign doc) seed
    let run := start.play inputs
    let frames := ((Course.initial start).play inputs).frames
    let target := start.schedule.windowTarget
    run.totalSpawned = ((blocks frames).map fun block =>
        min (catchUpCap * block.length) (target (windowOf block))).sum
      ∧ (∀ block ∈ blocks frames,
        sum block = min (catchUpCap * block.length) (target (windowOf block)))
      ∧ (∀ window, sum (inWindow window frames) ≤ target window)
      ∧ run.totalSpawned ≤ ((blocks frames).map fun block => target (windowOf block)).sum := by
  intro start run frames target
  have kept := (Course.Kept.initial _ seed ends).play inputs
  have ledger := kept.ledger
  -- The books at the end are still those of the first schedule.
  have filled (window : Nat) : sum (inWindow window frames)
      = min (catchUpCap * (inWindow window frames).length) (target window) := by
    have books := ledger.filled window
    rwa [show ((Course.initial start).play inputs).run.books.schedule = start.schedule
      from kept.schedule] at books
  -- A block is all that was played in its window, so the books know what it has spawned.
  have whole : ∀ block ∈ blocks frames,
      sum block = min (catchUpCap * block.length) (target (windowOf block)) := by
    intro block member
    have window := filled (windowOf block)
    rwa [← block_eq_inWindow ledger.ordered block member] at window
  have total : run.totalSpawned = ((blocks frames).map sum).sum := by
    have played : ((Course.initial start).play inputs).run = run := Course.play_run _ inputs
    rw [← sum_flatten, show (blocks frames).flatten = frames from List.flatten_splitBy _ _,
      ← played]
    exact ledger.total
  have counted := congrArg List.sum (List.map_congr_left whole)
  refine ⟨total.trans counted, whole, fun window => ?_, ?_⟩
  · rw [filled window]
    exact min_le_right _ _
  · rw [total, counted]
    exact List.sum_le_sum fun block _ => min_le_right _ _

/-- A game with short windows that bring more objects than one frame may spawn. -/
def crowded : Json :=
  Json.ofFields [("rules", Json.ofFields
    [("spawn", Json.ofFields [("mode", .str "linear"), ("interval_ms", Json.nat 100),
      ("add_per_interval", Json.nat 60)]),
    ("limit", Json.ofFields [("max_concurrent", Json.nat 1000)])])]

/--
Four frames of such a game, the second and the third of them in one window.

That window gets its sixty objects, the windows before and after it fifty each.
-/
theorem Run.totalSpawned_eq_blocks_crowded :
    let start := Run.initial (.ofDesign crowded) 7
    let inputs := .start :: [66.0, 66.0, 66.0, 66.0].map .advance
    let run := start.play inputs
    let frames := ((Course.initial start).play inputs).frames
    (Game.ofDesign crowded).limit.endOnLimit = true ∧ run.totalSpawned = 160
      ∧ run.totalSpawned = ((blocks frames).map fun block =>
        min (catchUpCap * block.length) (start.schedule.windowTarget (windowOf block))).sum := by
  intro start inputs run frames
  have ends : (Game.ofDesign crowded).limit.endOnLimit = true := by decide +kernel
  have blocks := Run.totalSpawned_eq_blocks crowded 7 inputs ends
  -- The frames are booked without a look at the objects, for all of which there is room.
  have spawned : ([66.0, 66.0, 66.0, 66.0].foldl Books.advance
      (.opened (.ofRule (Game.ofDesign crowded).spawn) (Game.ofDesign crowded).limit)).totalSpawned
        = 160 := by decide +kernel
  have room : 160 < (Game.ofDesign crowded).limit.maxConcurrent := by decide +kernel
  rw [← spawned] at room
  have booked := Run.play_start_frames (.ofDesign crowded) 7 ends [66.0, 66.0, 66.0, 66.0] room
  rw [← booked] at spawned
  dsimp only [Run.books] at spawned
  exact ⟨ends, spawned, blocks.1⟩

end Minigame.Survival
