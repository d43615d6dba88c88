import Mathlib.Data.List.Forall2
import Minigame.Proofs.Survival.Bounds
import Minigame.Proofs.Survival.Windows

/-!
Popping takes objects off the stage and does nothing else.

A run goes along with the run in which nobody pops: both spawn the same objects at the same times,
and what is missing from the stage of the first one was hit.
-/

namespace Minigame.Survival

open List

/-- Whether an input is a pop. -/
def Input.isPop : Input → Bool
  | .popAt _ _ => true
  | _ => false

theorem Input.eq_popAt {input : Input} (pops : input.isPop = true) :
    ∃ x y, input = .popAt x y := by
  cases input with
  | popAt x y => exact ⟨x, y, rfl⟩
  | _ => cases pops

namespace Orb

/-- An object with another time since its pop. -/
def timed (popTimer : Float) (orb : Orb) : Orb :=
  { orb with popTimer }

/-- An object as it would be without a pop. -/
def intact (orb : Orb) : Orb :=
  orb.timed 0.0

end Orb

/--
A run with the numbers of the objects on its stage and of those that were hit.

Objects are numbered from zero in the order in which they spawn after a start.
-/
structure Roll where
  run : Run
  numbers : List Nat
  hits : List Nat

namespace Roll

/-- A run without objects. -/
def initial (run : Run) : Roll :=
  ⟨run, [], []⟩

/-- The numbers of the objects that were not popped too long ago. -/
def kept (numbers : List Nat) (orbs : List Orb) : List Nat :=
  ((numbers.zip orbs).filter fun entry => entry.2.popTimer ≤ popMs).map Prod.fst

/-- The numbers of the objects that are on the stage after a frame. -/
def left (roll : Roll) (frameMs : Float) : List Nat :=
  let run := roll.run
  kept (roll.numbers ++ range' run.totalSpawned (run.spawns frameMs))
    ((run.ticked frameMs).spawnDue.orbs.map
      (Orb.move run.width run.height (Run.frameLength frameMs)))

/-- The number of the topmost object that a point lies on. -/
def hit? (roll : Roll) (x y : Float) : Option Nat :=
  ((roll.numbers.zip roll.run.orbs).filter fun entry => entry.2.contains x y).getLast?.map Prod.fst

/-- A start that takes effect begins a new roll, a frame calls it, and a pop notes what it hits. -/
def step (roll : Roll) (input : Input) : Roll where
  run := roll.run.step input
  numbers :=
    match input, roll.run.state with
    | .start, .idle => []
    | .start, .ended => []
    | .advance frameMs, .running => roll.left frameMs
    | _, _ => roll.numbers
  hits :=
    match input, roll.run.state with
    | .start, .idle => []
    | .start, .ended => []
    | .popAt x y, .running => (roll.hit? x y).toList ++ roll.hits
    | _, _ => roll.hits

def play (roll : Roll) (inputs : List Input) : Roll :=
  inputs.foldl step roll

/-- The roll goes along with the run and does not change it. -/
theorem play_run (roll : Roll) (inputs : List Input) :
    (roll.play inputs).run = roll.run.play inputs := by
  induction inputs generalizing roll with
  | nil => rfl
  | cons input inputs ih => exact ih (roll.step input)

end Roll

namespace Orb

theorem intact_pop (orb : Orb) : orb.pop.intact = orb.intact := by
  unfold pop
  -- A pop changes the timer alone, which an intact object does not show.
  split <;> rfl

theorem bounceAcross_timed (width popTimer : Float) (orb : Orb) :
    bounceAcross width (orb.timed popTimer) = (bounceAcross width orb).timed popTimer := by
  dsimp only [bounceAcross, timed]
  -- Neither edge is compared with the time since the pop.
  by_cases crossed : orb.x < orb.radius <;> simp only [crossed, ↓reduceIte] <;>
    split <;> simp only [*]

theorem bounceUpright_timed (height popTimer : Float) (orb : Orb) :
    bounceUpright height (orb.timed popTimer) = (bounceUpright height orb).timed popTimer := by
  dsimp only [bounceUpright, timed]
  by_cases crossed : orb.y < orb.radius <;> simp only [crossed, ↓reduceIte] <;>
    split <;> simp only [*]

/-- The way that an object takes in a frame. -/
def travel (width height frameMs : Float) (orb : Orb) : Orb :=
  bounceUpright height (bounceAcross width (orb.drift (frameMs / 1000.0)))

/-- The way of an object does not depend on whether it was popped. -/
theorem travel_timed (width height frameMs popTimer : Float) (orb : Orb) :
    (orb.timed popTimer).travel width height frameMs
      = (orb.travel width height frameMs).timed popTimer := by
  -- Drifting looks at the place and the speed.
  rw [travel, travel, ← bounceUpright_timed, ← bounceAcross_timed]
  rfl

/-- A frame moves an object on its way and lets the time since its pop go on. -/
theorem move_eq (width height frameMs : Float) (orb : Orb) :
    orb.move width height frameMs = (orb.travel width height frameMs).timed
      (if orb.isPopping then orb.popTimer + frameMs else orb.popTimer) := by
  -- An object keeps its own timer on the way, so the way may be taken first.
  have kept : (orb.travel width height frameMs).popTimer = orb.popTimer := by
    change ((orb.timed orb.popTimer).travel width height frameMs).popTimer = orb.popTimer
    rw [travel_timed]
    rfl
  have popping : (orb.travel width height frameMs).isPopping = orb.isPopping := by
    rw [isPopping, kept]
    rfl
  rw [← kept, ← popping]
  change (if (orb.travel width height frameMs).isPopping then _ else _) = _
  split <;> rfl

theorem isPopping_of_intact {orb : Orb} (whole : orb.popTimer = 0.0) : orb.isPopping = false := by
  rw [isPopping, whole]
  decide

/-- An intact object stays intact when it moves. -/
theorem popTimer_move {orb : Orb} (whole : orb.popTimer = 0.0) (width height frameMs : Float) :
    (orb.move width height frameMs).popTimer = 0.0 := by
  rw [move_eq, isPopping_of_intact whole]
  exact whole

/-- A popped object takes the way that it would take without the pop. -/
theorem intact_move (width height frameMs : Float) (orb : Orb) :
    (orb.move width height frameMs).intact = orb.intact.move width height frameMs := by
  have whole : orb.intact.popTimer = 0.0 := rfl
  -- The intact object and the popped one differ in the timer alone, and so do their ways.
  have way : orb.intact.travel width height frameMs = (orb.travel width height frameMs).intact :=
    orb.travel_timed width height frameMs 0.0
  rw [move_eq, move_eq, isPopping_of_intact whole, if_neg Bool.false_ne_true, way]
  rfl

theorem intact_eq_self {orb : Orb} (whole : orb.popTimer = 0.0) : orb.intact = orb := by
  rw [intact, timed, ← whole]

/-- New objects are intact. -/
theorem popTimer_spawn (width height : Float) (count : Nat) (g : Generator) :
    ∀ orb ∈ (spawn width height count g).1, orb.popTimer = 0.0 := by
  induction count generalizing g with
  | zero => simp [spawn]
  | succ count ih =>
    intro orb member
    -- The first one is drawn with no time since a pop.
    rcases List.mem_cons.mp member with rfl | later
    · rfl
    · exact ih _ orb later

end Orb

/-- An object on the stage with its number among all objects that have spawned. -/
structure Tracked (objects : List Orb) (hits : List Nat) (number : Nat) (orb : Orb) : Prop where
  found : objects[number]? = some orb.intact
  /-- An object that is not intact was hit. -/
  hit : orb.popTimer ≠ 0.0 → number ∈ hits

namespace Tracked

variable {objects : List Orb} {hits : List Nat} {number : Nat} {orb : Orb}

theorem number_lt (tracked : Tracked objects hits number orb) : number < objects.length :=
  (List.getElem?_eq_some_iff.mp tracked.found).1

theorem append (tracked : Tracked objects hits number orb) (more : List Orb) :
    Tracked (objects ++ more) hits number orb where
  found := by
    -- The numbers of the earlier objects stay what they were.
    rw [getElem?_append_left tracked.number_lt]
    exact tracked.found
  hit := tracked.hit

theorem move (tracked : Tracked objects hits number orb) (width height frameMs : Float) :
    Tracked (objects.map (Orb.move width height frameMs)) hits number
      (orb.move width height frameMs) where
  -- The object and its intact form take the same way.
  found := by rw [getElem?_map, tracked.found, Option.map_some, Orb.intact_move]
  hit popped := tracked.hit fun whole => popped (Orb.popTimer_move whole width height frameMs)

theorem note (tracked : Tracked objects hits number orb) (other : Nat) :
    Tracked objects (other :: hits) number orb where
  found := tracked.found
  hit popped := .tail _ (tracked.hit popped)

theorem pop (tracked : Tracked objects hits number orb) :
    Tracked objects (number :: hits) number orb.pop where
  -- A pop is taken away again where the object is compared.
  found := by rw [Orb.intact_pop]; exact tracked.found
  hit _ := .head _

/-- Intact objects that come behind others have the numbers behind theirs. -/
theorem fresh (hits : List Nat) : ∀ (before after : List Orb),
    (∀ orb ∈ after, orb.popTimer = 0.0) →
    Forall₂ (Tracked (before ++ after) hits) (range' before.length after.length) after
  | _, [], _ => .nil
  | before, orb :: after, whole => by
    have rest := fresh hits (before ++ [orb]) after fun other member => whole other (.tail _ member)
    rw [append_assoc, length_append, length_singleton] at rest
    -- The first of them has the number of objects before it.
    refine .cons ⟨?_, fun popped => absurd (whole orb (.head _)) popped⟩ rest
    simp [Orb.intact_eq_self (whole orb (.head _))]

end Tracked

/--
Of some objects a stage shows those with the given numbers.

The objects themselves were never popped. On the stage they are in their order, each up to the time
since its pop, and all that are missing were hit.
-/
structure Shows (objects : List Orb) (hits numbers : List Nat) (orbs : List Orb) : Prop where
  whole : ∀ orb ∈ objects, orb.popTimer = 0.0
  sublist : (orbs.map Orb.intact).Sublist objects
  ascending : numbers.Pairwise (· < ·)
  tracked : Forall₂ (Tracked objects hits) numbers orbs
  /-- Nothing leaves the stage without a hit. -/
  missing : ∀ number < objects.length, number ∉ numbers → number ∈ hits

namespace Shows

variable {objects : List Orb} {hits numbers : List Nat} {orbs : List Orb}

theorem nil (hits : List Nat) : Shows [] hits [] [] where
  whole := by simp
  sublist := .refl _
  ascending := .nil
  tracked := .nil
  missing := by simp

theorem number_lt (shows : Shows objects hits numbers orbs) :
    ∀ number ∈ numbers, number < objects.length := by
  have tracked := shows.tracked
  -- The other facts about the stage would hinder the induction.
  clear shows
  induction tracked with
  | nil => simp
  | cons first _ ih => exact forall_mem_cons.mpr ⟨first.number_lt, ih⟩

/-- New objects come onto the stage with the next numbers. -/
theorem append (shows : Shows objects hits numbers orbs) {fresh : List Orb}
    (whole : ∀ orb ∈ fresh, orb.popTimer = 0.0) :
    Shows (objects ++ fresh) hits (numbers ++ range' objects.length fresh.length) (orbs ++ fresh)
    where
  whole := forall_mem_append.mpr ⟨shows.whole, whole⟩
  sublist := by
    -- New objects are intact, so they come onto both stages as they are.
    have intact : fresh.map Orb.intact = fresh :=
      (map_congr_left fun orb member => Orb.intact_eq_self (whole orb member)).trans (map_id' _)
    rw [map_append, intact]
    exact shows.sublist.append (.refl _)
  ascending := by
    -- Numbers on the stage are those of earlier objects, so they are below all new ones.
    refine pairwise_append.mpr ⟨shows.ascending, pairwise_lt_range', ?_⟩
    intro number member other later
    have first := shows.number_lt number member
    have second := (mem_range'_1.mp later).1
    omega
  tracked := rel_append (shows.tracked.imp fun _ _ tracked => tracked.append _)
    (Tracked.fresh _ _ _ whole)
  missing := by
    intro number inside absent
    rw [mem_append, not_or, mem_range'_1] at absent
    rw [length_append] at inside
    -- A number that is missing is an older one, since the new ones are all there.
    exact shows.missing number (by omega) absent.1

/-- Objects on the stage move like those that were never popped. -/
theorem move (shows : Shows objects hits numbers orbs) (width height frameMs : Float) :
    Shows (objects.map (Orb.move width height frameMs)) hits numbers
      (orbs.map (Orb.move width height frameMs)) where
  whole := by
    rw [forall_mem_map]
    exact fun orb member => Orb.popTimer_move (shows.whole orb member) _ _ _
  sublist := by
    -- Moving commutes with taking pops away, so a part of the objects stays one.
    have way : (orbs.map (Orb.move width height frameMs)).map Orb.intact
        = (orbs.map Orb.intact).map (Orb.move width height frameMs) := by
      simp only [map_map, Function.comp_def, Orb.intact_move]
    rw [way]
    exact shows.sublist.map _
  ascending := shows.ascending
  tracked :=
    forall₂_map_right_iff.mpr (shows.tracked.imp fun _ _ tracked => tracked.move _ _ _)
  missing := by
    rw [length_map]
    exact shows.missing

end Shows

namespace Roll

theorem kept_cons (number : Nat) (numbers : List Nat) (orb : Orb) (orbs : List Orb) :
    kept (number :: numbers) (orb :: orbs)
      = if orb.popTimer ≤ popMs then number :: kept numbers orbs else kept numbers orbs := by
  unfold kept
  rw [zip_cons_cons, filter_cons]
  split <;> simp_all

theorem kept_sublist (numbers : List Nat) (orbs : List Orb) : kept numbers orbs <+ numbers := by
  induction numbers generalizing orbs with
  | nil => exact .refl _
  | cons number numbers ih =>
    -- Each number goes with the object in its place.
    cases orbs with
    | nil => exact nil_sublist _
    | cons orb orbs =>
      rw [kept_cons]
      split
      · exact (ih orbs).cons_cons number
      · exact (ih orbs).cons number

/-- Objects that stay keep their numbers. -/
theorem forall₂_kept {R : Nat → Orb → Prop} {numbers : List Nat} {orbs : List Orb}
    (related : Forall₂ R numbers orbs) :
    Forall₂ R (kept numbers orbs) (orbs.filter (·.popTimer ≤ popMs)) := by
  induction related with
  | nil => exact .nil
  | @cons number orb numbers orbs first _ ih =>
    rw [kept_cons, filter_cons]
    -- Number and object stay together, or they go together.
    by_cases stays : orb.popTimer ≤ popMs
    · rw [if_pos stays, if_pos (decide_eq_true stays)]
      exact .cons first ih
    · rwa [if_neg stays, if_neg (by simpa using stays)]

/-- Only an object that was hit is taken off the stage. -/
theorem mem_kept {objects : List Orb} {hits numbers : List Nat} {orbs : List Orb}
    (tracked : Forall₂ (Tracked objects hits) numbers orbs) :
    ∀ number ∈ numbers, number ∉ kept numbers orbs → number ∈ hits := by
  induction tracked with
  | nil => simp
  | @cons number orb numbers orbs first _ ih =>
    intro other member absent
    rw [kept_cons] at absent
    by_cases stays : orb.popTimer ≤ popMs
    · rw [if_pos stays, mem_cons, not_or] at absent
      rcases mem_cons.mp member with same | later
      · -- The object stays, so its number is not the one that is missing.
        exact absurd same absent.1
      · exact ih other later absent.2
    · rw [if_neg stays] at absent
      rcases mem_cons.mp member with rfl | later
      · -- The pop of an intact object is not over, so this one is not intact.
        refine first.hit fun whole => stays ?_
        rw [whole]
        decide
      · exact ih other later absent

end Roll

/-- What is left on the stage is shown with the numbers that are kept. -/
theorem Shows.filter {objects : List Orb} {hits numbers : List Nat} {orbs : List Orb}
    (shows : Shows objects hits numbers orbs) :
    Shows objects hits (Roll.kept numbers orbs) (orbs.filter (·.popTimer ≤ popMs)) where
  whole := shows.whole
  sublist := (filter_sublist.map Orb.intact).trans shows.sublist
  ascending := shows.ascending.sublist (Roll.kept_sublist numbers orbs)
  tracked := Roll.forall₂_kept shows.tracked
  missing := by
    intro number inside absent
    -- A number was on the stage until now, or it was missing before.
    by_cases member : number ∈ numbers
    · exact Roll.mem_kept shows.tracked number member absent
    · exact shows.missing number inside member

namespace Run

/-- The objects that a frame of a running run spawns, and the generator after them. -/
def fresh (run : Run) (frameMs : Float) : List Orb × Generator :=
  Orb.spawn run.width run.height (run.spawns frameMs) run.generator

variable {run : Run}

theorem length_fresh (run : Run) (frameMs : Float) :
    (run.fresh frameMs).1.length = run.spawns frameMs :=
  Orb.length_spawn _ _ _ _

theorem popTimer_fresh (run : Run) (frameMs : Float) :
    ∀ orb ∈ (run.fresh frameMs).1, orb.popTimer = 0.0 :=
  Orb.popTimer_spawn _ _ _ _

theorem enterWindow_stage (run : Run) :
    run.enterWindow.width = run.width ∧ run.enterWindow.height = run.height
      ∧ run.enterWindow.generator = run.generator := by
  unfold enterWindow
  dsimp only
  split <;> exact ⟨rfl, rfl, rfl⟩

/-- A frame of a running run brings its objects behind those on the stage. -/
theorem spawnDue_fresh (run : Run) (frameMs : Float) :
    (run.ticked frameMs).spawnDue.orbs = run.orbs ++ (run.fresh frameMs).1
      ∧ (run.ticked frameMs).spawnDue.generator = (run.fresh frameMs).2
      ∧ (run.ticked frameMs).spawnDue.width = run.width
      ∧ (run.ticked frameMs).spawnDue.height = run.height := by
  -- Entering the window changes nothing that the draw looks at.
  set entered := (run.ticked frameMs).enterWindow with window
  obtain ⟨width, height, generator⟩ := (run.ticked frameMs).enterWindow_stage
  have drawn : Orb.spawn entered.width entered.height entered.quota entered.generator
      = run.fresh frameMs := by
    rw [width, height, generator]
    rfl
  refine ⟨?_, congrArg Prod.snd drawn, width, height⟩
  have orbs : entered.orbs = run.orbs := (run.ticked frameMs).enterWindow_orbs
  rw [← drawn, ← orbs]
  rfl

theorem endAtLimit_stage (run : Run) :
    run.endAtLimit.width = run.width ∧ run.endAtLimit.height = run.height
      ∧ run.endAtLimit.generator = run.generator := by
  unfold endAtLimit recordIfBetter
  split
  · -- Neither the best time nor the state is part of the stage.
    split <;> exact ⟨rfl, rfl, rfl⟩
  · exact ⟨rfl, rfl, rfl⟩

/-- What a frame does to the stage: objects come up, all move, and those popped long ago go. -/
theorem advance_stage (running : run.state = .running) (frameMs : Float) :
    (run.advance frameMs).orbs =
        ((run.orbs ++ (run.fresh frameMs).1).map
          (Orb.move run.width run.height (frameLength frameMs))).filter (·.popTimer ≤ popMs)
      ∧ (run.advance frameMs).generator = (run.fresh frameMs).2
      ∧ (run.advance frameMs).width = run.width ∧ (run.advance frameMs).height = run.height := by
  obtain ⟨orbs, generator, width, height⟩ := run.spawnDue_fresh frameMs
  -- The end of a run leaves the stage as it is.
  obtain ⟨width', height', generator'⟩ :=
    ((run.ticked frameMs).spawnDue.moveOrbs (frameLength frameMs)).endAtLimit_stage
  rw [advance_of_running running]
  refine ⟨?_, generator'.trans generator, width'.trans width, height'.trans height⟩
  rw [endAtLimit_orbs, moveOrbs, orbs, width, height]

/-- Two runs that differ in their objects and best times alone. -/
structure InStep (run other : Run) : Prop where
  state : run.state = other.state
  books : run.books = other.books
  generator : run.generator = other.generator
  width : run.width = other.width
  height : run.height = other.height

namespace InStep

variable {other : Run}

theorem limit (inStep : run.InStep other) : run.limit = other.limit :=
  congrArg Books.limit inStep.books

theorem totalSpawned (inStep : run.InStep other) : run.totalSpawned = other.totalSpawned :=
  congrArg Books.totalSpawned inStep.books

/-- Runs that end at their limit spawn without a look at their objects. -/
theorem fresh (inStep : run.InStep other) (ends : other.limit.endOnLimit = true)
    (frameMs : Float) : run.fresh frameMs = other.fresh frameMs := by
  -- What is due is read off the books, and these are the same.
  have ticked : (run.ticked frameMs).books = (other.ticked frameMs).books :=
    congrArg (fun books => books.atTime (books.elapsedMs + frameLength frameMs)) inStep.books
  have count : run.spawns frameMs = other.spawns frameMs := by
    have limit : (run.ticked frameMs).limit.endOnLimit = true := inStep.limit ▸ ends
    have limit' : (other.ticked frameMs).limit.endOnLimit = true := ends
    rw [spawns, spawns, enterWindow_quota, enterWindow_quota, if_pos limit, if_pos limit', ticked]
  rw [Run.fresh, Run.fresh, count, inStep.width, inStep.height, inStep.generator]

theorem start (inStep : run.InStep other) : run.start.InStep other.start := by
  obtain ⟨state, books, generator, width, height⟩ := inStep
  -- New books depend on the schedule and the limit alone.
  obtain ⟨schedule, limit, -, -, -, -⟩ := Books.mk.inj books
  have opened : Books.opened run.schedule run.limit = .opened other.schedule other.limit := by
    rw [schedule, limit]
  unfold Run.start
  rw [← state]
  split
  · exact ⟨state, books, generator, width, height⟩
  · exact ⟨state, books, generator, width, height⟩
  · exact ⟨rfl, opened, generator, width, height⟩

theorem togglePause (inStep : run.InStep other) : run.togglePause.InStep other.togglePause := by
  obtain ⟨state, books, generator, width, height⟩ := inStep
  -- Both runs are in one state, and pausing changes nothing else.
  unfold Run.togglePause
  rw [← state]
  split
  · exact ⟨rfl, books, generator, width, height⟩
  · exact ⟨rfl, books, generator, width, height⟩
  · exact ⟨state, books, generator, width, height⟩

theorem recordIfBetter (inStep : run.InStep other) (timeMs : Float) :
    (run.recordIfBetter timeMs).2.InStep (other.recordIfBetter timeMs).2 := by
  obtain ⟨state, books, generator, width, height⟩ := inStep
  unfold Run.recordIfBetter
  -- Whether a time is taken or not, the two runs differ in the best one alone.
  split <;> split <;> exact ⟨state, books, generator, width, height⟩

/-- A frame that does not end a run does not end one in step with it that has fewer objects. -/
theorem advance_state (inStep : run.InStep other) (running : other.state = .running)
    (frameMs : Float)
    (fewer : (run.advance frameMs).orbs.length ≤ (other.advance frameMs).orbs.length)
    (goesOn : (other.advance frameMs).state ≠ .ended) :
    (run.advance frameMs).state = (other.advance frameMs).state := by
  -- A frame ends a run exactly if its stage is full, and fewer objects do not fill it.
  have outcome := advance_outcome running frameMs
  have outcome' := advance_outcome (inStep.state.trans running) frameMs
  split at outcome
  -- The other run goes on, so its stage is not full.
  case isTrue => exact absurd outcome.1 goesOn
  case isFalse room =>
    rw [if_neg, ← outcome] at outcome'
    · exact outcome'
    · rw [inStep.limit]
      exact fun full => room ⟨full.1, Nat.le_trans full.2 fewer⟩

/-- A frame keeps runs in step unless it ends one of them. -/
theorem advance (inStep : run.InStep other) (ends : other.limit.endOnLimit = true)
    (running : other.state = .running) (frameMs : Float)
    (state : (run.advance frameMs).state = (other.advance frameMs).state) :
    (run.advance frameMs).InStep (other.advance frameMs) := by
  have running' : run.state = .running := inStep.state.trans running
  have ends' : run.limit.endOnLimit = true := inStep.limit ▸ ends
  -- The stage of each run is told by what has come onto it in the frame.
  obtain ⟨-, generator, width, height⟩ := advance_stage running frameMs
  obtain ⟨-, generator', width', height'⟩ := advance_stage running' frameMs
  refine ⟨state, ?_, ?_, ?_, ?_⟩
  · rw [advance_books running ends, advance_books running' ends', inStep.books]
  · rw [generator, generator', inStep.fresh ends]
  · rw [width, width', inStep.width]
  · rw [height, height', inStep.height]

end InStep

end Run

/-- What is related to a list around one element is itself a list around one. -/
theorem forall₂_around {α β : Type} {R : α → β → Prop} {y : β} {after : List β} :
    ∀ {before : List β} {xs : List α}, Forall₂ R xs (before ++ y :: after) →
      ∃ first x last, xs = first ++ x :: last ∧ Forall₂ R first before ∧ R x y
        ∧ Forall₂ R last after
  | [], _, .cons related rest => ⟨[], _, _, rfl, .nil, related, rest⟩
  -- What is related to the first element comes in front of the rest.
  | _ :: _, _, .cons related rest => by
    obtain ⟨first, x, last, rfl, front, middle, back⟩ := forall₂_around rest
    exact ⟨_ :: first, x, last, rfl, .cons related front, middle, back⟩

/-- A popped object stays on the stage, and its number is noted. -/
theorem Shows.pop {objects : List Orb} {hits numbers : List Nat} {before after : List Orb}
    {orb : Orb} (shows : Shows objects hits numbers (before ++ orb :: after)) :
    ∃ first number last, numbers = first ++ number :: last ∧ first.length = before.length
      ∧ Shows objects (number :: hits) numbers (before ++ orb.pop :: after) := by
  obtain ⟨first, number, last, rfl, front, middle, back⟩ := forall₂_around shows.tracked
  refine ⟨first, number, last, rfl, front.length_eq, shows.whole, ?_, shows.ascending, ?_, ?_⟩
  · -- A pop changes the timer alone, so without pops the stage is what it was.
    have sublist := shows.sublist
    rwa [map_append, map_cons, ← Orb.intact_pop, ← map_cons, ← map_append] at sublist
  · have note (numbers : List Nat) (orbs : List Orb)
        (tracked : Forall₂ (Tracked objects hits) numbers orbs) :
        Forall₂ (Tracked objects (number :: hits)) numbers orbs :=
      -- The objects beside it are tracked as before, with one more number noted.
      tracked.imp fun _ _ each => each.note number
    exact rel_append (note _ _ front) (.cons middle.pop (note _ _ back))
  · -- Nothing has left the stage with the pop.
    exact fun other inside absent => .tail _ (shows.missing other inside absent)

namespace Roll

theorem filter_contains_eq_nil (numbers : List Nat) {orbs : List Orb} {x y : Float}
    (missed : ∀ orb ∈ orbs, orb.contains x y = false) :
    (numbers.zip orbs).filter (fun entry => entry.2.contains x y) = [] := by
  rw [filter_eq_nil_iff]
  intro entry member
  -- None of the pairs has an object at the point.
  rw [missed entry.2 (of_mem_zip member).2]
  decide

theorem hit?_eq_none {roll : Roll} {x y : Float}
    (missed : ∀ orb ∈ roll.run.orbs, orb.contains x y = false) : roll.hit? x y = none := by
  rw [hit?, filter_contains_eq_nil roll.numbers missed]
  rfl

/-- The number that is noted is that of the last object which the point lies on. -/
theorem hit?_eq_some {roll : Roll} {x y : Float} {first last : List Nat} {number : Nat}
    {before after : List Orb} {orb : Orb} (numbers : roll.numbers = first ++ number :: last)
    (orbs : roll.run.orbs = before ++ orb :: after) (length : first.length = before.length)
    (within : orb.contains x y = true) (topmost : ∀ other ∈ after, other.contains x y = false) :
    roll.hit? x y = some number := by
  rw [hit?, numbers, orbs, zip_append length, zip_cons_cons, filter_append,
    filter_cons_of_pos (by exact within), filter_contains_eq_nil last topmost]
  simp

/-- A start of a run that is not under way begins without objects. -/
theorem step_start_of_idle {roll : Roll}
    (idle : roll.run.state = .idle ∨ roll.run.state = .ended) :
    roll.step .start = ⟨roll.run.start, [], []⟩ ∧ roll.run.start.orbs = [] := by
  rcases idle with state | state
  all_goals
    constructor
    · -- With the state known, each field of a step reduces to one of its cases.
      unfold step
      rw [state]
      rfl
    · rw [Run.start, state]

theorem step_start_of_open {roll : Roll} (isOpen : roll.run.IsOpen) : roll.step .start = roll := by
  -- A run that is under way is not started again, so nothing of the roll changes.
  have same : roll.run.step .start = roll.run := by
    rcases isOpen with state | state
    all_goals rw [Run.step, Run.start, state]
  rcases isOpen with state | state
  all_goals
    unfold step
    rw [same, state]

theorem step_advance_of_not_running {roll : Roll} (idle : roll.run.state ≠ .running)
    (frameMs : Float) : roll.step (.advance frameMs) = roll := by
  have same : roll.run.step (.advance frameMs) = roll.run :=
    Run.advance_of_not_running idle frameMs
  -- In any other state the step is that of an input without effect.
  cases state : roll.run.state with
  | running => exact absurd state idle
  | _ =>
    unfold step
    rw [same, state]

theorem step_advance_of_running {roll : Roll} (running : roll.run.state = .running)
    (frameMs : Float) :
    roll.step (.advance frameMs) = ⟨roll.run.advance frameMs, roll.left frameMs, roll.hits⟩ := by
  unfold step
  rw [running]
  rfl

/-- A pop that hits nothing changes nothing. -/
theorem step_popAt_of_missed {roll : Roll} {x y : Float}
    (missed : Orb.popLast x y roll.run.orbs = none ∨ roll.run.state ≠ .running) :
    roll.step (.popAt x y) = roll := by
  -- The run answers that nothing was hit, and then no number is noted either.
  have answer : roll.run.popAt x y = (false, roll.run) := by
    rcases missed with none | idle
    · simp only [Run.popAt, none, ite_self]
    · exact Run.popAt_of_not_running idle x y
  have same : roll.run.step (.popAt x y) = roll.run := congrArg Prod.snd answer
  cases state : roll.run.state with
  -- A run under way has missed all of its objects.
  | running =>
    have none : Orb.popLast x y roll.run.orbs = none :=
      missed.resolve_right fun idle => idle state
    have hit := hit?_eq_none ((Orb.popLast_eq_none_iff x y _).mp none)
    unfold step
    rw [same, state]
    change Roll.mk roll.run roll.numbers ((roll.hit? x y).toList ++ roll.hits) = roll
    rw [hit]
    rfl
  | _ =>
    unfold step
    rw [same, state]

/-- A pop of a running run takes the object that it hits and notes its number. -/
theorem step_popAt_of_hit {roll : Roll} {x y : Float} {popped : List Orb} {number : Nat}
    (running : roll.run.state = .running) (found : Orb.popLast x y roll.run.orbs = some popped)
    (hit : roll.hit? x y = some number) :
    roll.step (.popAt x y)
      = ⟨{ roll.run with orbs := popped }, roll.numbers, number :: roll.hits⟩ := by
  have run : roll.run.step (.popAt x y) = { roll.run with orbs := popped } := by
    rw [Run.step, Run.popAt, if_pos running, found]
  unfold step
  rw [run, running]
  change Roll.mk _ roll.numbers ((roll.hit? x y).toList ++ roll.hits) = _
  rw [hit]
  rfl

/-- A roll whose run goes along with a run in which nobody pops. -/
structure Beside (roll : Roll) (plain : Run) : Prop where
  inStep : roll.run.InStep plain
  count : plain.orbs.length = plain.totalSpawned
  shows : Shows plain.orbs roll.hits roll.numbers roll.run.orbs

namespace Beside

variable {roll : Roll} {plain : Run}

theorem initial (game : Game) (seed : UInt64) :
    (Roll.initial (.initial game seed)).Beside (.initial game seed) where
  inStep := ⟨rfl, rfl, rfl, rfl, rfl⟩
  count := rfl
  shows := .nil []

theorem state (beside : roll.Beside plain) : roll.run.state = plain.state :=
  beside.inStep.state

/-- Inputs that leave the objects alone keep a roll beside its run. -/
theorem of_orbs (beside : roll.Beside plain) {next : Run} {other : Run}
    (inStep : next.InStep other) (orbs : next.orbs = roll.run.orbs)
    (whole : other.orbs = plain.orbs) (total : other.totalSpawned = plain.totalSpawned) :
    (Roll.mk next roll.numbers roll.hits).Beside other where
  inStep := inStep
  count := by rw [whole, total]; exact beside.count
  shows := by
    change Shows other.orbs roll.hits roll.numbers next.orbs
    rw [whole, orbs]
    exact beside.shows

/-- A start clears both stages, or it leaves both runs as they are. -/
theorem start (beside : roll.Beside plain) : (roll.step .start).Beside plain.start := by
  have inStep := beside.inStep.start
  have state := beside.state
  -- Both runs are in one state, so the start has the same effect on both.
  cases plainState : plain.state with
  -- Both stages are cleared, and no number is left.
  | idle | ended =>
    have cleared : plain.start.orbs = [] ∧ plain.start.totalSpawned = 0 := by
      rw [Run.start, plainState]
      exact ⟨rfl, rfl⟩
    obtain ⟨begun, stage⟩ := roll.step_start_of_idle (by simp [state, plainState])
    rw [begun]
    refine ⟨inStep, by rw [cleared.1, cleared.2]; rfl, ?_⟩
    rw [cleared.1, stage]
    exact .nil []
  -- The start comes while both runs are under way, so it does nothing.
  | running | paused =>
    have goesOn : plain.start = plain := by rw [Run.start, plainState]
    rw [goesOn, roll.step_start_of_open (by simp [Run.IsOpen, state, plainState])]
    exact beside

theorem togglePause (beside : roll.Beside plain) :
    (roll.step .togglePause).Beside plain.togglePause := by
  have stage (run : Run) : run.togglePause.orbs = run.orbs := by
    unfold Run.togglePause
    split <;> rfl
  exact beside.of_orbs beside.inStep.togglePause (stage _) (stage _)
    (congrArg Books.totalSpawned plain.togglePause_books)

theorem recordIfBetter (beside : roll.Beside plain) (timeMs : Float) :
    (roll.step (.recordIfBetter timeMs)).Beside (plain.recordIfBetter timeMs).2 :=
  beside.of_orbs (beside.inStep.recordIfBetter timeMs) (Run.recordIfBetter_orbs _ _)
    (Run.recordIfBetter_orbs _ _) (congrArg Books.totalSpawned (plain.recordIfBetter_books timeMs))

/-- A pop notes the number of what it hits, and the run in which nobody pops stays as it is. -/
theorem popAt (beside : roll.Beside plain) (x y : Float) :
    (roll.step (.popAt x y)).Beside plain := by
  by_cases missed : Orb.popLast x y roll.run.orbs = none ∨ roll.run.state ≠ .running
  · -- Without a hit neither run changes.
    rwa [step_popAt_of_missed missed]
  · rw [not_or, not_not] at missed
    obtain ⟨found, running⟩ := missed
    obtain ⟨popped, found⟩ := Option.ne_none_iff_exists'.mp found
    -- The object that is hit is shown under a number, which is the one that is noted.
    obtain ⟨before, orb, after, orbs, rfl, within, topmost⟩ := Orb.popLast_eq_some found
    have shows := beside.shows
    rw [orbs] at shows
    obtain ⟨first, number, last, numbers, length, shows⟩ := shows.pop
    rw [step_popAt_of_hit running found (hit?_eq_some numbers orbs length within topmost)]
    obtain ⟨state, books, generator, width, height⟩ := beside.inStep
    exact ⟨⟨state, books, generator, width, height⟩, beside.count, shows⟩

/-- Nothing was popped in the plain run, so all of its objects stay. -/
theorem orbs_advance (beside : roll.Beside plain) (running : plain.state = .running)
    (frameMs : Float) :
    (plain.advance frameMs).orbs = (plain.orbs ++ (plain.fresh frameMs).1).map
      (Orb.move plain.width plain.height (Run.frameLength frameMs)) := by
  have moved := (beside.shows.append (plain.popTimer_fresh frameMs)).move
    plain.width plain.height (Run.frameLength frameMs)
  rw [(Run.advance_stage running frameMs).1, filter_eq_self]
  intro orb member
  -- An intact object is shown for as long as there is one.
  rw [moved.whole orb member]
  decide

/-- A frame brings the same objects onto both stages and moves them in the same way. -/
theorem shows_advance (beside : roll.Beside plain) (ends : plain.limit.endOnLimit = true)
    (running : plain.state = .running) (frameMs : Float) :
    Shows (plain.advance frameMs).orbs roll.hits (roll.left frameMs)
      (roll.run.advance frameMs).orbs := by
  have fresh := beside.inStep.fresh ends frameMs
  -- In the plain run all that were counted are still there, so the new numbers go on from its
  -- stage.
  have total : roll.run.totalSpawned = plain.orbs.length :=
    (congrArg Books.totalSpawned beside.inStep.books).trans beside.count.symm
  have left : roll.left frameMs
      = kept (roll.numbers ++ range' plain.orbs.length (plain.fresh frameMs).1.length)
        ((roll.run.orbs ++ (plain.fresh frameMs).1).map
          (Orb.move plain.width plain.height (Run.frameLength frameMs))) := by
    rw [Roll.left, (roll.run.spawnDue_fresh frameMs).1, ← roll.run.length_fresh, fresh, total,
      beside.inStep.width, beside.inStep.height]
  have orbs := (Run.advance_stage (beside.state.trans running) frameMs).1
  rw [fresh, beside.inStep.width, beside.inStep.height] at orbs
  rw [beside.orbs_advance running, left, orbs]
  exact ((beside.shows.append (plain.popTimer_fresh frameMs)).move _ _ _).filter

/-- A frame keeps the roll beside a run that goes on. -/
theorem advance (beside : roll.Beside plain) (ends : plain.limit.endOnLimit = true)
    (frameMs : Float) (goesOn : (plain.advance frameMs).state ≠ .ended) :
    (roll.step (.advance frameMs)).Beside (plain.advance frameMs) := by
  by_cases running : plain.state = .running
  case neg =>
    have idle : roll.run.state ≠ .running := beside.state ▸ running
    -- A frame of a run that is not running does nothing to either.
    rwa [Run.advance_of_not_running running, step_advance_of_not_running idle]
  have shows := beside.shows_advance ends running frameMs
  -- There are no more objects on this stage, so it is not full either.
  have fewer : (roll.run.advance frameMs).orbs.length ≤ (plain.advance frameMs).orbs.length := by
    simpa using shows.sublist.length_le
  -- So a run that goes on without pops goes on with them.
  have state := beside.inStep.advance_state running frameMs fewer goesOn
  rw [step_advance_of_running (beside.state.trans running)]
  refine ⟨beside.inStep.advance ends running frameMs state, ?_, shows⟩
  rw [beside.orbs_advance running, length_map, length_append, plain.length_fresh, beside.count,
    Run.advance_totalSpawned running]

theorem step (beside : roll.Beside plain) (ends : plain.limit.endOnLimit = true) (input : Input)
    (popless : input.isPop = false) (goesOn : (plain.step input).state ≠ .ended) :
    (roll.step input).Beside (plain.step input) := by
  cases input with
  | start => exact beside.start
  | togglePause => exact beside.togglePause
  | advance frameMs => exact beside.advance ends frameMs goesOn
  -- Pops are excluded here.
  | popAt x y => cases popless
  | recordIfBetter timeMs => exact beside.recordIfBetter timeMs

/--
A roll stays beside the run without the pops until that run ends.

Pops are passed over in the other run, so the induction is on the inputs with both runs general.
-/
theorem play (beside : roll.Beside plain) (ends : plain.limit.endOnLimit = true)
    (inputs : List Input)
    (goesOn : ∀ before, before <+: inputs.filter (!·.isPop) → (plain.play before).state ≠ .ended) :
    (roll.play inputs).Beside (plain.play (inputs.filter (!·.isPop))) := by
  induction inputs generalizing roll plain with
  | nil => exact beside
  | cons input inputs ih =>
    -- A pop moves the first run alone, any other input moves both.
    cases pops : input.isPop with
    | true =>
      obtain ⟨x, y, rfl⟩ := Input.eq_popAt pops
      exact ih (beside.popAt x y) ends goesOn
    | false =>
      have kept : (input :: inputs).filter (!·.isPop) = input :: inputs.filter (!·.isPop) :=
        filter_cons_of_pos (by simpa using pops)
      rw [kept] at goesOn ⊢
      have next := beside.step ends input pops (goesOn [input] (by simp))
      have ends' : (plain.step input).limit.endOnLimit = true := by rwa [(plain.step_rules input).2]
      exact ih next ends' fun before begins =>
        goesOn (input :: before) (cons_prefix_cons.mpr ⟨rfl, begins⟩)

end Beside

end Roll

/-- A run that is started and played with room for all its objects does not end on the way. -/
theorem Run.play_start_frames_state (doc : Json) (seed : UInt64) (frames : List Float)
    (ends : (Game.ofDesign doc).limit.endOnLimit = true)
    (room : (frames.foldl Books.advance (.opened (.ofRule (Game.ofDesign doc).spawn)
      (Game.ofDesign doc).limit)).totalSpawned < (Game.ofDesign doc).limit.maxConcurrent) :
    ∀ before, before <+: .start :: frames.map .advance →
      ((initial (.ofDesign doc) seed).play before).state ≠ .ended := by
  intro before begins final
  rw [prefix_iff_eq_take] at begins
  set game := Game.ofDesign doc
  cases count : before.length with
  -- Before the first input the run is idle.
  | zero =>
    rw [List.length_eq_zero_iff.mp count] at final
    contradiction
  | succ count' =>
    rw [count, take_succ_cons, ← map_take] at begins
    -- What was counted up to here is counted at the end, too.
    have counted := Books.totalSpawned_le_foldl
      ((frames.take count').foldl Books.advance (.opened (.ofRule game.spawn) game.limit))
      (frames.drop count')
    rw [← foldl_append, take_append_drop] at counted
    have booked := play_start_frames game seed ends (frames.take count') (by omega)
    rw [← begins] at booked
    have sound := (Sound.initial game seed).play (Game.limit_pos doc) before
    have limit : ((initial game seed).play before).limit = game.limit :=
      ((initial game seed).play_rules before).2
    -- A run that has ended had a full stage, and no more objects than it counted.
    have full := (sound.full (by rwa [limit]) final).1
    have live := sound.live
    have total : ((initial game seed).play before).totalSpawned = _ :=
      congrArg Books.totalSpawned booked
    rw [limit] at full
    omega

/--
A run goes as it would go without its pops, for as long as that run does not end.

It does not end either and has the same time, counters and generator; its objects are, up to the
times since their pops, the objects of that run in their order, and all that are missing were hit.
-/
theorem Run.play_without_pops (doc : Json) (seed : UInt64) (inputs : List Input)
    (ends : (Game.ofDesign doc).limit.endOnLimit = true)
    (goesOn : ∀ before, before <+: inputs.filter (!·.isPop) →
      ((initial (.ofDesign doc) seed).play before).state ≠ .ended) :
    let start := initial (.ofDesign doc) seed
    let run := start.play inputs
    let plain := start.play (inputs.filter (!·.isPop))
    let roll := (Roll.initial start).play inputs
    run.state = plain.state ∧ run.state ≠ .ended ∧ run.elapsedMs = plain.elapsedMs
      ∧ run.windowIndex = plain.windowIndex ∧ run.spawnedInWindow = plain.spawnedInWindow
      ∧ run.totalSpawned = plain.totalSpawned ∧ run.generator = plain.generator
      ∧ roll.run = run ∧ Shows plain.orbs roll.hits roll.numbers run.orbs := by
  intro start run plain roll
  have beside : roll.Beside plain :=
    (Roll.Beside.initial (.ofDesign doc) seed).play ends inputs goesOn
  have played : roll.run = run := Roll.play_run _ inputs
  obtain ⟨state, books, generator, -, -⟩ := played ▸ beside.inStep
  obtain ⟨-, -, elapsed, window, inWindow, total⟩ := Books.mk.inj books
  have shows := beside.shows
  rw [played] at shows
  exact ⟨state, state ▸ goesOn _ (prefix_refl _), elapsed, window, inWindow, total, generator,
    played, shows⟩

/-- A run of a crowded game with two pops has as many objects as the run without them. -/
theorem Run.play_without_pops_crowded :
    let start := initial (.ofDesign crowded) 7
    let frames := .start :: [66.0, 66.0, 66.0].map .advance
    let inputs : List Input := [.start, .advance 66.0, .popAt 480.0 300.0, .advance 66.0,
      .popAt 96.0 84.0, .advance 66.0]
    let run := start.play inputs
    let roll := (Roll.initial start).play inputs
    (Game.ofDesign crowded).limit.endOnLimit = true ∧ inputs.filter (!·.isPop) = frames
      ∧ (∀ before, before <+: frames → (start.play before).state ≠ .ended)
      ∧ run.state ≠ .ended ∧ run.totalSpawned = 110
      ∧ Shows (start.play frames).orbs roll.hits roll.numbers run.orbs := by
  intro start frames inputs run roll
  have ends : (Game.ofDesign crowded).limit.endOnLimit = true := by decide +kernel
  have spawned : ([66.0, 66.0, 66.0].foldl Books.advance
      (.opened (.ofRule (Game.ofDesign crowded).spawn) (Game.ofDesign crowded).limit)).totalSpawned
        = 110 := by decide +kernel
  have room : 110 < (Game.ofDesign crowded).limit.maxConcurrent := by decide +kernel
  rw [← spawned] at room
  have goesOn := play_start_frames_state crowded 7 [66.0, 66.0, 66.0] ends room
  have popless : inputs.filter (!·.isPop) = frames := rfl
  have beside := play_without_pops crowded 7 inputs ends (by rwa [popless])
  simp only [popless] at beside
  obtain ⟨-, still, -, -, -, total, -, -, shows⟩ := beside
  -- The run without the pops is booked without a look at its objects.
  have booked := play_start_frames (.ofDesign crowded) 7 ends [66.0, 66.0, 66.0] room
  rw [← booked] at spawned
  dsimp only [books] at spawned
  exact ⟨ends, popless, goesOn, still, total.trans spawned, shows⟩

end Minigame.Survival
