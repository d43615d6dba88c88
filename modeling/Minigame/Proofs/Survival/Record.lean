import Minigame.Proofs.Float.Total
import Minigame.Proofs.Survival.Bounds
import Minigame.Proofs.Survival.Schedule

/-!
The best time of a run.

A time is kept unless the best one so far is not less. Among numbers this makes the best time grow;
what is no number is not less than any time and never exceeded either, so it is kept and then lost.
-/

namespace Minigame.Survival

open Minigame.Rounding

/-- The time that an input records is a number, if it records one; frames and points may be anything. -/
def Input.RecordsNumber (input : Input) : Prop :=
  ∀ timeMs, input = .recordIfBetter timeMs → timeMs.isNaN = false

namespace Run

variable {run : Run} {timeMs : Float}

/-- A time that is offered to a run leaves a best time behind. -/
theorem recordIfBetter_isSome (run : Run) (timeMs : Float) :
    (run.recordIfBetter timeMs).2.bestMs.isSome = true := by
  unfold recordIfBetter isNoRecord
  -- A time is refused only in favour of the best one that is there.
  cases best : run.bestMs with
  | none => rfl
  | some b =>
    split
    · rw [best]
      rfl
    · rfl

/-- The best time after another one was offered depends on these two times alone. -/
theorem recordIfBetter_bestMs (run : Run) (timeMs : Float) :
    (run.recordIfBetter timeMs).2.bestMs
      = if run.bestMs.any (timeMs ≤ ·) then run.bestMs else some timeMs := by
  unfold recordIfBetter isNoRecord
  -- The two functions that decide look at nothing else.
  split <;> rfl

/-- A time that is no record changes nothing. -/
theorem recordIfBetter_of_false (refused : (run.recordIfBetter timeMs).1 = false) :
    (run.recordIfBetter timeMs).2 = run := by
  unfold recordIfBetter at refused ⊢
  -- A time that was refused left the run alone.
  split at refused
  next none => rw [if_pos none]
  next => cases refused

theorem enterWindow_bestMs (run : Run) : run.enterWindow.bestMs = run.bestMs := by
  unfold enterWindow
  dsimp only
  split <;> rfl

/-- A frame that fills the stage of a run that can end offers its time; any other offers none. -/
theorem advance_bestMs (running : run.state = .running) (frameMs : Float) :
    (run.advance frameMs).bestMs = run.bestMs
      ∨ (run.advance frameMs).bestMs
        = (run.recordIfBetter (run.elapsedMs + frameLength frameMs)).2.bestMs := by
  -- Spawning and moving leave the best time alone, so only the end of the frame can offer one.
  let moved := (run.ticked frameMs).spawnDue.moveOrbs (frameLength frameMs)
  have best : moved.bestMs = run.bestMs := (run.ticked frameMs).enterWindow_bestMs
  have elapsed : moved.elapsedMs = run.elapsedMs + frameLength frameMs :=
    congrArg Books.elapsedMs (run.ticked frameMs).enterWindow_books
  rw [advance_of_running running]
  change moved.endAtLimit.bestMs = _ ∨ moved.endAtLimit.bestMs = _
  unfold endAtLimit
  split
  · -- The stage is full, and the run ends with the time of this frame.
    refine .inr ?_
    rw [recordIfBetter_bestMs, recordIfBetter_bestMs, elapsed, ← best]
  · exact .inl best

/-- What an input offers as a time, if it offers one: the time itself, or that of a frame. -/
inductive Offers (run : Run) : Input → Float → Prop where
  | record (timeMs : Float) : Offers run (.recordIfBetter timeMs) timeMs
  | frame (frameMs : Float) : Offers run (.advance frameMs) (run.elapsedMs + frameLength frameMs)

/-- An input leaves the best time alone, or it offers a time for it. -/
theorem step_bestMs (run : Run) (input : Input) :
    (run.step input).bestMs = run.bestMs
      ∨ ∃ timeMs, run.Offers input timeMs
        ∧ (run.step input).bestMs = (run.recordIfBetter timeMs).2.bestMs := by
  cases input with
  | start =>
    refine .inl ?_
    change run.start.bestMs = run.bestMs
    unfold start
    split <;> rfl
  | togglePause =>
    -- Neither a start, nor a pause, nor a tap looks at the best time.
    refine .inl ?_
    change run.togglePause.bestMs = run.bestMs
    unfold togglePause
    split <;> rfl
  | popAt x y =>
    refine .inl ?_
    change (run.popAt x y).2.bestMs = run.bestMs
    unfold popAt
    split
    · split <;> rfl
    · rfl
  | recordIfBetter timeMs => exact .inr ⟨timeMs, .record timeMs, rfl⟩
  | advance frameMs =>
    change (run.advance frameMs).bestMs = run.bestMs ∨ _
    -- A frame of a run that is not running offers nothing.
    by_cases running : run.state = .running
    · exact (advance_bestMs running frameMs).imp_right fun offered => ⟨_, .frame frameMs, offered⟩
    · exact .inl (congrArg Run.bestMs (advance_of_not_running running frameMs))

/-- A best time is never lost, whatever is offered. -/
theorem play_isSome (run : Run) (inputs : List Input) (kept : run.bestMs.isSome = true) :
    (run.play inputs).bestMs.isSome = true := by
  induction inputs generalizing run with
  | nil => exact kept
  | cons input inputs ih =>
    refine ih (run.step input) ?_
    rcases run.step_bestMs input with same | ⟨timeMs, -, offered⟩
    · rw [same]
      exact kept
    · rw [offered]
      exact run.recordIfBetter_isSome timeMs

/-- A run whose times are numbers: the time that runs, which is not negative, and the best time. -/
structure Timed (run : Run) : Prop where
  elapsed : 0.0 ≤ run.elapsedMs
  best : ∀ best, run.bestMs = some best → best.isNaN = false

theorem Timed.initial (game : Game) (seed : UInt64) : (Run.initial game seed).Timed :=
  ⟨zero_le_zero, nofun⟩

/-- A number that is offered to a run whose best time is one is refused or greater. -/
theorem Timed.recordIfBetter_cases (timed : run.Timed) (number : timeMs.isNaN = false) :
    (run.recordIfBetter timeMs).1 = false ∧ (run.recordIfBetter timeMs).2 = run
        ∧ (∃ best, run.bestMs = some best ∧ timeMs ≤ best)
      ∨ (run.recordIfBetter timeMs).1 = true
        ∧ (run.recordIfBetter timeMs).2 = { run with bestMs := some timeMs }
        ∧ ∀ best, run.bestMs = some best → best < timeMs := by
  unfold recordIfBetter isNoRecord
  cases kept : run.bestMs with
  -- Without a best time any number is a record.
  | none => exact .inr ⟨rfl, rfl, nofun⟩
  | some best =>
    by_cases less : timeMs ≤ best
    · refine .inl ?_
      simp [less]
    · -- Among numbers what is not less or equal is greater.
      have more : best < timeMs := (lt_iff_not_le (timed.best best kept) number).mpr less
      refine .inr ?_
      simp [less, more]

/-- Time that runs on stays from zero on. -/
theorem Timed.zero_le_ticked (timed : run.Timed) (frameMs : Float) :
    0.0 ≤ run.elapsedMs + frameLength frameMs :=
  float_le_trans zero_le_zero timed.elapsed (le_add timed.elapsed (zero_le_frameLength frameMs))

/-- No input turns the running time back below zero. -/
theorem Timed.zero_le_step (timed : run.Timed) (input : Input) :
    0.0 ≤ (run.step input).elapsedMs := by
  -- The running time is booked, so it stays where the books do.
  have of_books {next : Run} (books : next.books = run.books) : 0.0 ≤ next.elapsedMs := by
    change 0.0 ≤ next.books.elapsedMs
    rw [books]
    exact timed.elapsed
  cases input with
  | start =>
    -- A start goes on with the time or sets it to zero.
    change 0.0 ≤ run.start.books.elapsedMs
    rw [start_books]
    split
    · exact timed.elapsed
    · exact zero_le_zero
  | togglePause => exact of_books run.togglePause_books
  | advance frameMs =>
    -- A frame adds its length, and this is not negative.
    by_cases running : run.state = .running
    · change 0.0 ≤ (run.advance frameMs).books.elapsedMs
      rw [advance_books_spawn running frameMs]
      exact timed.zero_le_ticked frameMs
    · exact of_books (congrArg Run.books (advance_of_not_running running frameMs))
  | popAt x y => exact of_books (run.popAt_books x y)
  | recordIfBetter timeMs => exact of_books (run.recordIfBetter_books timeMs)

/-- A time that is offered is a number, if the input does not record anything else. -/
theorem Timed.number_of_offers (timed : run.Timed) {input : Input} (number : input.RecordsNumber)
    (offers : run.Offers input timeMs) : timeMs.isNaN = false := by
  cases offers with
  | record => exact number _ rfl
  | frame frameMs => exact isNaN_of_zero_le (timed.zero_le_ticked frameMs)

/-- What one input does to the best time: it stays or becomes a greater number. -/
theorem Timed.step (timed : run.Timed) {input : Input} (number : input.RecordsNumber) :
    (run.step input).Timed ∧ ∀ best, run.bestMs = some best →
      ∃ after, (run.step input).bestMs = some after ∧ best ≤ after := by
  have elapsed := timed.zero_le_step input
  -- Only numbers are not less than themselves, so this needs the invariant.
  have keep (best : Float) (kept : run.bestMs = some best) : best ≤ best :=
    number_le_refl (timed.best best kept)
  rcases run.step_bestMs input with same | ⟨timeMs, offers, offered⟩
  · -- A best time that stays is not less than itself.
    exact ⟨⟨elapsed, same ▸ timed.best⟩, fun best kept => ⟨best, same.trans kept, keep best kept⟩⟩
  · have numeric := timed.number_of_offers number offers
    rcases timed.recordIfBetter_cases numeric with ⟨-, refused, -⟩ | ⟨-, taken, more⟩
    · -- A time that was refused changes nothing.
      rw [refused] at offered
      exact ⟨⟨elapsed, offered ▸ timed.best⟩,
        fun best kept => ⟨best, offered.trans kept, keep best kept⟩⟩
    · rw [taken] at offered
      refine ⟨⟨elapsed, fun best kept => ?_⟩, fun best kept => ⟨timeMs, offered, ?_⟩⟩
      · -- The time that was taken is the best one now, and it is greater than the one before.
        obtain rfl : timeMs = best := Option.some.inj (offered.symm.trans kept)
        exact numeric
      · exact float_le_of_lt (more best kept)

/-- What a whole run does to the best time. -/
theorem Timed.play (timed : run.Timed) {inputs : List Input}
    (numbers : ∀ input ∈ inputs, input.RecordsNumber) :
    (run.play inputs).Timed ∧ ∀ best, run.bestMs = some best →
      ∃ after, (run.play inputs).bestMs = some after ∧ best ≤ after := by
  induction inputs generalizing run with
  | nil => exact ⟨timed, fun best kept => ⟨best, kept, number_le_refl (timed.best best kept)⟩⟩
  | cons input inputs ih =>
    rw [List.forall_mem_cons] at numbers
    obtain ⟨timed', grown⟩ := timed.step numbers.1
    obtain ⟨last, later⟩ := ih timed' numbers.2
    refine ⟨last, fun best kept => ?_⟩
    -- Between the best time now and the last one there is the one after this input.
    obtain ⟨between, keptBetween, first⟩ := grown best kept
    obtain ⟨after, keptAfter, second⟩ := later between keptBetween
    exact ⟨after, keptAfter, number_le_trans (timed.best best kept)
      (timed'.best between keptBetween) (last.best after keptAfter) first second⟩

/--
The best time does not get worse as long as what is recorded are numbers.

A best time is never lost, whatever the inputs are. Infinities are numbers here, and the lengths of
frames and the points of pops may be anything. A time is then taken exactly if it is the first one or
greater than the best one, and otherwise the run is left alone.
-/
theorem best_never_worse (game : Game) (seed : UInt64) (earlier later : List Input) :
    let run := (initial game seed).play earlier
    (run.bestMs.isSome = true → (run.play later).bestMs.isSome = true)
      ∧ ((∀ input ∈ earlier ++ later, input.RecordsNumber) →
        (∀ best, run.bestMs = some best →
          ∃ after, (run.play later).bestMs = some after ∧ best ≤ after)
        ∧ ∀ timeMs : Float, timeMs.isNaN = false →
          ((run.recordIfBetter timeMs).1 = true ↔
            (run.recordIfBetter timeMs).2 = { run with bestMs := some timeMs }
              ∧ ∀ best, run.bestMs = some best → best < timeMs)
          ∧ ((run.recordIfBetter timeMs).1 = false → (run.recordIfBetter timeMs).2 = run)) := by
  intro run
  refine ⟨run.play_isSome later, fun numbers => ?_⟩
  -- The times are numbers at the start, and the earlier inputs keep them so.
  have timed : run.Timed :=
    ((Timed.initial game seed).play fun input there =>
      numbers input (List.mem_append_left _ there)).1
  refine ⟨(timed.play fun input there => numbers input (List.mem_append_right _ there)).2,
    fun timeMs number => ⟨?_, recordIfBetter_of_false⟩⟩
  rcases timed.recordIfBetter_cases number with ⟨refused, -, best, kept, less⟩ | ⟨taken, same, more⟩
  · -- A best time that is not less refuses the time.
    refine iff_of_false (by simp [refused]) fun ⟨_, more⟩ => ?_
    exact (lt_iff_not_le (timed.best best kept) number).mp (more best kept) less
  · exact iff_of_true taken ⟨same, more⟩

/-- Infinities are compared like other times, and a frame may be given any length. -/
theorem best_never_worse_infinite :
    let earlier : List Input := [.recordIfBetter (-1.0 / 0.0)]
    let later : List Input := [.start, .advance (0.0 / 0.0), .recordIfBetter (1.0 / 0.0)]
    let run := (initial (.ofDesign (.obj [])) 1).play earlier
    (∀ input ∈ earlier ++ later, input.RecordsNumber)
      ∧ run.bestMs = some (-1.0 / 0.0)
      ∧ (∃ after, (run.play later).bestMs = some after ∧ -1.0 / 0.0 ≤ after)
      ∧ (run.recordIfBetter 5.0).2 = { run with bestMs := some 5.0 } := by
  intro earlier later run
  have numbers : ∀ input ∈ earlier ++ later, input.RecordsNumber := by
    have ofNumber {timeMs : Float} (number : timeMs.isNaN = false) :
        (Input.recordIfBetter timeMs).RecordsNumber := by
      rintro _ ⟨⟩
      exact number
    -- Only two of the inputs record a time.
    simp only [earlier, later, List.cons_append, List.nil_append, List.forall_mem_cons]
    exact ⟨ofNumber (by decide), nofun, nofun, ofNumber (by decide), nofun⟩
  -- The least of all times was recorded first.
  have best : run.bestMs = some (-1.0 / 0.0) := by decide +kernel
  obtain ⟨grows, exact⟩ := (best_never_worse (.ofDesign (.obj [])) 1 earlier later).2 numbers
  have taken : (run.recordIfBetter 5.0).1 = true := by decide +kernel
  exact ⟨numbers, best, grows _ best, ((exact 5.0 (by decide)).1.mp taken).1⟩

/-- What is no number is taken in place of the best time, and a lesser time in place of that. -/
theorem best_lost_to_nan :
    let nan : Float := 0.0 / 0.0
    let first := (initial (.ofDesign (.obj [])) 1).play [.recordIfBetter 5.0]
    let last := first.play [.recordIfBetter nan, .recordIfBetter 3.0]
    first.bestMs = some 5.0
      ∧ (first.recordIfBetter nan).1 = true ∧ ¬ (5.0 : Float) < nan
      ∧ last.bestMs = some 3.0 ∧ ¬ (5.0 : Float) ≤ 3.0 := by
  decide +kernel

end Run

end Minigame.Survival
