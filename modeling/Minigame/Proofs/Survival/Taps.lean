import Minigame.Proofs.Float.Total
import Minigame.Proofs.Survival.Pops

/-!
Which object a tap pops.

A tap goes to the topmost object at its point, popped or not, so it pops the topmost intact one
exactly if no popped object that is still shown lies above.
-/

namespace Minigame.Survival

open Minigame.Rounding

/-- A list cut at the last object with a property. -/
structure CutAtLast (has : Orb → Bool) (orbs front : List Orb) (orb : Orb) (back : List Orb) :
    Prop where
  whole : orbs = front ++ orb :: back
  holds : has orb = true
  last : ∀ other ∈ back, has other = false

namespace CutAtLast

variable {has : Orb → Bool} {orbs front back : List Orb} {orb : Orb}

/-- A list with an object that has a property can be cut at the last one. -/
theorem exists_of_mem (there : orb ∈ orbs) (holds : has orb = true) :
    ∃ front last back, CutAtLast has orbs front last back := by
  -- The last object with the property is the first one from the end.
  have found : (orbs.reverse.find? has).isSome = true :=
    List.find?_isSome.2 ⟨orb, List.mem_reverse.2 there, holds⟩
  obtain ⟨last, found⟩ := Option.isSome_iff_exists.1 found
  obtain ⟨holds, back, front, whole, none⟩ := List.find?_eq_some_iff_append.1 found
  refine ⟨front.reverse, last, back.reverse, ?_, holds, fun other listed => ?_⟩
  · simpa using congrArg List.reverse whole
  · simpa using none other (List.mem_reverse.1 listed)

/-- There is one place for the cut. -/
theorem unique (cut : CutAtLast has orbs front orb back) {front' back' : List Orb} {orb' : Orb}
    (cut' : CutAtLast has orbs front' orb' back') : front = front' ∧ orb = orb' ∧ back = back' := by
  -- From the end, what lies behind the cut is all that comes before an object with the property.
  have behind {front back : List Orb} {orb : Orb} (cut : CutAtLast has orbs front orb back) :
      orbs.reverse.takeWhile (!has ·) = back.reverse := by
    -- Nothing behind the cut has the property, so the search from the end runs through all of it.
    rw [cut.whole, List.reverse_append, List.reverse_cons, List.append_assoc,
      List.takeWhile_append_of_pos fun other listed => by
        simp [cut.last other (List.mem_reverse.1 listed)]]
    simp [cut.holds]
  obtain rfl : back = back' := List.reverse_injective ((behind cut).symm.trans (behind cut'))
  -- With one back for both, the fronts and the objects agree, too.
  have same := cut.whole.symm.trans cut'.whole
  obtain ⟨rfl, last⟩ := List.append_inj' same rfl
  exact ⟨rfl, (List.cons.inj last).1, rfl⟩

end CutAtLast

namespace Orb

/-- Whether a point lies on an object that was never popped. -/
def isIntactAt (x y : Float) (orb : Orb) : Bool :=
  orb.popTimer = 0.0 && orb.contains x y

/-- An object was never popped or shows its pop. -/
def Clocked (orb : Orb) : Prop :=
  orb.popTimer = 0.0 ∨ orb.isPopping = true

/-- A pop starts the timer of an object that was never popped. -/
theorem pop_of_intact {orb : Orb} (whole : orb.popTimer = 0.0) : orb.pop = orb.timed 1.0 := by
  rw [pop, isPopping_of_intact whole, if_neg Bool.false_ne_true]
  rfl

/-- An object that shows its pop is not popped again. -/
theorem pop_of_popping {orb : Orb} (popping : orb.isPopping = true) : orb.pop = orb :=
  if_pos popping

theorem isPopping_timed (orb : Orb) : (orb.timed 1.0).isPopping = true := by
  change decide ((0.0 : Float) < 1.0) = true
  decide

theorem isIntactAt_of_not_contains {x y : Float} {orb : Orb} (beside : orb.contains x y = false) :
    orb.isIntactAt x y = false := by
  rw [isIntactAt, beside, Bool.and_false]

theorem isIntactAt_of_popping {x y : Float} {orb : Orb} (popping : orb.isPopping = true) :
    orb.isIntactAt x y = false := by
  -- An object that is intact shows no pop.
  have started : orb.popTimer ≠ 0.0 := fun whole => by
    rw [isPopping_of_intact whole] at popping
    cases popping
  rw [isIntactAt, decide_eq_false started, Bool.false_and]

namespace Clocked

variable {orb : Orb}

theorem pop (clocked : orb.Clocked) : orb.pop.Clocked := by
  -- An intact object starts its timer, and another one is left alone.
  rcases clocked with whole | popping
  · rw [pop_of_intact whole]
    exact .inr orb.isPopping_timed
  · rw [pop_of_popping popping]
    exact .inr popping

/-- A timer that runs does not go back to zero. -/
theorem move (clocked : orb.Clocked) (width height frameMs : Float) :
    (orb.move width height (Run.frameLength frameMs)).Clocked := by
  rcases clocked with whole | popping
  · -- The timer of an intact object stays at zero.
    exact .inl (popTimer_move whole width height _)
  -- The timer is positive and grows, and neither number is a NaN that would break the order.
  · have started : 0.0 < orb.popTimer := of_decide_eq_true popping
    have least : 0.0 ≤ orb.popTimer := float_le_of_lt started
    have later := le_add least (Run.zero_le_frameLength frameMs)
    have number := isNaN_of_zero_le (float_le_trans zero_le_zero least later)
    have zero : (0.0 : Float).isNaN = false := isNaN_of_zero_le zero_le_zero
    have runs : 0.0 < orb.popTimer + Run.frameLength frameMs :=
      (lt_iff_not_le zero number).2 fun back =>
        (lt_iff_not_le zero (isNaN_of_zero_le least)).1 started (float_le_trans least later back)
    rw [move_eq, if_pos popping]
    exact .inr (decide_eq_true runs)

end Clocked

end Orb

namespace Run

variable {run : Run} {x y : Float}

/-- The topmost intact object at a point is popped, and without one no object is. -/
structure PopsIntact (run : Run) (x y : Float) (answer : Bool × Run) : Prop where
  pops : ∀ front orb back, CutAtLast (Orb.isIntactAt x y) run.orbs front orb back →
    answer = (true, { run with orbs := front ++ orb.timed 1.0 :: back })
  misses : (∀ orb ∈ run.orbs, orb.isIntactAt x y = false) → answer.2 = run

/-- An object that shows its pop lies at a point above all others, and an intact one below. -/
def Covered (run : Run) (x y : Float) : Prop :=
  ∃ front top back, CutAtLast (Orb.contains · x y) run.orbs front top back
    ∧ top.isPopping = true ∧ ∃ orb ∈ front, orb.isIntactAt x y = true

/-- A tap goes to the last object that its point lies on. -/
theorem popAt_of_cut (running : run.state = .running) {front back : List Orb} {top : Orb}
    (cut : CutAtLast (Orb.contains · x y) run.orbs front top back) :
    run.popAt x y = (true, { run with orbs := front ++ top.pop :: back }) := by
  have inside : top ∈ run.orbs := by simp [cut.whole]
  rw [popAt, if_pos running]
  -- The object that is popped is the last one at the point, and there is one place for the cut.
  cases found : Orb.popLast x y run.orbs with
  | none =>
    have beside := (Orb.popLast_eq_none_iff x y run.orbs).1 found top inside
    rw [cut.holds] at beside
    cases beside
  | some popped =>
    obtain ⟨front', top', back', whole, rfl, within, last⟩ := Orb.popLast_eq_some found
    obtain ⟨rfl, rfl, rfl⟩ := cut.unique ⟨whole, within, last⟩
    rfl

theorem popAt_of_none (beside : ∀ orb ∈ run.orbs, orb.contains x y = false) :
    (run.popAt x y).2 = run := by
  -- There is no object to pop, whatever the state of the run.
  rw [popAt, (Orb.popLast_eq_none_iff x y run.orbs).2 beside]
  split <;> rfl

/-- Above an intact object at a point that a popped one does not cover, there is none. -/
theorem cut_of_intact {front back : List Orb} {top : Orb}
    (cut : CutAtLast (Orb.contains · x y) run.orbs front top back) (whole : top.popTimer = 0.0) :
    CutAtLast (Orb.isIntactAt x y) run.orbs front top back where
  whole := cut.whole
  holds := by rw [Orb.isIntactAt, cut.holds, decide_eq_true whole, Bool.and_true]
  last other listed := Orb.isIntactAt_of_not_contains (cut.last other listed)

/-- Where an object lies at a point, one lies on top there. -/
theorem cut_or_none (run : Run) (x y : Float) :
    (∀ orb ∈ run.orbs, orb.contains x y = false)
      ∨ ∃ front top back, CutAtLast (Orb.contains · x y) run.orbs front top back := by
  by_cases beside : ∀ orb ∈ run.orbs, orb.contains x y = false
  · exact .inl beside
  · obtain ⟨orb, there, holds⟩ : ∃ orb ∈ run.orbs, orb.contains x y = true := by
      simpa using beside
    exact .inr (CutAtLast.exists_of_mem there holds)

/-- A covered point takes a tap without an effect. -/
theorem Covered.popAt (covered : run.Covered x y) (running : run.state = .running) :
    run.popAt x y = (true, run) := by
  obtain ⟨front, top, back, cut, popping, -⟩ := covered
  rw [popAt_of_cut running cut, Orb.pop_of_popping popping, ← cut.whole]

/-- The intact object below is left alone at a covered point. -/
theorem Covered.not_popsIntact (covered : run.Covered x y) (running : run.state = .running) :
    ¬ run.PopsIntact x y (run.popAt x y) := by
  intro intact
  -- What is popped would be an intact object below the one that takes the tap.
  rw [covered.popAt running] at intact
  obtain ⟨front, top, back, cut, -, orb, below, whole⟩ := covered
  have there : orb ∈ run.orbs := by simp [cut.whole, below]
  obtain ⟨front', last, back', cut'⟩ := CutAtLast.exists_of_mem there whole
  -- The run would have to show the pop of an object that it holds intact.
  have orbs : run.orbs = front' ++ last.timed 1.0 :: back' :=
    congrArg (fun answer : Bool × Run => answer.2.orbs) (intact.pops _ _ _ cut')
  have same : last = last.timed 1.0 :=
    (List.cons.inj (List.append_cancel_left (cut'.whole.symm.trans orbs))).1
  have popping : last.isPopping = true := same ▸ last.isPopping_timed
  have holds := cut'.holds
  rw [Orb.isIntactAt_of_popping popping] at holds
  cases holds

/-- Without cover a tap goes to the topmost intact object. -/
theorem popsIntact_of_not_covered (running : run.state = .running)
    (clocked : ∀ orb ∈ run.orbs, orb.Clocked) (free : ¬ run.Covered x y) :
    run.PopsIntact x y (run.popAt x y) := by
  rcases run.cut_or_none x y with beside | ⟨front, top, back, cut⟩
  · refine ⟨fun front orb back cut => ?_, fun _ => popAt_of_none beside⟩
    -- There is no intact object where there is none at all.
    have there := Orb.isIntactAt_of_not_contains (beside orb (by simp [cut.whole]))
    rw [cut.holds] at there
    cases there
  -- The object on top decides: intact it is popped, and popped it takes the tap for itself.
  rcases clocked top (by simp [cut.whole]) with whole | popping
  · have intact := cut_of_intact cut whole
    have tapped := popAt_of_cut running cut
    rw [Orb.pop_of_intact whole] at tapped
    refine ⟨fun front' orb back' cut' => ?_, fun none => ?_⟩
    · -- The intact object on top is the one that a cut at the last intact one finds.
      obtain ⟨rfl, rfl, rfl⟩ := intact.unique cut'
      exact tapped
    · have holds := none top (by simp [cut.whole])
      rw [intact.holds] at holds
      cases holds
  · -- The object on top shows its pop, and no intact one lies below it or above.
    have none : ∀ orb ∈ run.orbs, orb.isIntactAt x y = false := by
      intro orb there
      rw [cut.whole, List.mem_append, List.mem_cons] at there
      rcases there with below | rfl | above
      · -- An intact one below would make the point a covered one.
        exact Bool.eq_false_iff.2 fun holds => free ⟨_, _, _, cut, popping, orb, below, holds⟩
      · exact Orb.isIntactAt_of_popping popping
      · exact Orb.isIntactAt_of_not_contains (cut.last orb above)
    refine ⟨fun front' orb back' cut' => ?_, fun _ => ?_⟩
    · -- So there is none to cut at.
      have holds := none orb (by simp [cut'.whole])
      rw [cut'.holds] at holds
      cases holds
    · rw [popAt_of_cut running cut, Orb.pop_of_popping popping, ← cut.whole]

/-- Every object of a run was never popped or shows its pop. -/
def Clocked (run : Run) : Prop :=
  ∀ orb ∈ run.orbs, orb.Clocked

namespace Clocked

theorem of_orbs (clocked : run.Clocked) {next : Run} (orbs : next.orbs = run.orbs) :
    next.Clocked :=
  fun orb there => clocked orb (orbs ▸ there)

theorem popAt (clocked : run.Clocked) (x y : Float) : (run.popAt x y).2.Clocked := by
  obtain missed | ⟨-, popped, found, hit⟩ := run.popAt_cases x y
  · -- A tap that misses changes no object.
    rwa [missed]
  · obtain ⟨front, top, back, whole, rfl, -, -⟩ := Orb.popLast_eq_some found
    rw [hit]
    -- One object is popped, and the others stay as they are.
    intro orb there
    have before (orb : Orb) (kept : orb ∈ front ∨ orb = top ∨ orb ∈ back) : orb.Clocked :=
      clocked orb (by simpa [whole] using kept)
    rcases List.mem_append.1 there with below | there
    · exact before orb (.inl below)
    · rcases List.mem_cons.1 there with rfl | above
      · exact (before top (.inr (.inl rfl))).pop
      · exact before orb (.inr (.inr above))

/-- New objects are intact, and the others go on as they are. -/
theorem advance (clocked : run.Clocked) (frameMs : Float) : (run.advance frameMs).Clocked := by
  by_cases running : run.state = .running
  · intro orb there
    -- What is on stage after the frame was there before or has come in the frame, and then moved.
    rw [(advance_stage running frameMs).1, List.mem_filter] at there
    obtain ⟨old, before, rfl⟩ := List.mem_map.1 there.1
    refine Orb.Clocked.move ?_ _ _ _
    rcases List.mem_append.1 before with stays | comes
    · exact clocked old stays
    · exact .inl (run.popTimer_fresh frameMs old comes)
  · rwa [advance_of_not_running running]

theorem step (clocked : run.Clocked) (input : Input) : (run.step input).Clocked := by
  cases input with
  | start =>
    change run.start.Clocked
    unfold start
    split
    · exact clocked
    · exact clocked
    · -- A new run has an empty stage.
      exact fun orb there => by cases there
  | togglePause =>
    refine clocked.of_orbs ?_
    change run.togglePause.orbs = run.orbs
    unfold togglePause
    split <;> rfl
  | advance frameMs => exact clocked.advance frameMs
  | popAt x y => exact clocked.popAt x y
  | recordIfBetter timeMs => exact clocked.of_orbs (run.recordIfBetter_orbs timeMs)

theorem play (clocked : run.Clocked) (inputs : List Input) : (run.play inputs).Clocked := by
  induction inputs generalizing run with
  | nil => exact clocked
  | cons input inputs ih => exact ih (clocked.step input)

end Clocked

/--
A tap pops the topmost intact object at its point exactly if no popped one covers it.

A covered point takes the tap without an effect. The objects of a run are intact or show their pop,
whatever was done with it.
-/
theorem popAt_exact (run : Run) (x y : Float) :
    (∀ game seed inputs, run = (initial game seed).play inputs → run.Clocked)
      ∧ (run.state = .running → run.Clocked →
        (run.PopsIntact x y (run.popAt x y) ↔ ¬ run.Covered x y)
          ∧ (run.Covered x y → run.popAt x y = (true, run))) := by
  constructor
  · rintro game seed inputs rfl
    -- A run begins with no objects at all.
    have empty : (initial game seed).Clocked := fun orb there => by cases there
    exact empty.play inputs
  · exact fun running clocked =>
      ⟨⟨fun intact covered => covered.not_popsIntact running intact,
        popsIntact_of_not_covered running clocked⟩, fun covered => covered.popAt running⟩

/-- An object that shows its pop does not keep a tap from an intact one above it. -/
theorem popAt_exact_above :
    let below : Orb := ⟨60.0, 60.0, 20.0, 0.0, 10.0, 1.0, 1.0, 0.0, 0, 17.0⟩
    let above : Orb := ⟨70.0, 60.0, 20.0, 0.0, 10.0, 1.0, 1.0, 0.0, 1, 0.0⟩
    let run : Run := { (initial (.ofDesign (.obj [])) 1).start with orbs := [below, above] }
    run.state = .running ∧ run.Clocked ∧ below.contains 64.0 60.0 = true
      ∧ run.popAt 64.0 60.0 = (true, { run with orbs := [below, above.timed 1.0] }) := by
  intro below above run
  have clocked : run.Clocked :=
    List.forall_mem_cons.2 ⟨.inr (by decide), List.forall_mem_singleton.2 (.inl rfl)⟩
  have cut : CutAtLast (Orb.contains · 64.0 60.0) run.orbs [below] above [] :=
    ⟨rfl, by decide, nofun⟩
  -- The object on top is intact, so it does not cover the other one.
  have free : ¬ run.Covered 64.0 60.0 := by
    rintro ⟨front, top, back, cut', popping, -⟩
    obtain ⟨-, rfl, -⟩ := cut.unique cut'
    exact absurd popping (by decide)
  have intact := (((popAt_exact run 64.0 60.0).2 rfl clocked).1).2 free
  exact ⟨rfl, clocked, by decide, intact.pops [below] above [] ⟨rfl, by decide, nofun⟩⟩

/-- Of two objects at a point the upper one keeps a second tap from the lower one. -/
theorem popAt_covered :
    let lower : Orb := ⟨60.0, 60.0, 20.0, 0.0, 10.0, 1.0, 1.0, 0.0, 0, 0.0⟩
    let upper : Orb := ⟨70.0, 60.0, 20.0, 0.0, 10.0, 1.0, 1.0, 0.0, 1, 0.0⟩
    let run : Run := { (initial (.ofDesign (.obj [])) 1).start with orbs := [lower, upper] }
    let tapped := (run.popAt 64.0 60.0).2
    tapped.state = .running
      ∧ CutAtLast (Orb.isIntactAt 64.0 60.0) tapped.orbs [] lower [upper.timed 1.0]
      ∧ tapped.popAt 64.0 60.0 = (true, tapped)
      ∧ ¬ tapped.PopsIntact 64.0 60.0 (tapped.popAt 64.0 60.0) := by
  intro lower upper run tapped
  -- The first tap pops the upper object, and no frame has been drawn since.
  have orbs : tapped.orbs = [lower, upper.timed 1.0] := by decide +kernel
  have running : tapped.state = .running := by decide +kernel
  have cut : CutAtLast (Orb.contains · 64.0 60.0) tapped.orbs [lower] (upper.timed 1.0) [] :=
    ⟨orbs, by decide, nofun⟩
  have covered : tapped.Covered 64.0 60.0 :=
    ⟨_, _, _, cut, by decide, lower, List.mem_singleton_self lower, by decide⟩
  refine ⟨running, ⟨orbs, by decide, ?_⟩, covered.popAt running, covered.not_popsIntact running⟩
  exact List.forall_mem_singleton.2 (by decide)

end Run

end Minigame.Survival
