import Turtle.Proofs.Drivers

/-!
# The tally of drivers

How many drivers the running cycle of a play has is counted along the play: a task counts for the
cycle in which it was last left.  What is dispatched between two moves of the code outside is
counted beside it.
-/

set_option autoImplicit false

namespace Turtle

namespace Plays

/-- Control comes back to a task that drives its cycle, and that was left in another cycle than the
one that is running now. -/
def takesOver (cycle : Nat) (past : List Moment) (m : Moment) : Bool :=
  m.before.sched.cycle = cycle && m.before.sched.isRunning && m.before.resumes &&
    cycleAt (m.before.tasks.length + 1) past ≠ cycle

def dispatches (cycle : Nat) (_ : List Moment) (m : Moment) : Bool :=
  m.before.sched.cycle = cycle && (m.before.stepping? m.turn).any Scheduler.dispatches

/-- Drawing fails with a fault, so that the cycle goes on without a pause. -/
def spoils (cycle : Nat) (_ : List Moment) (m : Moment) : Bool :=
  m.before.sched.cycle = cycle && m.before.spoilt

def ever (happens : List Moment → Moment → Bool) : List Moment → Nat
  | [] => 0
  | m :: past => ever happens past + (happens past m).toNat

/-- How often something has happened since code outside of everything made its last move. -/
def lately (happens : List Moment → Moment → Bool) : List Moment → Nat
  | [] => 0
  | m :: past => (if m.before.Outside then 0 else lately happens past) + (happens past m).toNat

/-- The number of tasks of a kind that were last left in a cycle. -/
def tally (kind : Task → Bool) (cycle : Nat) (past : List Moment) : List Task → Nat
  | [] => 0
  | task :: tasks =>
    tally kind cycle past tasks + (kind task && cycleAt (tasks.length + 2) past = cycle).toNat

/-- The number of tasks that drive the current cycle, a step that is due among them. -/
def drivers (past : List Moment) (e : Engine) : Nat :=
  tally Task.drives e.sched.cycle past e.tasks + e.ready

/-- The number of these that take a step before they ask for a timer. -/
def steppers (past : List Moment) (e : Engine) : Nat :=
  tally Task.steps e.sched.cycle past e.tasks + e.ready

/-- The number of steppers of a cycle, as long as that one is running. -/
def stepsLeft (cycle : Nat) (past : List Moment) (e : Engine) : Nat :=
  if e.sched.phase = .running ∧ e.sched.cycle = cycle then steppers past e else 0

/-- A running cycle has one driver, timers among them, and one more for each task that has taken it
over; and each of them dispatches one primitive at most before it pauses. -/
structure Driven (past : List Moment) (e : Engine) : Prop where
  drivers_eq : e.sched.phase = .running → e.failing = false →
    e.sched.armed + drivers past e = 1 + ever (takesOver e.sched.cycle) past
  lately_le : ∀ cycle,
    lately (dispatches cycle) past + stepsLeft cycle past e ≤
      1 + lately (takesOver cycle) past + lately (spoils cycle) past

/-- How a turn leaves the drivers of the current cycle. -/
inductive Advance (past : List Moment) (m : Moment) : Prop where
  | goOn (running : m.before.sched.phase = .running) (fine : m.before.failing = false)
    (cycle_eq : m.after.sched.cycle = m.before.sched.cycle)
    (drivers_eq : m.after.failing = true ∨
      m.after.sched.armed + drivers (m :: past) m.after =
        m.before.sched.armed + drivers past m.before +
          (takesOver m.before.sched.cycle past m).toNat)
    (steppers_le :
      (dispatches m.before.sched.cycle past m).toNat + steppers (m :: past) m.after ≤
        steppers past m.before + (takesOver m.before.sched.cycle past m).toNat +
          (spoils m.before.sched.cycle past m).toNat + m.before.isOutside.toNat) :
    Advance past m
  | rest (rests : m.after.sched.phase ≠ .running)
    (undrawn : dispatches m.before.sched.cycle past m = false) : Advance past m
  | begun (rests : m.before.sched.phase ≠ .running)
    (cycle_eq : m.after.sched.cycle = m.before.sched.cycle + 1)
    (drivers_eq : m.after.sched.armed + drivers (m :: past) m.after = 1)
    (steppers_le : steppers (m :: past) m.after ≤ 1)
    (undrawn : dispatches m.before.sched.cycle past m = false) : Advance past m

variable {rules : Rules} {start now : Engine} {past : List Moment} {m : Moment}
  {kind : Task → Bool} {cycle : Nat} {above rest : List Task}

theorem tally_below (lower : rest.length < m.before.tasks.length) :
    tally kind cycle (m :: past) rest = tally kind cycle past rest := by
  induction rest with
  | nil => rfl
  | cons task tasks ih =>
    rw [List.length_cons] at lower
    have older : ¬m.before.tasks.length < tasks.length + 2 := by omega
    rw [tally, tally, ih (by omega), cycleAt, if_neg older]

theorem tally_moment (height : m.before.tasks.length = rest.length + 1)
    (same : m.after.sched.cycle = cycle) :
    tally kind cycle (m :: past) (above ++ rest) =
      tally kind cycle past rest + above.countP kind := by
  induction above with
  | nil =>
    have lower : rest.length < m.before.tasks.length := by omega
    exact tally_below lower
  | cons task above ih =>
    have newer : m.before.tasks.length < (above ++ rest).length + 2 := by
      rw [List.length_append]
      omega
    rw [List.cons_append, tally, ih, cycleAt, if_pos newer, same, List.countP_cons]
    cases kind task <;> simp [Nat.add_assoc]

theorem tally_unbegun (played : Plays rules start past now) (later : now.sched.cycle < cycle)
    (tasks : List Task) : tally kind cycle past tasks = 0 := by
  induction tasks with
  | nil => rfl
  | cons task tasks ih =>
    have bound := played.cycleAt_le (tasks.length + 2)
    have other : cycleAt (tasks.length + 2) past ≠ cycle := by omega
    rw [tally, ih]
    simp [other]

theorem unbegun (played : Plays rules start past now) (later : now.sched.cycle < cycle)
    {happens : List Moment → Moment → Bool}
    (within : ∀ past m, happens past m = true → m.before.sched.cycle = cycle) :
    ever happens past = 0 ∧ lately happens past = 0 := by
  induction played with
  | start => exact ⟨rfl, rfl⟩
  | @turn past e next turn before taken ih =>
    have grown := Engine.turn?_cycle_le taken
    obtain ⟨none, noneLately⟩ := ih (Nat.lt_of_le_of_lt grown later)
    have never : happens past ⟨e, turn, next⟩ = false := by
      rw [Bool.eq_false_iff]
      intro happened
      have same := within past _ happened
      dsimp only at same later
      omega
    rw [ever, lately, none, noneLately, never]
    simp

theorem eq_of_takesOver (past : List Moment) (m : Moment)
    (happens : takesOver cycle past m = true) : m.before.sched.cycle = cycle := by
  simp only [takesOver, Bool.and_eq_true, decide_eq_true_eq] at happens
  exact happens.1.1.1

theorem eq_of_dispatches (past : List Moment) (m : Moment)
    (happens : dispatches cycle past m = true) : m.before.sched.cycle = cycle := by
  simp only [dispatches, Bool.and_eq_true, decide_eq_true_eq] at happens
  exact happens.1

theorem toNat_eq_zero {happens : List Moment → Moment → Bool}
    (within : happens past m = true → m.before.sched.cycle = cycle)
    (other : m.before.sched.cycle ≠ cycle) : (happens past m).toNat = 0 := by
  cases happened : happens past m with
  | false => rfl
  | true => exact absurd (within happened) other

theorem steppers_of_outside {e : Engine} (outside : e.Outside) : steppers past e = 0 := by
  obtain ⟨s, tasks, signal⟩ := e
  obtain rfl : tasks = [.foreign .outside] := outside
  rw [steppers, (Engine.of_foreign s .outside [] signal).1]
  rfl

theorem stepsLeft_le (cycle : Nat) (past : List Moment) (e : Engine) :
    stepsLeft cycle past e ≤ steppers past e := by
  unfold stepsLeft
  split
  · exact Nat.le_refl _
  · exact Nat.zero_le _

theorem undispatched (undrawn : dispatches m.before.sched.cycle past m = false) (cycle : Nat) :
    (dispatches cycle past m).toNat = 0 := by
  by_cases here : m.before.sched.cycle = cycle
  · rw [← here]
    exact congrArg Bool.toNat undrawn
  · exact toNat_eq_zero (eq_of_dispatches past m) here

/-- What was dispatched lately stays within its bound if a turn dispatches no more than the steppers
that it takes away, and those that it brings in. -/
theorem lately_step {left : Nat}
    (before : lately (dispatches cycle) past + stepsLeft cycle past m.before ≤
      1 + lately (takesOver cycle) past + lately (spoils cycle) past)
    (step : (dispatches cycle past m).toNat + left ≤
      stepsLeft cycle past m.before + (takesOver cycle past m).toNat +
        (spoils cycle past m).toNat + m.before.isOutside.toNat) :
    lately (dispatches cycle) (m :: past) + left ≤
      1 + lately (takesOver cycle) (m :: past) + lately (spoils cycle) (m :: past) := by
  simp only [lately]
  by_cases outside : m.before.Outside
  · have none : stepsLeft cycle past m.before = 0 := by
      have bound := stepsLeft_le cycle past m.before
      rw [steppers_of_outside outside] at bound
      exact Nat.le_zero.mp bound
    have one : m.before.isOutside = true := m.before.isOutside_eq_true_iff.mpr outside
    rw [one, Bool.toNat_true] at step
    simp only [if_pos outside]
    omega
  · have zero : m.before.isOutside = false := by
      rw [Bool.eq_false_iff]
      exact fun one => outside (m.before.isOutside_eq_true_iff.mp one)
    rw [zero, Bool.toNat_false] at step
    simp only [if_neg outside]
    omega

section Advance

variable {e next : Engine} {turn : Turn}

theorem Driven.drivers_advance (driven : Driven past e) (played : Plays rules start past e)
    (advance : Advance past ⟨e, turn, next⟩) (running : next.sched.phase = .running)
    (fine : next.failing = false) :
    next.sched.armed + drivers (⟨e, turn, next⟩ :: past) next =
      1 + ever (takesOver next.sched.cycle) (⟨e, turn, next⟩ :: past) := by
  cases advance with
  | goOn running' fine' cycle_eq drivers_eq _ =>
    dsimp only at running' fine' cycle_eq drivers_eq
    rcases drivers_eq with failing | drivers_eq
    · rw [fine] at failing
      contradiction
    · have before := driven.drivers_eq running' fine'
      rw [ever, cycle_eq]
      omega
  | rest rests => exact absurd running rests
  | begun rests cycle_eq drivers_eq =>
    dsimp only at cycle_eq drivers_eq
    have later : e.sched.cycle < next.sched.cycle := by omega
    have none := (unbegun played later eq_of_takesOver).1
    have never := toNat_eq_zero (m := ⟨e, turn, next⟩) (eq_of_takesOver past _)
      (Nat.ne_of_lt later)
    rw [ever, none, never]
    omega

theorem Driven.lately_advance (driven : Driven past e) (played : Plays rules start past e)
    (advance : Advance past ⟨e, turn, next⟩) (cycle : Nat) :
    lately (dispatches cycle) (⟨e, turn, next⟩ :: past) +
        stepsLeft cycle (⟨e, turn, next⟩ :: past) next ≤
      1 + lately (takesOver cycle) (⟨e, turn, next⟩ :: past) +
        lately (spoils cycle) (⟨e, turn, next⟩ :: past) := by
  have before := driven.lately_le cycle
  cases advance with
  | goOn running fine cycle_eq _ steppers_le =>
    dsimp only at running cycle_eq steppers_le
    refine lately_step before ?_
    by_cases here : e.sched.cycle = cycle
    · have bound := stepsLeft_le cycle (⟨e, turn, next⟩ :: past) next
      have whole : stepsLeft cycle past e = steppers past e := if_pos ⟨running, here⟩
      rw [here] at steppers_le
      dsimp only
      omega
    · have none := toNat_eq_zero (m := ⟨e, turn, next⟩) (eq_of_dispatches past _) here
      have gone : stepsLeft cycle (⟨e, turn, next⟩ :: past) next = 0 := by
        apply if_neg
        rw [cycle_eq]
        exact fun both => here both.2
      rw [none, gone]
      exact Nat.zero_le _
  | rest rests undrawn =>
    have none := undispatched undrawn cycle
    have gone : stepsLeft cycle (⟨e, turn, next⟩ :: past) next = 0 :=
      if_neg fun both => rests both.1
    refine lately_step before ?_
    rw [none, gone]
    exact Nat.zero_le _
  | begun rests cycle_eq _ steppers_le undrawn =>
    have none := undispatched undrawn cycle
    dsimp only at cycle_eq steppers_le
    by_cases there : next.sched.cycle = cycle
    · -- Nothing of the new cycle has been dispatched yet, and it has one stepper.
      have later : e.sched.cycle < cycle := by omega
      have nothing := (unbegun played later eq_of_dispatches).2
      have bound := stepsLeft_le cycle (⟨e, turn, next⟩ :: past) next
      rw [lately, nothing, ite_self, none]
      omega
    · have gone : stepsLeft cycle (⟨e, turn, next⟩ :: past) next = 0 :=
        if_neg fun both => there both.2
      refine lately_step before ?_
      rw [none, gone]
      exact Nat.zero_le _

/-- The drivers are counted right after a turn if they were before. -/
theorem Driven.advance (driven : Driven past e) (played : Plays rules start past e)
    (advance : Advance past ⟨e, turn, next⟩) : Driven (⟨e, turn, next⟩ :: past) next :=
  ⟨driven.drivers_advance played advance, driven.lately_advance played advance⟩

end Advance

end Plays

end Turtle
