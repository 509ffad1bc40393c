import Mathlib.Data.List.Perm.Basic
import Turtle.Proofs.Stack
import Turtle.Proofs.Tidy

/-!
# Drivers

What drives a cycle of a paced run: a timer that will take its next step, or a task that will take a
step or ask for a timer when control comes back to it.  A cycle begins with one driver, and no turn
makes a second one, except that a task which was begun in an earlier cycle may come back to find a
later one running: it takes that cycle over.
-/

set_option autoImplicit false

namespace Turtle

/-- Steps are taken inside of the scheduler only, and only code outside of everything lets timers go
off. -/
def Rules.clocked : Rules
  | _, .step => false
  | .outside, .fire _ => true
  | _, .fire _ => false
  | _, _ => true

namespace Task

/-- A task that will take a step, or ask for a timer, when control comes back to it. -/
def drives : Task → Bool
  | .starting | .painting _ _ _ | .pausing | .stepped true => true
  | _ => false

/-- A task that will take a step when control comes back to it. -/
def steps : Task → Bool
  | .starting | .stepped true => true
  | _ => false

end Task

namespace Scheduler

/-- The number of pending timers that are not out of date. -/
def armed (s : Scheduler) : Nat :=
  s.timers.countP fun timer => timer.generation = s.generation

theorem armed_arm (s : Scheduler) : s.arm.armed = s.armed + 1 := by
  rw [armed, arm, List.countP_append]
  exact congrArg (s.armed + ·) (List.countP_cons_of_pos (decide_eq_true rfl))

theorem armed_erase {s : Scheduler} {position : Nat} {timer : Timer}
    (found : s.timers[position]? = some timer) :
    s.armed =
      ({ s with timers := s.timers.eraseIdx position } : Scheduler).armed +
        if timer.generation = s.generation then 1 else 0 := by
  obtain ⟨within, rfl⟩ := List.getElem?_eq_some_iff.mp found
  have order := List.getElem_cons_eraseIdx_perm within
  have same := order.countP_eq fun timer => decide (timer.generation = s.generation)
  rw [List.countP_cons] at same
  simpa [armed] using same.symm

def dispatches (s : Scheduler) : Bool :=
  match s.step with
  | (_, .draw _ _ _) => true
  | _ => false

end Scheduler

namespace Engine

/-- The number of steps that are due at once. -/
def ready (e : Engine) : Nat :=
  match e.signal, e.tasks with
  | .answered true, .running :: _ => 1
  | _, _ => 0

/-- A failure has reached the loop of steps. -/
def failing (e : Engine) : Bool :=
  match e.signal, e.tasks with
  | .raised _, .running :: _ => true
  | _, _ => false

theorem eq_of_failing {e : Engine} (failing : e.failing = true) :
    ∃ s tasks failure, e = ⟨s, .running :: tasks, .raised failure⟩ := by
  obtain ⟨s, tasks, signal⟩ := e
  unfold Engine.failing at failing
  split at failing
  · rename_i failure rest raised same
    dsimp only at raised same
    exact ⟨s, rest, failure, by rw [raised, same]⟩
  · exact absurd failing Bool.false_ne_true

def spoilt (e : Engine) : Bool :=
  match e.tasks, e.signal with
  | .painting _ _ _ :: _, .raised (.fault _) => true
  | _, _ => false

def resumes (e : Engine) : Bool :=
  match e.tasks, e.signal with
  | task :: _, .returned => task.drives
  | _, _ => e.spoilt

/-- While foreign code has control no step is due, nothing fails and nothing comes back. -/
theorem of_foreign (s : Scheduler) (site : Site) (tasks : List Task) (signal : Signal) :
    ready ⟨s, .foreign site :: tasks, signal⟩ = 0 ∧
      failing ⟨s, .foreign site :: tasks, signal⟩ = false ∧
      spoilt ⟨s, .foreign site :: tasks, signal⟩ = false ∧
      resumes ⟨s, .foreign site :: tasks, signal⟩ = false := by
  cases signal with
  | called => exact ⟨rfl, rfl, rfl, rfl⟩
  | returned => exact ⟨rfl, rfl, rfl, rfl⟩
  | answered more => cases more <;> exact ⟨rfl, rfl, rfl, rfl⟩
  | raised failure => cases failure <;> exact ⟨rfl, rfl, rfl, rfl⟩

/-- An engine that is still in the cycle of a scheduler: `drivers` is what it has more in tasks
above the rest, in steps that are due and in timers, unless its steps have failed, and no more than
`steps` of it will take a step before asking for a timer. -/
structure Keeps (s : Scheduler) (rest : List Task) (drivers steps : Nat) (done : Engine) :
    Prop where
  phase_eq : done.sched.phase = s.phase
  cycle_eq : done.sched.cycle = s.cycle
  adds : ∃ above, done.tasks = above ++ rest ∧
    (done.failing = true ∨
      done.sched.armed + (above.countP Task.drives + done.ready) = s.armed + drivers) ∧
    above.countP Task.steps + done.ready ≤ steps

variable {s : Scheduler} {rest : List Task}

theorem Keeps.transfer {t : Scheduler} {drivers drivers' steps : Nat} {done : Engine}
    (keeps : Keeps t rest drivers steps done) (phase_eq : t.phase = s.phase)
    (cycle_eq : t.cycle = s.cycle) (armed_eq : t.armed + drivers = s.armed + drivers') :
    Keeps s rest drivers' steps done :=
  ⟨keeps.phase_eq.trans phase_eq, keeps.cycle_eq.trans cycle_eq, armed_eq ▸ keeps.adds⟩

theorem Keeps.foreign {site : Site} {drivers steps : Nat} {done : Engine}
    (keeps : Keeps s (.foreign site :: rest) drivers steps done) :
    Keeps s rest drivers steps done := by
  obtain ⟨phase_eq, cycle_eq, above, tasks_eq, adds, bound⟩ := keeps
  refine ⟨phase_eq, cycle_eq, above ++ [.foreign site], ?_, ?_, ?_⟩
  · rw [tasks_eq, List.append_assoc, List.singleton_append]
  · rw [List.countP_append]
    exact adds
  · rw [List.countP_append]
    exact bound

theorem tell_keeps (above : List Task) (notice : Notice)
    (observers : List Nat) :
    Keeps s rest (above.countP Task.drives) (above.countP Task.steps)
      (tell s notice (above ++ rest) observers) := by
  cases observers with
  | nil => exact ⟨rfl, rfl, above, rfl, Or.inr rfl, Nat.le_refl _⟩
  | cons observer others =>
    refine ⟨rfl, rfl, .foreign (.observer observer notice) :: .announcing notice others :: above,
      rfl, Or.inr ?_, ?_⟩
    · simp [tell, Task.drives, ready]
    · simp [tell, Task.steps, ready]

theorem announce_keeps (above : List Task) (notice : Notice) :
    Keeps s rest (above.countP Task.drives) (above.countP Task.steps)
      (announce s notice (above ++ rest)) :=
  tell_keeps above notice _

theorem tellFault_keeps (above : List Task) (fault : Fault)
    (observers : List Nat) :
    Keeps s rest (above.countP Task.drives) (above.countP Task.steps)
      (tellFault s fault (above ++ rest) observers) := by
  cases observers with
  | nil => exact ⟨rfl, rfl, above, rfl, Or.inr rfl, Nat.le_refl _⟩
  | cons observer others =>
    refine ⟨rfl, rfl,
      .foreign (.observer observer (.onError fault)) :: .reporting fault others :: above,
      rfl, Or.inr ?_, ?_⟩
    · simp [tellFault, Task.drives, ready]
    · simp [tellFault, Task.steps, ready]

theorem report_keeps (above : List Task) (fault : Fault) :
    Keeps s rest (above.countP Task.drives) (above.countP Task.steps)
      (report s fault (above ++ rest)) := by
  rcases report_cases s fault (above ++ rest) with ⟨stack?, _, reported⟩ | ⟨_, reported⟩
  · rw [reported]
    exact { tellFault_keeps (s := (s.reportWith fault stack?).1) above _ _ with }
  · rw [reported]
    exact ⟨rfl, rfl, above, rfl, Or.inr rfl, Nat.le_refl _⟩

/-- While a primitive is drawn there is one driver more, unless its drawing cannot be recorded and
the loop of steps hears of that. -/
theorem paint_keeps (above : List Task) (leaf : Command)
    (primitive : Primitive) (calls : List Call)
    (looped : (∃ tasks, above ++ rest = .running :: tasks) ∨ s.Recordable) :
    Keeps s rest (above.countP Task.drives + 1) (above.countP Task.steps)
      (paint s leaf primitive (above ++ rest) calls) := by
  cases calls with
  | nil =>
    rcases paint_nil_cases s leaf primitive (above ++ rest) with
      ⟨stack?, _, painted⟩ | ⟨unrecordable, painted⟩
    · have told : Keeps (s.enter (.primitive primitive.name) leaf.location? stack?) rest _ _ _ :=
        announce_keeps (.pausing :: above) (.afterPrimitive leaf)
      rw [List.countP_cons_of_pos rfl, List.countP_cons_of_neg Bool.noConfusion] at told
      rw [painted]
      exact { told with }
    · obtain ⟨tasks, top⟩ := looped.resolve_right unrecordable
      rw [painted]
      refine ⟨rfl, rfl, above, rfl, Or.inl ?_, Nat.le_refl _⟩
      rw [top]
      rfl
  | cons call others =>
    refine ⟨rfl, rfl, .foreign (.drawing call) :: .painting leaf primitive others :: above, rfl,
      Or.inr ?_, ?_⟩
    · rw [List.countP_cons_of_neg Bool.noConfusion, List.countP_cons_of_pos rfl]
      rfl
    · rw [List.countP_cons_of_neg Bool.noConfusion, List.countP_cons_of_neg Bool.noConfusion]
      exact Nat.le_refl _

theorem settle_keeps (result : RunResult) (callbacks : List Nat) :
    Keeps s rest 0 0 (settle s result rest callbacks) := by
  cases callbacks with
  | nil => exact ⟨rfl, rfl, [], rfl, Or.inr rfl, Nat.le_refl _⟩
  | cons callback others =>
    exact ⟨rfl, rfl, [.foreign (.callback callback result), .settling result others], rfl,
      Or.inr rfl, Nat.le_refl _⟩

theorem announce_fine (notice : Notice) (tasks : List Task) :
    (announce s notice tasks).failing = false := by
  unfold announce
  cases s.observersOf notice.event <;> rfl

theorem takeStep_of_rest (rests : s.phase ≠ .running) (tasks : List Task) :
    takeStep s tasks = ⟨s, tasks, .answered false⟩ := by
  rw [takeStep, Scheduler.step_of_rest rests]

theorem armed_step (s : Scheduler) : s.step.1.armed = s.armed := by
  obtain ⟨queue, stack, journal, steps, registry, frame⟩ := s.step_frame
  rw [frame]
  rfl

/-- A step of a running cycle that does not end it leaves one driver. -/
theorem takeStep_keeps (running : s.phase = .running) (rest : List Task) :
    ((takeStep s (.running :: rest)).sched.phase ≠ .running ∧ s.dispatches = false) ∨
      Keeps s rest 1 (1 - s.dispatches.toNat) (takeStep s (.running :: rest)) := by
  have phase_eq := s.step_phase
  have cycle_eq := s.step_cycle
  have armed_eq := armed_step s
  obtain ⟨after, work, stepped⟩ : ∃ after work, s.step = (after, work) := ⟨_, _, rfl⟩
  rw [stepped] at phase_eq cycle_eq armed_eq
  dsimp only at phase_eq cycle_eq armed_eq
  have running' : after.phase = .running := phase_eq.trans running
  have from_after : ∀ {drivers steps : Nat} {done : Engine}, Keeps after rest drivers steps done →
      Keeps s rest drivers steps done :=
    fun keeps => keeps.transfer phase_eq cycle_eq (congrArg (· + _) armed_eq)
  rw [takeStep, Scheduler.dispatches, stepped]
  cases work with
  | answer more =>
    cases more with
    | true =>
      exact Or.inr (from_after ⟨rfl, rfl, [.running], rfl, Or.inr rfl, Nat.le_refl _⟩)
    | false => exact absurd running (Scheduler.step_eq_answer_false stepped)
  | draw leaf primitive calls =>
    exact Or.inr (from_after (paint_keeps [.running] leaf primitive calls (Or.inl ⟨rest, rfl⟩)))
  | report fault =>
    exact Or.inr (from_after (report_keeps [.stepped true, .running] fault))
  | halt phase =>
    refine Or.inl ⟨?_, rfl⟩
    dsimp only
    rw [halt_of_running running', announce_sched]
    exact Scheduler.rests_of_step_eq_halt stepped
  | fail failure =>
    exact Or.inr (from_after ⟨rfl, rfl, [.running], rfl, Or.inl rfl, Nat.zero_le _⟩)

/-- A pause turns a driver into a timer, which takes its place. -/
theorem pause_keeps (animate : s.settings.animate = true) (paced : s.paced = true) :
    Keeps s rest 1 0 (pause s rest) := by
  have waits : (s.settings.animate && s.paced) = true := by rw [animate, paced]; rfl
  rw [pause, if_pos waits]
  exact ⟨rfl, rfl, [], rfl, Or.inr (Scheduler.armed_arm s), Nat.le_refl 0⟩

end Engine

end Turtle
