import Turtle.Proofs.Change
import Turtle.Proofs.Stack

/-!
# What covers a task

A turn is the business of the topmost task: it may take that one away and put others in its place,
but it leaves everything below as it is.  So a task that is covered waits, unchanged, until control
comes back to it.
-/

set_option autoImplicit false

namespace Turtle

namespace Engine

/-- The call that the drawing has just been asked for. -/
def drawing? (e : Engine) : Option Call :=
  match e.signal, e.tasks with
  | .called, .foreign (.drawing call) :: _ => some call
  | _, _ => none

/-- What has been put above some tasks.  The end of a step lies there only once its cycle has ended,
and a drawing only with the primitive that it belongs to. -/
def Covers (rest : List Task) (done : Engine) : Prop :=
  ∃ above, done.tasks = above ++ rest ∧
    (.stepped false ∈ above → done.sched.phase ≠ .running) ∧
    (done.drawing? ≠ none → 2 ≤ above.length)

theorem Covers.suffix {rest : List Task} {done : Engine} (covers : Covers rest done) :
    rest <:+ done.tasks := by
  obtain ⟨above, tasks_eq, _⟩ := covers
  exact ⟨above, tasks_eq.symm⟩

theorem Covers.drop {task : Task} {rest : List Task} {done : Engine}
    (covers : Covers (task :: rest) done) (other : task ≠ .stepped false) :
    Covers rest done := by
  obtain ⟨above, tasks_eq, ended, drawn⟩ := covers
  refine ⟨above ++ [task], by simp [tasks_eq], ?_, fun drawing => ?_⟩
  · intro member
    rcases List.mem_append.mp member with earlier | last
    · exact ended earlier
    · exact absurd (List.mem_singleton.mp last).symm other
  · have bound := drawn drawing
    rw [List.length_append]
    omega

variable {rules : Rules} {e next : Engine} {turn : Turn} {s : Scheduler} {tasks : List Task}

theorem covers_refl {signal : Signal} (quiet : drawing? ⟨s, tasks, signal⟩ = none) :
    Covers tasks ⟨s, tasks, signal⟩ :=
  ⟨[], rfl, fun member => absurd member List.not_mem_nil, fun drawing => absurd quiet drawing⟩

theorem tell_covers (notice : Notice) (observers : List Nat) :
    Covers tasks (tell s notice tasks observers) := by
  cases observers with
  | nil => exact covers_refl rfl
  | cons observer rest =>
    exact ⟨[.foreign (.observer observer notice), .announcing notice rest], rfl, by simp,
      fun _ => Nat.le_refl 2⟩

theorem tellFault_covers (fault : Fault) (observers : List Nat) :
    Covers tasks (tellFault s fault tasks observers) := by
  cases observers with
  | nil => exact covers_refl rfl
  | cons observer rest =>
    exact ⟨[.foreign (.observer observer (.onError fault)), .reporting fault rest], rfl, by simp,
      fun _ => Nat.le_refl 2⟩

theorem report_covers (fault : Fault) : Covers tasks (report s fault tasks) := by
  rcases report_cases s fault tasks with ⟨_, _, reported⟩ | ⟨_, reported⟩
  · rw [reported]
    exact tellFault_covers _ _
  · rw [reported]
    exact covers_refl rfl

theorem settle_covers (result : RunResult) (callbacks : List Nat) :
    Covers tasks (settle s result tasks callbacks) := by
  cases callbacks with
  | nil => exact covers_refl rfl
  | cons callback rest =>
    exact ⟨[.foreign (.callback callback result), .settling result rest], rfl, by simp,
      fun _ => Nat.le_refl 2⟩

theorem halt_covers (phase : Phase) : Covers tasks (halt s phase tasks) := by
  unfold halt
  split
  · have told : Covers (.settling (s.endCycle phase).2.1 (s.endCycle phase).2.2 :: tasks)
        (announce (s.endCycle phase).1 (.programEnd (s.endCycle phase).2.1)
          (.settling (s.endCycle phase).2.1 (s.endCycle phase).2.2 :: tasks)) := tell_covers _ _
    exact told.drop Task.noConfusion
  · exact covers_refl rfl

theorem paint_covers (leaf : Command) (primitive : Primitive) (calls : List Call) :
    Covers tasks (paint s leaf primitive tasks calls) := by
  cases calls with
  | nil =>
    rcases paint_nil_cases s leaf primitive tasks with ⟨_, _, painted⟩ | ⟨_, painted⟩
    · rw [painted]
      exact (tell_covers _ _).drop Task.noConfusion
    · rw [painted]
      exact covers_refl rfl
  | cons call rest =>
    exact ⟨[.foreign (.drawing call), .painting leaf primitive rest], rfl, by simp,
      fun _ => Nat.le_refl 2⟩

theorem takeStep_covers : Covers tasks (takeStep s tasks) := by
  obtain ⟨after, work, stepped⟩ : ∃ after work, s.step = (after, work) := ⟨_, _, rfl⟩
  rw [takeStep, stepped]
  cases work with
  | answer more => exact covers_refl rfl
  | draw leaf primitive calls => exact paint_covers leaf primitive calls
  | report fault => exact (report_covers fault).drop (by simp)
  | halt phase =>
    have rests : phase ≠ .running := Scheduler.rests_of_step_eq_halt stepped
    have halted : Covers (.stepped false :: tasks) (halt after phase (.stepped false :: tasks)) :=
      halt_covers phase
    obtain ⟨above, tasks_eq, _, drawn⟩ := halted
    refine ⟨above ++ [.stepped false], by simp [tasks_eq], fun _ => halt_rests after rests _, ?_⟩
    intro drawing
    have bound := drawn drawing
    rw [List.length_append]
    omega
  | fail failure => exact covers_refl rfl

theorem pause_covers : Covers tasks (pause s tasks) := by
  unfold pause
  split <;> exact covers_refl rfl

theorem receive_covers (batch : List Command) (callback? : Option Nat) :
    Covers tasks (receive s batch callback? tasks) := by
  unfold receive
  split
  · exact covers_refl rfl
  · split
    · exact covers_refl rfl
    · exact (tell_covers _ _).drop Task.noConfusion

/-- A turn leaves what lies below the topmost task as it is. -/
theorem Acts.covers (acts : Acts rules e turn next) : Covers e.tasks.tail next := by
  cases acts with
  | receive => exact receive_covers _ _
  | start => exact takeStep_covers.drop Task.noConfusion
  | goOn => exact takeStep_covers.drop Task.noConfusion
  | leaveOff => exact covers_refl rfl
  | cancel => exact (halt_covers _).drop Task.noConfusion
  | rethrow => exact covers_refl rfl
  | tell => exact tell_covers _ _
  | complain => exact report_covers _
  | tellFault => exact tellFault_covers _ _
  | giveUp => exact covers_refl rfl
  | paint => exact paint_covers _ _ _
  | spoil => exact (report_covers _).drop (by simp)
  | pause => exact pause_covers
  | settle => exact settle_covers _ _
  | answer => exact covers_refl rfl
  | pass => exact covers_refl rfl
  | refuse => exact (covers_refl rfl).drop Task.noConfusion
  | supersede => exact ((halt_covers _).drop Task.noConfusion).drop Task.noConfusion
  | cue => exact (receive_covers _ _).drop Task.noConfusion
  | stop => exact (covers_refl rfl).drop Task.noConfusion
  | step => exact takeStep_covers.drop Task.noConfusion
  | idle => exact (covers_refl rfl).drop Task.noConfusion
  | expire => exact (covers_refl rfl).drop Task.noConfusion
  | resume => exact (takeStep_covers.drop Task.noConfusion).drop Task.noConfusion
  | attach => exact (covers_refl rfl).drop Task.noConfusion
  | define => exact (covers_refl rfl).drop Task.noConfusion
  | finish => exact covers_refl rfl
  | raise => exact covers_refl rfl

end Engine

end Turtle
