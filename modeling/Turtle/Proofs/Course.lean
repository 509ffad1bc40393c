import Turtle.Proofs.Drivers

/-!
# The course of a cycle

A turn leaves the current cycle as it is, asks it to stop, ends it or begins the next one.  A cycle
ends as cancelled only after it has been asked to stop, or when a failure comes to the loop of its
steps; and only a batch that is taken in while nothing is running begins one.
-/

set_option autoImplicit false

namespace Turtle

namespace Moment

/-- A batch is cued, or one is taken in that had to wait for the end of a stopped cycle. -/
def cues (m : Moment) : Bool :=
  match m.turn, m.before.tasks with
  | .move (.cue _ _), _ => true
  | .work, .cueing _ _ :: _ => true
  | _, _ => false

/-- A cycle is asked to stop while it is running. -/
def stops (m : Moment) : Bool :=
  match m.turn with
  | .move .stop => m.before.sched.isRunning
  | _ => false

theorem turn_of_stops {m : Moment} (stops : m.stops = true) :
    m.turn = .move .stop ∧ m.before.sched.phase = .running := by
  unfold Moment.stops at stops
  split at stops
  · rename_i asked
    exact ⟨asked, of_decide_eq_true stops⟩
  · exact absurd stops Bool.false_ne_true

end Moment

namespace Scheduler

/-- Two schedulers are in the same cycle, and both or neither of them have been asked to stop. -/
structure Level (s t : Scheduler) : Prop where
  phase_eq : t.phase = s.phase
  cycle_eq : t.cycle = s.cycle
  live_eq : t.live = s.live

theorem Level.trans {s t u : Scheduler} (first : Level s t) (second : Level t u) : Level s u :=
  ⟨second.phase_eq.trans first.phase_eq, second.cycle_eq.trans first.cycle_eq,
    second.live_eq.trans first.live_eq⟩

theorem Noted.level {s t : Scheduler} (noted : Noted s t) : Level s t := by
  obtain ⟨journal, reports, calls, rfl⟩ := noted
  exact ⟨rfl, rfl, rfl⟩

theorem step_level (s : Scheduler) : Level s s.step.1 := by
  obtain ⟨queue, stack, journal, steps, registry, frame⟩ := s.step_frame
  rw [frame]
  exact ⟨rfl, rfl, rfl⟩

/-- A cycle has ended between two schedulers: as exhausted, or for a reason as cancelled. -/
structure Ended (s t : Scheduler) (cancels : Prop) : Prop where
  running : s.phase = .running
  cycle_eq : t.cycle = s.cycle
  how : t.phase = .exhausted ∨ t.phase = .cancelled ∧ cancels

theorem Ended.rests {s t : Scheduler} {cancels : Prop} (ended : Ended s t cancels) :
    t.phase ≠ .running := by
  rcases ended.how with exhausted | ⟨cancelled, _⟩
  · rw [exhausted]
    exact Phase.noConfusion
  · rw [cancelled]
    exact Phase.noConfusion

end Scheduler

namespace Engine

open Scheduler

/-- What a turn does to the current cycle. -/
inductive Course (e : Engine) (turn : Turn) (next : Engine) : Prop where
  | level (same : Level e.sched next.sched) : Course e turn next
  | stop (asked : turn = .move .stop) (phase_eq : next.sched.phase = e.sched.phase)
    (cycle_eq : next.sched.cycle = e.sched.cycle) (stopped : next.sched.live = false) :
    Course e turn next
  | close (ended : Ended e.sched next.sched (e.sched.live = false ∨ e.failing = true)) :
    Course e turn next
  | begin (cued : (Moment.mk e turn next).cues = true) (rests : e.sched.phase ≠ .running)
    (running : next.sched.phase = .running) (live : next.sched.live = true)
    (cycle_eq : next.sched.cycle = e.sched.cycle + 1) : Course e turn next

variable {rules : Rules} {e next : Engine} {turn : Turn} {s t : Scheduler} {tasks : List Task}

theorem pause_level : Level s (pause s tasks).sched := by
  unfold pause
  split <;> exact ⟨rfl, rfl, rfl⟩

theorem halt_ended {cancels : Prop} {phase : Phase} (running : s.phase = .running)
    (how : phase = .exhausted ∨ phase = .cancelled ∧ cancels) :
    Ended s (halt s phase tasks).sched cancels := by
  rw [halt_of_running running, announce_sched]
  exact ⟨running, rfl, how⟩

theorem takeStep_course : Level s (takeStep s tasks).sched ∨
    Ended s (takeStep s tasks).sched (s.live = false) := by
  have level := s.step_level
  rcases takeStep_noted s tasks with noted | ⟨after, phase, stepped, halts⟩
  · exact Or.inl (level.trans noted.level)
  · rw [stepped] at level
    obtain ⟨running, how⟩ := step_eq_halt stepped
    have running' : after.phase = .running := level.phase_eq.trans running
    have ended : Ended after (takeStep s tasks).sched (s.live = false) := by
      rw [halts]
      apply halt_ended running'
      rcases how with ⟨stopped, cancelled, _⟩ | ⟨_, exhausted, _⟩
      · exact Or.inr ⟨cancelled, stopped⟩
      · exact Or.inl exhausted
    exact Or.inr ⟨running, ended.cycle_eq.trans level.cycle_eq, ended.how⟩

theorem course_of_takeStep (same : Level e.sched s) : Course e turn (takeStep s tasks) := by
  have course : Level s (takeStep s tasks).sched ∨
      Ended s (takeStep s tasks).sched (s.live = false) := takeStep_course
  rcases course with level | ended
  · exact .level (same.trans level)
  · refine .close ⟨same.phase_eq.symm.trans ended.running, ended.cycle_eq.trans same.cycle_eq, ?_⟩
    rcases ended.how with exhausted | ⟨cancelled, stopped⟩
    · exact Or.inl exhausted
    · exact Or.inr ⟨cancelled, Or.inl (same.live_eq.symm.trans stopped)⟩

theorem course_of_receive (batch : List Command) (callback? : Option Nat)
    (cued : (Moment.mk e turn (receive e.sched batch callback? tasks)).cues = true) :
    Course e turn (receive e.sched batch callback? tasks) := by
  by_cases running : e.sched.phase = .running
  · rw [receive, if_pos running]
    exact .level ⟨rfl, rfl, rfl⟩
  · by_cases clockless : (e.sched.settings.animate && !e.sched.settings.clocked) = true
    · rw [receive, if_neg running, if_pos clockless]
      exact .level ⟨rfl, rfl, rfl⟩
    · have begun : (receive e.sched batch callback? tasks).sched =
          (e.sched.accept batch callback?).beginCycle := by
        rw [receive, if_neg running, if_neg clockless, announce_sched]
      refine .begin cued running ?_ ?_ ?_
      · rw [begun]
        rfl
      · rw [begun]
        rfl
      · rw [begun]
        rfl

theorem Acts.course (acts : Acts rules e turn next) : Course e turn next := by
  have level : ∀ {s : Scheduler}, Level s s := ⟨rfl, rfl, rfl⟩
  cases acts with
  | receive s batch callback? tasks => exact course_of_receive batch callback? rfl
  | start => exact course_of_takeStep level
  | goOn => exact course_of_takeStep level
  | leaveOff => exact .level level
  | cancel s failure tasks =>
    by_cases running : s.phase = .running
    · exact .close (halt_ended running (Or.inr ⟨rfl, Or.inr rfl⟩))
    · rw [halt_of_rest running]
      exact .level level
  | rethrow => exact .level level
  | tell =>
    apply Course.level
    rw [tell_sched]
    exact level
  | complain => exact .level (report_noted _ _ _).level
  | tellFault =>
    apply Course.level
    rw [tellFault_sched]
    exact level
  | giveUp => exact .level ⟨rfl, rfl, rfl⟩
  | paint => exact .level (paint_noted _ _ _ _ _).level
  | spoil => exact .level (report_noted _ _ _).level
  | pause => exact .level pause_level
  | settle =>
    apply Course.level
    rw [settle_sched]
    exact level
  | answer => exact .level level
  | pass => exact .level level
  | refuse => exact .level level
  | supersede s site tasks signal entries callback? batch allowed coerced running stopped =>
    exact .close (halt_ended running (Or.inr ⟨rfl, Or.inl stopped⟩))
  | cue s site tasks signal entries callback? batch => exact course_of_receive batch callback? rfl
  | stop => exact .stop rfl rfl rfl rfl
  | step => exact course_of_takeStep level
  | idle => exact .level level
  | expire => exact .level ⟨rfl, rfl, rfl⟩
  | resume => exact course_of_takeStep ⟨rfl, rfl, rfl⟩
  | attach => exact .level ⟨rfl, rfl, rfl⟩
  | define => exact .level ⟨rfl, rfl, rfl⟩
  | finish => exact .level level
  | raise => exact .level level

end Engine

end Turtle
