import Turtle.Proofs.Likeness

/-!
# Pauses

A run with pauses does what a run without them does, turn by turn.  Only where a primitive has been
drawn do the two part: there the one asks for a timer and stops stepping, and the other goes on.
-/

set_option autoImplicit false

namespace Turtle

namespace Scheduler

/-- A scheduler as it would be if it paused after every primitive. -/
def withPauses (delay : Float) (s : Scheduler) : Scheduler :=
  { s with
    settings := { s.settings with animate := true, delay := delay, clocked := true },
    paced := s.isRunning }

variable (delay : Float) (s : Scheduler)

theorem transparent_withPauses : Transparent (withPauses delay) where
  phase _ := rfl
  live _ := rfl
  stack _ := rfl
  registry _ := rfl
  observers _ := rfl
  calls _ := rfl
  snapshot _ := rfl
  enter _ _ _ _ := rfl
  reportWith _ _ _ := rfl
  ask _ _ := rfl
  stop _ := rfl
  define _ _ _ _ := rfl
  count _ := rfl
  lay _ _ := rfl
  take taken := ⟨_, taken, rfl⟩

theorem step_withPauses :
    (s.withPauses delay).step = (s.step.1.withPauses delay, s.step.2) :=
  step_transparent (transparent_withPauses delay) s fun _ none => none

end Scheduler

namespace Engine

def withPauses (delay : Float) (e : Engine) : Engine :=
  { e with sched := e.sched.withPauses delay }

variable (delay : Float) (s : Scheduler) (tasks : List Task)

theorem tell_withPauses (notice : Notice) (observers : List Nat) :
    tell (s.withPauses delay) notice tasks observers =
      (tell s notice tasks observers).withPauses delay := by
  cases observers <;> rfl

theorem tellFault_withPauses (fault : Fault) (observers : List Nat) :
    tellFault (s.withPauses delay) fault tasks observers =
      (tellFault s fault tasks observers).withPauses delay := by
  cases observers <;> rfl

theorem report_withPauses (fault : Fault) :
    report (s.withPauses delay) fault tasks = (report s fault tasks).withPauses delay := by
  have same : (s.withPauses delay).snapshot = s.snapshot := rfl
  rcases report_cases s fault tasks with ⟨stack?, recorded, reported⟩ | ⟨unrecordable, reported⟩
  · rw [reported, report_of_snapshot (same.trans recorded)]
    exact tellFault_withPauses delay (s.reportWith fault stack?).1 tasks _ _
  · rw [reported, report_of_unrecordable (s := s.withPauses delay) unrecordable]
    rfl

theorem settle_withPauses (result : RunResult) (callbacks : List Nat) :
    settle (s.withPauses delay) result tasks callbacks =
      (settle s result tasks callbacks).withPauses delay := by
  cases callbacks <;> rfl

theorem halt_withPauses {phase : Phase} (rests : phase ≠ .running) :
    halt (s.withPauses delay) phase tasks = (halt s phase tasks).withPauses delay := by
  have phase_eq : (s.withPauses delay).phase = s.phase := rfl
  have ended : ((s.withPauses delay).endCycle phase).1 = (s.endCycle phase).1.withPauses delay := by
    cases phase with
    | running => exact absurd rfl rests
    | _ => rfl
  by_cases running : s.phase = .running
  · rw [halt_of_running running, halt_of_running (phase_eq.trans running), ended]
    exact tell_withPauses ..
  · rw [halt_of_rest running, halt_of_rest (phase_eq ▸ running)]
    rfl

theorem paint_withPauses (leaf : Command) (primitive : Primitive) (calls : List Call) :
    paint (s.withPauses delay) leaf primitive tasks calls =
      (paint s leaf primitive tasks calls).withPauses delay := by
  cases calls with
  | nil =>
    have same : (s.withPauses delay).snapshot = s.snapshot := rfl
    rcases paint_nil_cases s leaf primitive tasks with
      ⟨stack?, recorded, painted⟩ | ⟨unrecordable, painted⟩
    · rw [painted, paint_nil_of_snapshot (same.trans recorded)]
      exact tell_withPauses delay (s.enter _ _ stack?) ..
    · rw [painted, paint_nil_of_unrecordable (s := s.withPauses delay) unrecordable]
      rfl
  | cons call rest => rfl

theorem takeStep_withPauses :
    takeStep (s.withPauses delay) tasks = (takeStep s tasks).withPauses delay := by
  unfold takeStep
  rw [s.step_withPauses delay]
  obtain ⟨after, work, stepped⟩ : ∃ after work, s.step = (after, work) := ⟨_, _, rfl⟩
  rw [stepped]
  cases work with
  | answer more => rfl
  | draw leaf primitive calls => exact paint_withPauses ..
  | report fault => exact report_withPauses ..
  | halt phase =>
    exact halt_withPauses delay after _ (Scheduler.rests_of_step_eq_halt stepped)
  | fail failure => rfl

theorem pause_withPauses (running : s.phase = .running) :
    pause (s.withPauses delay) tasks = ⟨(s.withPauses delay).arm, tasks, .answered false⟩ := by
  have paces : (s.withPauses delay).paced = true := by
    simp [Scheduler.withPauses, Scheduler.isRunning, running]
  rw [pause, paces]
  rfl

/-- When its only timer goes off a run with pauses takes the step that it has put off. -/
theorem fire_withPauses (signal : Signal) (untimed : s.timers = []) :
    perform ⟨(s.withPauses delay).arm, tasks, signal⟩ (.fire 0) =
      (takeStep s (.running :: tasks)).withPauses delay := by
  rw [← takeStep_withPauses]
  obtain ⟨settings, phase, live, queue, stack, journal, cycle, reports, callbacks, paced,
    generation, steps, registry, observers, timers, drawn⟩ := s
  obtain rfl : timers = [] := untimed
  simp [perform, resume, Scheduler.arm, Scheduler.withPauses]

/-- The engine goes on by itself as it does without pauses, unless a pause or a batch is due. -/
theorem next?_withPauses (e : Engine) (going : ∀ tasks, e.tasks ≠ .pausing :: tasks)
    (uncued : ∀ batch callback? tasks, e.tasks ≠ .cueing batch callback? :: tasks) :
    (e.withPauses delay).next? = e.next?.map (withPauses delay) := by
  obtain ⟨s, tasks, signal⟩ := e
  cases tasks with
  | nil => rfl
  | cons top tasks =>
    cases top with
    | foreign site => rfl
    | cueing batch callback? => exact absurd rfl (uncued batch callback? tasks)
    | pausing => exact absurd rfl (going tasks)
    | starting =>
      cases signal
      case raised => rfl
      all_goals exact congrArg some (takeStep_withPauses delay s _)
    | running =>
      cases signal
      case raised => exact congrArg some (halt_withPauses delay s _ Phase.noConfusion)
      case answered more =>
        cases more
        · rfl
        · exact congrArg some (takeStep_withPauses delay s _)
      all_goals rfl
    | rethrow failure => cases signal <;> rfl
    | announcing notice rest =>
      cases signal
      case raised failure => exact congrArg some (report_withPauses delay s _ _)
      all_goals exact congrArg some (tell_withPauses delay s _ _ _)
    | reporting fault rest =>
      cases signal
      case raised failure => rfl
      all_goals exact congrArg some (tellFault_withPauses delay s _ _ _)
    | painting leaf primitive rest =>
      cases signal
      case raised failure =>
        cases failure
        case fault fault => exact congrArg some (report_withPauses delay s _ _)
        all_goals rfl
      all_goals exact congrArg some (paint_withPauses delay s _ _ _ _)
    | settling result rest =>
      cases signal
      case raised failure => rfl
      all_goals exact congrArg some (settle_withPauses delay s _ _ _)
    | stepped more => cases signal <;> rfl

/-- While no timer is pending, only the drawing does anything but return. -/
theorem answer?_eq_some {manner : Nat → Manner} {e : Engine} {move : Move}
    (untimed : e.sched.timers = []) (answered : e.answer? manner = some move) :
    move = .stop ∨ move = .finish ∨ ∃ failure, move = .raise failure := by
  unfold answer? at answered
  split at answered
  · contradiction
  · simp [untimed] at answered
  · obtain rfl := Option.some.inj answered
    obtain ⟨stops, failure?⟩ := manner e.sched.calls.length
    have leaves : (Manner.leave ⟨stops, failure?⟩) = .finish ∨
        ∃ failure, (Manner.leave ⟨stops, failure?⟩) = .raise failure := by
      cases failure? with
      | none => exact Or.inl rfl
      | some failure => exact Or.inr ⟨failure, rfl⟩
    unfold Manner.move
    split
    · split
      · exact Or.inl rfl
      · exact Or.inr leaves
    · exact Or.inr leaves
  · obtain rfl := Option.some.inj answered
    exact Or.inr (Or.inl rfl)

theorem moment?_withPauses (manner : Nat → Manner) (e : Engine)
    (going : ∀ tasks, e.tasks ≠ .pausing :: tasks)
    (uncued : ∀ batch callback? tasks, e.tasks ≠ .cueing batch callback? :: tasks)
    (untimed : e.sched.timers = []) :
    (e.withPauses delay).moment? manner = (e.moment? manner).map fun m =>
      ⟨m.before.withPauses delay, m.turn, m.after.withPauses delay⟩ := by
  unfold moment?
  rw [next?_withPauses delay e going uncued]
  cases e.next? with
  | some next => rfl
  | none =>
    have same : (e.withPauses delay).answer? manner = e.answer? manner := rfl
    dsimp only [Option.map_none]
    rw [same, Option.map_map]
    refine Option.map_congr fun move answered => ?_
    have performed : (e.withPauses delay).perform move = (e.perform move).withPauses delay := by
      rcases answer?_eq_some untimed answered with rfl | rfl | ⟨failure, rfl⟩ <;> rfl
    rw [performed]
    rfl

end Engine

end Turtle
