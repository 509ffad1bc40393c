import Turtle.Proofs.Change

/-!
# Schedulers at rest

While no cycle is running nothing is left over from the cycles before: no command waits or lies on
the stack, no callback is kept, and there is no clock to wait for.  No fault is ever reported in a
cycle that has not begun.
-/

set_option autoImplicit false

namespace Turtle

namespace Scheduler

def fresh (settings : Settings) (journal : Journal StepEvent) (registry : Registry) : Scheduler :=
  { idle settings journal with registry := registry }

/-- Nothing is left over while no cycle is running, and every report belongs to a cycle that has
begun. -/
structure Tidy (s : Scheduler) : Prop where
  live_running : s.live = true → s.phase = .running
  paced_running : s.paced = true → s.phase = .running ∧ s.settings.animate = true
  stack_eq : s.phase ≠ .running → s.stack = []
  waiting_eq : s.phase ≠ .running → s.queue.pending = []
  callbacks_eq : s.phase ≠ .running → s.callbacks = []
  reported : ∀ report ∈ s.reports, report.cycle ≤ s.cycle

theorem tidy_fresh (settings : Settings) (journal : Journal StepEvent) (registry : Registry) :
    (fresh settings journal registry).Tidy where
  live_running := by simp [fresh, idle]
  paced_running := by simp [fresh, idle]
  stack_eq := fun _ => rfl
  waiting_eq := fun _ => rfl
  callbacks_eq := fun _ => rfl
  reported := by simp [fresh, idle]

theorem Change.tidy {s next : Scheduler} (before : s.Tidy) (change : s.Change next) :
    next.Tidy := by
  cases change with
  | stop => exact { before with live_running := fun live => absurd live Bool.false_ne_true }
  | attach event observer => exact { before with }
  | define name params body => exact { before with }
  | join batch callback? running =>
    exact {
      before with
      stack_eq := fun rests => absurd running rests
      waiting_eq := fun rests => absurd running rests
      callbacks_eq := fun rests => absurd running rests }
  | begin batch callback? rests clocked =>
    exact {
      live_running := fun _ => rfl
      paced_running := fun paced => ⟨rfl, paced⟩
      stack_eq := fun other => absurd rfl other
      waiting_eq := fun other => absurd rfl other
      callbacks_eq := fun other => absurd rfl other
      reported := fun report member => Nat.le_succ_of_le (before.reported report member) }
  | close phase running ended =>
    obtain ⟨journal, frame⟩ := s.endCycle_frame phase
    rw [frame]
    exact {
      live_running := fun live => absurd live Bool.false_ne_true
      paced_running := fun paced => absurd paced Bool.false_ne_true
      stack_eq := fun _ => rfl
      waiting_eq := fun _ => rfl
      callbacks_eq := fun _ => rfl
      reported := before.reported }
  | step =>
    by_cases running : s.phase = .running
    · obtain ⟨queue, stack, journal, steps, registry, frame⟩ := s.step_frame
      rw [frame]
      exact {
        before with
        stack_eq := fun rests => absurd running rests
        waiting_eq := fun rests => absurd running rests
        callbacks_eq := fun rests => absurd running rests }
    · rw [step_of_rest running]
      exact before
  | enter event at? stack? => exact { before with }
  | draw call => exact { before with }
  | file fault =>
    refine { before with reported := ?_ }
    intro report member
    rcases List.mem_cons.mp member with rfl | earlier
    · exact Nat.le_refl s.cycle
    · exact before.reported report earlier
  | arm animate paced => exact { before with }
  | expire position => exact { before with }

end Scheduler

/-- The scheduler of every play is tidy, whatever foreign code does. -/
theorem Plays.tidy {rules : Rules} {settings : Settings} {journal : Journal StepEvent}
    {registry : Registry} {past : List Moment} {now : Engine}
    (played : Plays rules (.atRest (.fresh settings journal registry)) past now) :
    now.sched.Tidy :=
  played.preserves_sched (fun _ _ before change => change.tidy before)
    (Scheduler.tidy_fresh settings journal registry)

/-- Without pauses no timer is ever asked for. -/
theorem Plays.untimed {rules : Rules} {settings : Settings} {journal : Journal StepEvent}
    {registry : Registry} {past : List Moment} {now : Engine}
    (played : Plays rules (.atRest (.fresh settings journal registry)) past now)
    (plain : now.sched.settings.animate = false) : now.sched.timers = [] := by
  have kept : ∀ s next : Scheduler, (s.settings.animate = false → s.timers = []) →
      s.Change next → next.settings.animate = false → next.timers = [] := by
    intro s next before change
    cases change with
    | step =>
      obtain ⟨queue, stack, log, steps, registry, frame⟩ := s.step_frame
      rw [frame]
      exact before
    | arm animate => exact fun plain => absurd (plain.symm.trans animate) Bool.false_ne_true
    | expire position =>
      intro plain
      rw [before plain]
      rfl
    | _ => exact before
  exact played.preserves_sched kept (fun _ => rfl) plain

end Turtle
