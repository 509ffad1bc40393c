import Turtle.Proofs.Cover
import Turtle.Proofs.Generations

/-!
# Wakeups

A paced run that waits is never left without a timer that goes on with it.  While a cycle is running
either such a timer is pending, or a loop of steps is at work somewhere on the stack of tasks; and a
loop leaves off only when it has asked for a timer or when its cycle has ended.
-/

set_option autoImplicit false

namespace Turtle

namespace Scheduler

theorem step_steps {s : Scheduler} (running : s.phase = .running) (live : s.live = true) :
    s.step.1.steps = s.steps + 1 := by
  have halts : ¬s.phase ≠ .running := fun rests => rests running
  have stopped : ¬(!s.live) = true := by simp [live]
  rw [step, if_neg halts, if_neg stopped]
  dsimp only
  split
  · rename_i frame below _
    obtain ⟨stack, journal, registry, framed⟩ :=
      ({ s with steps := s.steps + 1 } : Scheduler).advance_frame frame below
    rw [framed]
  · split
    · rfl
    · obtain ⟨journal, framed⟩ :=
        complete_frame { s with steps := s.steps + 1, queue := _, stack := _ } _ _
      rw [framed]

end Scheduler

namespace Engine

open Scheduler

/-- A loop of steps is about to begin, or it waits for a step that is not the last one of its cycle,
or it has not been told to leave off. -/
inductive Looping (e : Engine) : Prop where
  | starting (member : .starting ∈ e.tasks) : Looping e
  | waiting (upper : Task) (below : List Task) (other : upper ≠ .stepped false)
    (lies : upper :: .running :: below <:+ e.tasks) : Looping e
  | going (below : List Task) (tasks_eq : e.tasks = .running :: below)
    (goes : e.signal ≠ .answered false) : Looping e

/-- A running cycle has a timer that will go on with it, or a loop that does. -/
def Awake (e : Engine) : Prop :=
  e.sched.phase = .running → 0 < e.sched.armed ∨ e.Looping

variable {rules : Rules} {e next : Engine} {turn : Turn} {s : Scheduler} {tasks below : List Task}

/-- A loop waits for what has been put above it, or it has just been told how a step came out. -/
theorem Covers.looping (covers : Covers (.running :: below) next)
    (running : next.sched.phase = .running)
    (goes : next.tasks = .running :: below → next.signal ≠ .answered false) : next.Looping := by
  obtain ⟨above, tasks_eq, ended, _⟩ := covers
  rcases List.eq_nil_or_concat above with rfl | ⟨above, upper, rfl⟩
  · exact .going below tasks_eq (goes tasks_eq)
  · refine .waiting upper below ?_ ⟨above, ?_⟩
    · rintro rfl
      exact ended (by simp) running
    · simp [tasks_eq]

theorem tell_unanswered (notice : Notice) (observers : List Nat) (more : Bool) :
    (tell s notice tasks observers).signal ≠ .answered more := by
  cases observers <;> exact Signal.noConfusion

theorem tellFault_unanswered (fault : Fault) (observers : List Nat) (more : Bool) :
    (tellFault s fault tasks observers).signal ≠ .answered more := by
  cases observers <;> exact Signal.noConfusion

theorem report_unanswered (fault : Fault) (more : Bool) :
    (report s fault tasks).signal ≠ .answered more := by
  rcases report_cases s fault tasks with ⟨_, _, reported⟩ | ⟨_, reported⟩
  · rw [reported]
    exact tellFault_unanswered _ _ more
  · rw [reported]
    exact Signal.noConfusion

theorem halt_unanswered (phase : Phase) (more : Bool) :
    (halt s phase tasks).signal ≠ .answered more := by
  unfold halt
  split
  · apply tell_unanswered
  · exact Signal.noConfusion

theorem paint_unanswered (leaf : Command) (primitive : Primitive) (calls : List Call)
    (more : Bool) : (paint s leaf primitive tasks calls).signal ≠ .answered more := by
  cases calls with
  | nil =>
    rcases paint_nil_cases s leaf primitive tasks with ⟨_, _, painted⟩ | ⟨_, painted⟩
    · rw [painted]
      exact tell_unanswered _ _ more
    · rw [painted]
      exact Signal.noConfusion
  | cons call rest => exact Signal.noConfusion

theorem takeStep_looping (running : (takeStep s (.running :: below)).sched.phase = .running) :
    (takeStep s (.running :: below)).Looping := by
  apply takeStep_covers.looping running
  intro tasks_eq answered
  obtain ⟨after, work, stepped⟩ : ∃ after work, s.step = (after, work) := ⟨_, _, rfl⟩
  rw [takeStep, stepped] at running tasks_eq answered
  cases work with
  | answer more =>
    obtain rfl : more = false := Signal.answered.inj answered
    have rests := step_eq_answer_false stepped
    have phase_eq := s.step_phase
    rw [stepped] at phase_eq
    exact rests (phase_eq.symm.trans running)
  | draw leaf primitive calls => exact paint_unanswered leaf primitive calls false answered
  | report fault => exact report_unanswered _ false answered
  | halt phase => exact halt_unanswered phase false answered
  | fail failure => exact Signal.noConfusion answered

theorem receive_looping (rests : s.phase ≠ .running) (batch : List Command)
    (callback? : Option Nat)
    (running : (receive s batch callback? tasks).sched.phase = .running) :
    (receive s batch callback? tasks).Looping := by
  rw [receive, if_neg rests] at running ⊢
  by_cases clockless : (s.settings.animate && !s.settings.clocked) = true
  · rw [if_pos clockless] at running
    exact absurd running rests
  · rw [if_neg clockless]
    have lies : .starting :: tasks <:+
        (announce (s.accept batch callback?).beginCycle .programStart (.starting :: tasks)).tasks :=
      (tell_covers _ _).suffix
    exact .starting (lies.subset (List.mem_cons_self ..))

/-- Control comes back to a loop from the task above it: the loop goes on, or a timer has been asked
for. -/
theorem Acts.handsBack {upper : Task} {signal : Signal} (stacked : upper.On rules .running)
    (other : upper ≠ .stepped false)
    (acts : Acts rules ⟨s, upper :: .running :: below, signal⟩ turn next)
    (answered : next.signal = .answered false) : 0 < next.sched.armed := by
  cases stacked with
  | painting leaf primitive rest =>
    cases acts with
    | paint => exact absurd answered (paint_unanswered leaf primitive rest false)
    | spoil => exact absurd answered (report_unanswered _ false)
    | pass => contradiction
  | pausing =>
    cases acts with
    | pause =>
      by_cases waits : (s.settings.animate && s.paced) = true
      · rw [Engine.pause, if_pos waits, armed_arm]
        exact Nat.succ_pos _
      · rw [Engine.pause, if_neg waits] at answered
        exact absurd (Signal.answered.inj answered) Bool.noConfusion
    | pass => contradiction
  | stepped more =>
    cases acts with
    | answer =>
      obtain rfl : more = false := Signal.answered.inj answered
      exact absurd rfl other
    | pass => contradiction
  | announcing _ announces => cases announces
  | reporting _ _ reports => cases reports
  | settling _ _ halts => cases halts

/-- A loop that is at work stays so, or it leaves off and a timer takes its place. -/
theorem Looping.acts (looping : e.Looping) (shaped : e.Shaped rules) (unbroken : e.Unbroken)
    (acts : Acts rules e turn next) (running : next.sched.phase = .running) :
    0 < next.sched.armed ∨ next.Looping := by
  have covers := acts.covers
  obtain @⟨s, top, tasks, signal, stacked, hears⟩ := shaped
  rw [List.tail_cons] at covers
  cases looping with
  | starting member =>
    rcases List.mem_cons.mp member with rfl | below
    · cases acts with
      | start => exact Or.inr (takeStep_looping running)
      | pass => exact absurd rfl (unbroken tasks _ rfl)
    -- What is about to begin below the topmost task is left alone.
    · exact Or.inr (.starting (covers.suffix.subset below))
  | waiting upper below other lies =>
    rcases List.suffix_cons_iff.mp lies with same | deeper
    · obtain ⟨rfl, rfl⟩ := List.cons.inj same
      -- The topmost task is the one that the loop waits for.  If it tells the loop to leave off the
      -- invariant must come from the timer that it has asked for.
      by_cases answered : next.signal = .answered false
      · cases stacked with
        | on lower _ => exact Or.inl (acts.handsBack lower other answered)
      · exact Or.inr (covers.looping running fun _ => answered)
    · exact Or.inr (.waiting upper below other (deeper.trans covers.suffix))
  | going below tasks_eq goes =>
    obtain ⟨rfl, rfl⟩ := List.cons.inj tasks_eq
    cases acts with
    | goOn => exact Or.inr (takeStep_looping running)
    | leaveOff => exact absurd rfl goes
    | cancel => exact absurd running (halt_rests s Phase.noConfusion _)
    | pass _ _ _ _ passes => cases passes

theorem armed_of_same (timers_eq : next.sched.timers = e.sched.timers)
    (generation_eq : next.sched.generation = e.sched.generation) :
    next.sched.armed = e.sched.armed := by
  rw [armed, armed, timers_eq, generation_eq]

/-- A timer stays pending while its cycle goes on, or it goes off and a loop takes its place. -/
theorem Acts.armed (acts : Acts rules e turn next)
    (generation_eq : next.sched.generation = e.sched.generation)
    (running : next.sched.phase = .running) (armed : 0 < e.sched.armed) :
    0 < next.sched.armed ∨ next.Looping := by
  cases acts.clocks with
  | keep _ timers_eq =>
    rw [armed_of_same timers_eq generation_eq]
    exact Or.inl armed
  | arm _ _ armed_eq =>
    rw [armed_eq, armed_arm]
    exact Or.inl (Nat.succ_pos _)
  | fire position fired =>
    subst fired
    cases acts with
    | idle => exact Or.inl armed
    | expire s site tasks signal position timer allowed found stale =>
      -- The timer that went off was not one of those that count.
      have count := armed_erase found
      rw [if_neg stale] at count
      dsimp only at armed ⊢
      omega
    | resume => exact Or.inr (takeStep_looping running)

theorem Acts.begins_looping (acts : Acts rules e turn next) {batch : List Command}
    (asked : e.batch? turn = some batch) (rests : e.sched.phase ≠ .running)
    (running : next.sched.phase = .running) : next.Looping := by
  cases acts with
  | receive => exact receive_looping rests _ _ running
  | cue => exact receive_looping rests _ _ running
  | supersede => exact absurd running (halt_rests _ Phase.noConfusion _)
  | refuse _ _ _ _ _ _ _ _ refused => simp [batch?, refused] at asked
  | pass _ _ _ _ passes => cases passes <;> simp [batch?] at asked
  | _ => simp [batch?] at asked

theorem Awake.acts (awake : e.Awake) (shaped : e.Shaped rules) (unbroken : e.Unbroken)
    (numbered : e.sched.Numbered) (later : next.sched.Numbered) (acts : Acts rules e turn next) :
    next.Awake := by
  intro running
  cases Plays.shifts_of_traffic acts.traffic with
  | stays phase_eq cycle_eq =>
    -- The generation is a function of phase and cycle, so it has not moved either.
    have generation_eq : next.sched.generation = e.sched.generation := by
      rw [Numbered, isRunning, phase_eq, cycle_eq, ← isRunning, ← numbered] at later
      exact Nat.add_right_cancel later
    rcases awake (phase_eq.symm.trans running) with armed | looping
    · exact acts.armed generation_eq running armed
    · exact looping.acts shaped unbroken acts running
  | begins batch asked rests => exact Or.inr (acts.begins_looping asked rests running)
  | halts _ ended => exact absurd running (Plays.rests_of_ended ended)

/-- However a cycle goes on, the next one begins awake. -/
theorem Acts.awake_or_same (acts : Acts rules e turn next) :
    next.Awake ∨ next.sched.cycle = e.sched.cycle := by
  cases Plays.shifts_of_traffic acts.traffic with
  | stays _ cycle_eq => exact Or.inr cycle_eq
  | begins batch asked rests =>
    exact Or.inl fun running => Or.inr (acts.begins_looping asked rests running)
  | halts _ ended => exact Or.inl fun running => absurd running (Plays.rests_of_ended ended)

end Engine

namespace Plays

open Engine

variable {rules : Rules} {settings : Settings} {journal : Journal StepEvent}
  {registry : Registry} {past : List Moment} {now : Engine}

theorem awake (played : Plays rules (.atRest (.fresh settings journal registry)) past now) :
    now.Awake ∨
      ∃ m ∈ past, m.Unreported .programStart ∧ m.after.sched.cycle = now.sched.cycle := by
  induction played with
  | start => exact Or.inl fun running => absurd running Phase.noConfusion
  | @turn past e next turn before taken ih =>
    have acts := turn?_acts before.shaped taken
    have spoilt : (∃ m ∈ past, m.Unreported .programStart ∧ m.after.sched.cycle = e.sched.cycle) →
        next.Awake ∨ ∃ m ∈ ⟨e, turn, next⟩ :: past,
          m.Unreported .programStart ∧ m.after.sched.cycle = next.sched.cycle := by
      rintro ⟨m, member, unreported, cycle_eq⟩
      refine acts.awake_or_same.imp_right fun same => ?_
      exact ⟨m, List.mem_cons_of_mem _ member, unreported, cycle_eq.trans same.symm⟩
    rcases ih with awake | earlier
    · rcases before.unbroken_or_unreported with unbroken | last
      · exact Or.inl (awake.acts before.shaped unbroken before.numbered
          (before.turn taken).numbered acts)
      · exact spoilt last
    · exact spoilt earlier

end Plays

end Turtle
