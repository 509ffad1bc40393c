import Turtle.Proofs.Completion
import Turtle.Proofs.Course
import Turtle.Proofs.Cover
import Turtle.Proofs.Pacing

/-!
# Cancellation

What cancels a cycle: a stop, or a failure that comes to a loop of steps.  The loop cancels whatever
cycle is running then.  So that cycle has failed itself if and only if no other one has begun since
the step was taken that the failure comes out of.
-/

set_option autoImplicit false

namespace Turtle

/-- What there is to justify the cancellation of a cycle. -/
structure Grounds where
  cycle : Nat
  /-- The cycle has been asked to stop while it was running. -/
  stopped : Bool
  /-- A failure has come out of a step of the cycle. -/
  own : Bool
  /-- That failure is the failure of a callback. -/
  called : Bool
deriving DecidableEq

/-- The callbacks of a cycle are called when it has ended, and their failures are no reason to
cancel another one. -/
def Grounds.Justified (grounds : Grounds) : Prop :=
  (grounds.stopped = true ∨ grounds.own = true) ∧ grounds.called = false

/-- The failure of a callback may come to a task. -/
def Task.hearsCalls : Task → Bool
  | .foreign _ | .cueing _ _ | .running | .rethrow _ | .settling _ _ | .stepped false => true
  | _ => false

namespace Moment

def cancels (m : Moment) : Bool :=
  m.before.sched.isRunning && m.after.sched.phase = .cancelled

end Moment

namespace Plays

def stoppedIn (cycle : Nat) (past : List Moment) : Bool :=
  past.any fun m => m.stops && m.before.sched.cycle = cycle

/-- The failure that is on its way is the failure of a callback. -/
def calledBack : List Moment → Bool
  | [] => false
  | m :: past =>
    match m.turn, m.before.signal with
    | .move (.raise _), _ =>
      match m.before.site? with
      | some (.callback _ _) => true
      | _ => false
    | .work, .raised _ => calledBack past
    | _, _ => false

def grounds (past : List Moment) (e : Engine) : Grounds :=
  ⟨e.sched.cycle, stoppedIn e.sched.cycle past,
    e.failing && cycleAt (e.tasks.length + 1) past = e.sched.cycle, e.failing && calledBack past⟩

/-- The cancellations of a play, newest first. -/
def cancellations : List Moment → List Grounds
  | [] => []
  | m :: past => (if m.cancels then [grounds past m.before] else []) ++ cancellations past

/-- The failures that have come to a loop of steps while a cycle was running, newest first. -/
def escapes : List Moment → List Grounds
  | [] => []
  | m :: past =>
    (if m.before.failing && m.before.sched.isRunning then [grounds past m.before] else []) ++
      escapes past

end Plays

namespace Engine

variable {rules : Rules} {e next : Engine} {turn : Turn} {s : Scheduler} {tasks : List Task}
  {failure : Failure} {past : List Moment}

/-- The failure of a callback comes from there in this turn, or it has passed through a task.  Any
other failure has come out of a task that no failure of a callback comes to. -/
theorem Acts.calledBack (acts : Acts rules e turn next) (raised : next.signal = .raised failure)
    (called : Plays.calledBack (⟨e, turn, next⟩ :: past) = true) :
    (∃ s id result tasks signal, e = ⟨s, .foreign (.callback id result) :: tasks, signal⟩ ∧
        next = ⟨s, tasks, .raised failure⟩) ∨
      (∃ s task tasks, e = ⟨s, task :: tasks, .raised failure⟩ ∧ task.Passes failure ∧
        next = ⟨s, tasks, .raised failure⟩ ∧ Plays.calledBack past = true) ∨
      ∃ s task tasks earlier, e = ⟨s, task :: tasks, .raised earlier⟩ ∧
        task.hearsCalls = false ∧ Plays.calledBack past = true := by
  cases acts with
  | raise s site tasks signal failure =>
    obtain rfl := Signal.raised.inj raised
    cases site with
    | callback id result => exact Or.inl ⟨s, id, result, tasks, signal, rfl, rfl⟩
    | _ => exact absurd called Bool.false_ne_true
  | pass s task failure tasks passes =>
    obtain rfl := Signal.raised.inj raised
    exact Or.inr (Or.inl ⟨s, task, tasks, rfl, passes, rfl, called⟩)
  | cancel => exact absurd raised (halt_heard _ _ _ _)
  | complain => exact Or.inr (Or.inr ⟨_, _, _, _, rfl, rfl, called⟩)
  | giveUp => exact absurd raised Signal.noConfusion
  | spoil => exact Or.inr (Or.inr ⟨_, _, _, _, rfl, rfl, called⟩)
  | _ => exact absurd called Bool.false_ne_true

end Engine

namespace Plays

open Engine

variable {rules : Rules} {settings : Settings} {journal : Journal StepEvent}
  {registry : Registry} {past : List Moment} {e next now : Engine} {turn : Turn}

/-- A cycle that is running, and has been asked to stop, was asked while it was running. -/
theorem stoppedIn_of_unlive
    (played : Plays rules (.atRest (.fresh settings journal registry)) past now)
    (running : now.sched.phase = .running) (unlive : now.sched.live = false) :
    stoppedIn now.sched.cycle past = true := by
  refine played.by_acts (fun past e => e.sched.phase = .running → e.sched.live = false →
    stoppedIn e.sched.cycle past = true) ?_ ?_ running unlive
  · exact fun running => absurd running Phase.noConfusion
  · intro past e turn next _ _ acts before running unlive
    rw [stoppedIn, List.any_cons, Bool.or_eq_true]
    cases acts.course with
    | level same =>
      right
      rw [same.cycle_eq]
      exact before (same.phase_eq.symm.trans running) (same.live_eq.symm.trans unlive)
    | stop asked phase_eq cycle_eq =>
      left
      have running' : e.sched.isRunning = true := decide_eq_true (phase_eq.symm.trans running)
      simp [Moment.stops, asked, running', cycle_eq]
    | close ended => exact absurd running ended.rests
    | begin _ _ _ live => exact absurd unlive (by simp [live])

/-- What has to end with the end of a cycle goes on in a later one, if one is running then. -/
def Lapsed (past : List Moment) (e : Engine) : Prop :=
  ∀ tasks, .stepped false :: tasks <:+ e.tasks → e.sched.phase = .running →
    cycleAt (tasks.length + 1) past < e.sched.cycle

theorem cycleAt_below {m : Moment} {height : Nat} (below : height ≤ m.before.tasks.length) :
    cycleAt height (m :: past) = cycleAt height past :=
  if_neg (Nat.not_lt.mpr below)

theorem lapsed (played : Plays rules (.atRest (.fresh settings journal registry)) past now) :
    Lapsed past now := by
  refine played.by_acts Lapsed ?_ ?_
  · exact fun _ _ running => absurd running Phase.noConfusion
  · intro past e turn next earlier _ acts before tasks lies running
    obtain ⟨above, tasks_eq, ended, _⟩ := acts.covers
    have inside : .stepped false :: tasks <:+ e.tasks.tail := by
      obtain ⟨higher, whole⟩ := lies
      rw [tasks_eq] at whole
      rcases List.append_eq_append_iff.mp whole with ⟨more, rfl, same⟩ | ⟨more, rfl, same⟩
      · cases more with
        | nil => exact ⟨[], same⟩
        | cons task more =>
          obtain ⟨rfl, _⟩ := List.cons.inj same
          exact absurd running (ended (by simp))
      · exact ⟨more, same.symm⟩
    have lies' := inside.trans (List.tail_suffix e.tasks)
    have below : tasks.length + 1 ≤ e.tasks.length := lies'.length_le
    rw [cycleAt_below below]
    cases acts.course with
    | level same =>
      rw [same.cycle_eq]
      exact before tasks lies' (same.phase_eq.symm.trans running)
    | stop _ phase_eq cycle_eq =>
      rw [cycle_eq]
      exact before tasks lies' (phase_eq.symm.trans running)
    | close ended => exact absurd running ended.rests
    | begin _ _ _ _ cycle_eq =>
      rw [cycle_eq]
      exact Nat.lt_succ_of_le (earlier.cycleAt_le _)

/-- The failure of a callback comes to few tasks, and to a loop of steps it comes out of a step of
an earlier cycle. -/
structure Falls (past : List Moment) (e : Engine) : Prop where
  hears : ∀ task tasks, e.tasks = task :: tasks → task.hearsCalls = true
  strange : e.failing = true → e.sched.phase = .running →
    cycleAt (e.tasks.length + 1) past < e.sched.cycle

theorem Falls.of_task {s : Scheduler} {task : Task} {tasks : List Task} {signal : Signal}
    (hears : task.hearsCalls = true) (other : task ≠ .running) :
    Falls past ⟨s, task :: tasks, signal⟩ := by
  refine ⟨?_, fun failing => ?_⟩
  · rintro _ _ same
    rw [← (List.cons.inj same).1]
    exact hears
  · obtain ⟨_, _, _, same⟩ := eq_of_failing failing
    exact absurd (List.cons.inj (Engine.mk.inj same).2.1).1 other

theorem falls (played : Plays rules (.atRest (.fresh settings journal registry)) past now)
    {failure : Failure} (raised : now.signal = .raised failure)
    (called : calledBack past = true) : Falls past now := by
  refine played.by_acts (fun past e => ∀ failure, e.signal = .raised failure →
    calledBack past = true → Falls past e) ?_ ?_ failure raised called
  · exact fun _ raised => absurd raised Signal.noConfusion
  · intro past e turn next earlier shaped acts before failure raised called
    rcases acts.calledBack raised called with
      ⟨s, id, result, tasks, signal, rfl, rfl⟩ | ⟨s, task, tasks, rfl, passes, rfl, called'⟩ |
      ⟨s, task, tasks, other, rfl, deaf, called'⟩
    · obtain ⟨stacked, _⟩ := shaped
      cases stacked with
      | on upper below =>
        cases upper
        exact .of_task rfl Task.noConfusion
    · have hears := (before failure rfl called').hears task tasks rfl
      obtain ⟨stacked, _⟩ := shaped
      cases stacked with
      | outside => cases passes
      | @on _ lower tasks upper below =>
        cases passes with
        | cueing =>
          cases upper
          exact .of_task rfl Task.noConfusion
        | rethrow =>
          cases upper
          exact .of_task rfl Task.noConfusion
        | settling =>
          cases upper with
          | settling _ _ halts => cases halts <;> exact .of_task rfl Task.noConfusion
        | stepped more =>
          cases upper with
          | stepped _ drives =>
            cases drives with
            | foreign => exact .of_task rfl Task.noConfusion
            | running =>
              cases more with
              | true => exact absurd hears Bool.false_ne_true
              | false =>
                refine ⟨fun _ _ same => by rw [← (List.cons.inj same).1]; rfl, ?_⟩
                intro _ running
                have lapsed := earlier.lapsed (.running :: tasks) (List.suffix_refl _) running
                exact Nat.lt_of_le_of_lt (Nat.le_of_eq (cycleAt_below (Nat.le_refl _))) lapsed
        | starting => exact absurd hears Bool.false_ne_true
        | pausing => exact absurd hears Bool.false_ne_true
        | painting => exact absurd hears Bool.false_ne_true
    · exact absurd ((before other rfl called').hears task tasks rfl) (by rw [deaf]; simp)

/-- A loop that a failure comes to cancels the running cycle. -/
theorem cancels_of_failing (acts : Acts rules e turn next) (failing : e.failing = true)
    (running : e.sched.isRunning = true) : (Moment.mk e turn next).cancels = true := by
  obtain ⟨s, tasks, failure, rfl⟩ := eq_of_failing failing
  have halted : (halt s .cancelled (.rethrow failure :: tasks)).sched.phase = .cancelled := by
    rw [halt_of_running (of_decide_eq_true running), announce_sched]
    rfl
  cases acts with
  | cancel => simp [Moment.cancels, running, halted]
  | pass _ _ _ _ passes => cases passes

theorem forall_mem_noted {noted : Bool} {g : Grounds} {holds : Grounds → Prop} :
    (∀ g' ∈ (if noted then [g] else []), holds g') ↔ (noted = true → holds g) := by
  cases noted <;> simp

theorem justified_acts
    (played : Plays rules (.atRest (.fresh settings journal registry)) past e)
    (acts : Acts rules e turn next) :
    ((Moment.mk e turn next).cancels = true → (grounds past e).Justified) ↔
      ((e.failing && e.sched.isRunning) = true → (grounds past e).own = true ∨
        (grounds past e).stopped = true ∧ (grounds past e).called = false) := by
  constructor
  · intro justified both
    obtain ⟨failing, running⟩ := Bool.and_eq_true_iff.mp both
    obtain ⟨reason, uncalled⟩ := justified (cancels_of_failing acts failing running)
    rcases reason with stopped | own
    · exact Or.inr ⟨stopped, uncalled⟩
    · exact Or.inl own
  · intro escaped cancels
    obtain ⟨running, cancelled⟩ := Bool.and_eq_true_iff.mp cancels
    cases failing : e.failing with
    | true =>
      rcases escaped (by rw [failing, running]; rfl) with own | ⟨stopped, uncalled⟩
      · refine ⟨Or.inr own, ?_⟩
        have here : cycleAt (e.tasks.length + 1) past = e.sched.cycle := by
          simpa [grounds, failing] using own
        obtain ⟨s, tasks, failure, rfl⟩ := eq_of_failing failing
        apply Bool.eq_false_iff.mpr
        intro called
        have late := (played.falls rfl called).strange rfl (of_decide_eq_true running)
        omega
      · exact ⟨Or.inl stopped, uncalled⟩
    | false =>
      have uncalled : (grounds past e).called = false := by simp [grounds, failing]
      refine ⟨Or.inl ?_, uncalled⟩
      have cancelled' : next.sched.phase = .cancelled := of_decide_eq_true cancelled
      have running' : e.sched.phase = .running := of_decide_eq_true running
      cases acts.course with
      | level same => simp [same.phase_eq, running'] at cancelled'
      | stop _ phase_eq => simp [phase_eq, running'] at cancelled'
      | close ended =>
        rcases ended.how with exhausted | ⟨_, unlive | failed⟩
        · simp [exhausted] at cancelled'
        · exact played.stoppedIn_of_unlive running' unlive
        · simp [failing] at failed
      | begin _ rests => exact absurd running' rests

/-- Every cancellation of a cycle is justified, by a stop of the cycle or by a failure of its own,
and none is due to the failure of a callback, if and only if a failure that comes to a loop of steps
while a cycle is running comes out of a step of that cycle, or finds it stopped and is not the
failure of a callback. -/
theorem justified_iff
    (played : Plays rules (.atRest (.fresh settings journal registry)) past now) :
    (∀ g ∈ cancellations past, g.Justified) ↔
      ∀ g ∈ escapes past, g.own = true ∨ g.stopped = true ∧ g.called = false := by
  refine played.by_acts (fun past _ => (∀ g ∈ cancellations past, g.Justified) ↔
    ∀ g ∈ escapes past, g.own = true ∨ g.stopped = true ∧ g.called = false) ?_ ?_
  · simp [cancellations, escapes]
  · intro past e turn next earlier _ acts before
    rw [cancellations, escapes, List.forall_mem_append, List.forall_mem_append, before,
      forall_mem_noted, forall_mem_noted]
    exact and_congr_left fun _ => justified_acts earlier acts

/-- The pen is to be lifted, and the drawing fails. -/
theorem lifting_justified :
    ∃ past now, Plays .free (.atRest plainStart) past now ∧ now.sched.phase = .cancelled ∧
      cancellations past = [⟨1, false, true, false⟩] ∧ ∀ g ∈ cancellations past, g.Justified := by
  obtain ⟨past, now, played, facts⟩ := exists_of_play? .free (.atRest plainStart)
    [.move (.cue [.command (.leaf "pu" [] none)] none), .work, .work,
      .move (.raise (.breakdown "x")), .work, .work, .work, .work]
    (fun past now => decide (now.sched.phase = .cancelled ∧
      cancellations past = [⟨1, false, true, false⟩] ∧
      ∀ g ∈ escapes past, g.own = true ∨ g.stopped = true ∧ g.called = false))
    (by decide)
  obtain ⟨cancelled, only, escaped⟩ := of_decide_eq_true facts
  exact ⟨past, now, played, cancelled, only, played.justified_iff.mpr escaped⟩

/-- The callback of a cycle begins the next one, which lifts the pen and waits for the clock.  Then
the callback fails, and that cancels the cycle it has begun. -/
theorem lifting_unjustified :
    ∃ past now, Plays .clocked (.atRest pacedStart) past now ∧
      now.sched.phase = .cancelled ∧ now.sched.cycle = 2 ∧
      cancellations past = [⟨2, false, false, true⟩] ∧
      ¬∀ g ∈ cancellations past, g.Justified := by
  obtain ⟨past, now, played, facts⟩ := exists_of_play? .clocked (.atRest pacedStart)
    [.move (.cue [] (some 1)), .work, .work, .move (.cue [.command (.leaf "pu" [] none)] none),
      .work, .work, .move .finish, .work, .work, .work, .move (.raise (.breakdown "x")), .work,
      .work, .work, .work]
    (fun past now => decide (now.sched.phase = .cancelled ∧ now.sched.cycle = 2 ∧
      cancellations past = [⟨2, false, false, true⟩]))
    (by decide)
  obtain ⟨cancelled, second, only⟩ := of_decide_eq_true facts
  refine ⟨past, now, played, cancelled, second, only, fun justified => ?_⟩
  have called := (justified _ (only ▸ List.mem_singleton_self _)).2
  exact absurd called.symm Bool.false_ne_true

end Plays

end Turtle
