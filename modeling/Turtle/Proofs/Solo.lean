import Turtle.Proofs.Attending
import Turtle.Proofs.Books
import Turtle.Proofs.Obliging
import Turtle.Proofs.Recording

/-!
# Runs that are left alone

The run of a batch that nobody watches, without pauses, from the start of its cycle to the end: what
lies on the stack of tasks all along, what is written into the journal, and that each callback is
called once, with the result of the cycle, when the cycle has ended.
-/

set_option autoImplicit false

namespace Turtle

namespace Scheduler

/-- A scheduler without pauses, that nobody watches and that waits for no clock. -/
structure Quiet (s : Scheduler) : Prop where
  plain : s.settings.animate = false
  unobserved : s.observers = []
  untimed : s.timers = []

structure Going (callbacks : List Nat) (s : Scheduler) : Prop extends Quiet s where
  running : s.phase = .running
  callbacks_eq : s.callbacks = callbacks

structure Over (result : RunResult) (s : Scheduler) : Prop extends Quiet s where
  rests : s.phase ≠ .running
  result_eq : result = ⟨s.phase, s.cycle, s.steps⟩

end Scheduler

namespace Engine

/-- What is left when a cycle ends: its last step, or the failure that has cancelled it. -/
inductive Left : List Task → Prop where
  | step : Left (.stepped false :: loop)
  | failure (failure : Failure) : Left [.rethrow failure, .foreign .outside]

/-- A primitive has been drawn, and its step is about to end. -/
def isPausing (e : Engine) : Bool :=
  match e.tasks with
  | .pausing :: _ => true
  | _ => false

/-- A run that is left alone, from the start of a cycle with some callbacks to the end, by the calls
of callbacks so far. -/
inductive Solo (callbacks : List Nat) : List (Nat × RunResult) → Engine → Prop where
  | starting {s : Scheduler} : s.Going callbacks →
    Solo callbacks [] ⟨s, [.starting, .foreign .outside], .returned⟩
  | stepping {s : Scheduler} : s.Going callbacks → Solo callbacks [] ⟨s, loop, .answered true⟩
  | failing {s : Scheduler} (failure : Failure) : s.Going callbacks →
    Solo callbacks [] ⟨s, loop, .raised failure⟩
  | drawing {s : Scheduler} (call : Call) (leaf : Command) (primitive : Primitive)
    (rest : List Call) (signal : Signal) : s.Going callbacks →
    Solo callbacks []
      ⟨s, .foreign (.drawing call) :: .painting leaf primitive rest :: loop, signal⟩
  | painting {s : Scheduler} (leaf : Command) (primitive : Primitive) (rest : List Call) :
    s.Going callbacks → Solo callbacks [] ⟨s, .painting leaf primitive rest :: loop, .returned⟩
  | spoilt {s : Scheduler} (leaf : Command) (primitive : Primitive) (rest : List Call)
    (failure : Failure) : s.Going callbacks →
    Solo callbacks [] ⟨s, .painting leaf primitive rest :: loop, .raised failure⟩
  | pausing {s : Scheduler} : s.Going callbacks → Solo callbacks [] ⟨s, .pausing :: loop, .returned⟩
  | stepped {s : Scheduler} : s.Going callbacks →
    Solo callbacks [] ⟨s, .stepped true :: loop, .returned⟩
  | thwarted {s : Scheduler} (failure : Failure) : s.Going callbacks →
    Solo callbacks [] ⟨s, .stepped true :: loop, .raised failure⟩
  | settling {s : Scheduler} {result : RunResult} {tasks : List Task}
    {called : List (Nat × RunResult)} (rest : List Nat) : s.Over result → Left tasks →
    called ++ rest.map (fun id => (id, result)) = callbacks.map (fun id => (id, result)) →
    Solo callbacks called ⟨s, .settling result rest :: tasks, .returned⟩
  | calling {s : Scheduler} {result : RunResult} {tasks : List Task}
    {called : List (Nat × RunResult)} (id : Nat) (rest : List Nat) : s.Over result → Left tasks →
    called ++ rest.map (fun id => (id, result)) = callbacks.map (fun id => (id, result)) →
    Solo callbacks called
      ⟨s, .foreign (.callback id result) :: .settling result rest :: tasks, .called⟩
  | left {s : Scheduler} {result : RunResult} {tasks : List Task} : s.Over result → Left tasks →
    Solo callbacks (callbacks.map fun id => (id, result)) ⟨s, tasks, .returned⟩
  | leaving {s : Scheduler} {result : RunResult} : s.Over result →
    Solo callbacks (callbacks.map fun id => (id, result)) ⟨s, loop, .answered false⟩
  | outside {s : Scheduler} {result : RunResult} (signal : Signal) : s.Over result →
    Solo callbacks (callbacks.map fun id => (id, result)) ⟨s, [.foreign .outside], signal⟩

/-- What a turn of a run that is left alone leads to: the run goes on, and a primitive is entered
into the journal if its step is about to end. -/
structure Goes (callbacks : List Nat) (called : List (Nat × RunResult)) (before : Scheduler)
    (next : Engine) : Prop where
  solo : Solo callbacks (called ++ next.calling?.toList) next
  logs : before.logsPrimitive next.sched = next.isPausing

variable {callbacks : List Nat} {called : List (Nat × RunResult)} {s t : Scheduler}

theorem goes_settle {result : RunResult} {tasks : List Task} {rest : List Nat}
    (ended : t.Over result) (left : Left tasks)
    (whole : called ++ rest.map (fun id => (id, result)) =
      callbacks.map (fun id => (id, result)))
    (unlogged : s.logsPrimitive t = false) :
    Goes callbacks called s (settle t result tasks rest) := by
  cases rest with
  | nil =>
    rw [List.map_nil, List.append_nil] at whole
    subst whole
    cases left with
    | step => exact ⟨by simpa [settle, calling?, loop] using .left ended .step, unlogged⟩
    | failure failure =>
      exact ⟨by simpa [settle, calling?] using .left ended (.failure failure), unlogged⟩
  | cons id rest =>
    refine ⟨.calling id rest ended left ?_, unlogged⟩
    rw [List.map_cons] at whole
    rw [← whole]
    simp [settle, calling?]

theorem goes_halt {phase : Phase} {tasks : List Task} (going : t.Going callbacks)
    (rests : phase ≠ .running) (left : Left tasks) (same : t.journal = s.journal) :
    Goes callbacks [] s (halt t phase tasks) := by
  have unobserved : (t.endCycle phase).1.observers = [] := going.unobserved
  have ended : (t.endCycle phase).1.Over ⟨phase, t.cycle, t.steps⟩ := {
    plain := going.plain
    unobserved := unobserved
    untimed := going.untimed
    rests := rests
    result_eq := rfl }
  have unlogged : s.logsPrimitive (halt t phase tasks).sched = false :=
    Scheduler.logsPrimitive_of_writes (same ▸ halt_writes going.running phase)
  rw [halt_of_running going.running, announce_of_unobserved unobserved] at unlogged ⊢
  refine ⟨.settling _ ended left ?_, unlogged⟩
  rw [← going.callbacks_eq]
  rfl

theorem goes_paint {leaf : Command} {primitive : Primitive} {calls : List Call}
    (going : t.Going callbacks) (same : t.journal = s.journal) :
    Goes callbacks [] s (paint t leaf primitive loop calls) := by
  cases calls with
  | nil =>
    by_cases recordable : t.Recordable
    · have logs : s.logsPrimitive (paint t leaf primitive loop []).sched = true :=
        Scheduler.logsPrimitive_of_writes (same ▸ paint_writes recordable leaf primitive [])
      obtain ⟨stack?, recorded⟩ := recordable
      have unobserved :
          (t.enter (.primitive primitive.name) leaf.location? stack?).observers = [] :=
        going.unobserved
      rw [paint_nil_of_snapshot recorded, announce_of_unobserved unobserved] at logs ⊢
      exact ⟨.pausing { going with }, logs⟩
    · rw [paint_nil_of_unrecordable recordable]
      exact ⟨.failing _ going, Scheduler.logsPrimitive_of_same same⟩
  | cons call rest =>
    exact ⟨.drawing call leaf primitive rest .called { going with },
      Scheduler.logsPrimitive_of_same same⟩

theorem goes_report {fault : Fault} (going : t.Going callbacks) (same : t.journal = s.journal) :
    Goes callbacks [] s (report t fault (.stepped true :: loop)) := by
  by_cases recordable : t.Recordable
  · have unlogged : s.logsPrimitive (report t fault (.stepped true :: loop)).sched = false :=
      Scheduler.logsPrimitive_of_writes (same ▸ report_writes recordable fault)
    obtain ⟨stack?, recorded⟩ := recordable
    rw [report_of_unobserved going.unobserved recorded] at unlogged ⊢
    exact ⟨.stepped { going with }, unlogged⟩
  · rw [report_of_unrecordable recordable]
    exact ⟨.thwarted _ going, Scheduler.logsPrimitive_of_same same⟩

theorem goes_takeStep (going : s.Going callbacks) : Goes callbacks [] s (takeStep s loop) := by
  obtain ⟨after, work, stepped⟩ : ∃ after work, s.step = (after, work) := ⟨_, _, rfl⟩
  have frame := s.step_frame
  have writes := s.step_writes
  rw [stepped] at frame writes
  obtain ⟨queue, stack, log, steps, registry, frame⟩ := frame
  have going' : after.Going callbacks := by
    rw [show after = _ from frame]
    exact { going with }
  -- A step that leaves anything to be done has not written anything.
  have unwritten : work ≠ .answer true → after.journal = s.journal := fun other =>
    (writes.resolve_right fun written => other written.1).2
  rw [takeStep, stepped]
  cases work with
  | answer more =>
    cases more with
    | true =>
      refine ⟨.stepping going', ?_⟩
      rcases writes with ⟨_, same⟩ | ⟨_, event, written, other, _⟩
      · exact Scheduler.logsPrimitive_of_same same
      · exact (Scheduler.logsPrimitive_of_writes written).trans other
    | false => exact absurd going.running (Scheduler.step_eq_answer_false stepped)
  | draw leaf primitive calls => exact goes_paint going' (unwritten Work.noConfusion)
  | report fault => exact goes_report going' (unwritten Work.noConfusion)
  | halt phase =>
    have rests : phase ≠ .running := Scheduler.rests_of_step_eq_halt stepped
    exact goes_halt going' rests .step (unwritten Work.noConfusion)
  | fail failure =>
    refine ⟨.failing failure going', ?_⟩
    exact Scheduler.logsPrimitive_of_same (unwritten Work.noConfusion)

theorem Solo.quiet {e : Engine} (solo : Solo callbacks called e) : e.sched.Quiet := by
  cases solo with
  | starting going => exact going.toQuiet
  | stepping going => exact going.toQuiet
  | failing _ going => exact going.toQuiet
  | drawing _ _ _ _ _ going => exact going.toQuiet
  | painting _ _ _ going => exact going.toQuiet
  | spoilt _ _ _ _ going => exact going.toQuiet
  | pausing going => exact going.toQuiet
  | stepped going => exact going.toQuiet
  | thwarted _ going => exact going.toQuiet
  | settling _ ended => exact ended.toQuiet
  | calling _ _ ended => exact ended.toQuiet
  | left ended => exact ended.toQuiet
  | leaving ended => exact ended.toQuiet
  | outside _ ended => exact ended.toQuiet

/-- A call of the drawing leads back to the drawing, if it stops the cycle, and to the primitive
otherwise. -/
theorem goes_draw (manner : Manner) (going : s.Going callbacks) (call : Call) (leaf : Command)
    (primitive : Primitive) (rest : List Call) (signal : Signal) :
    Goes callbacks [] s (perform
      ⟨s, .foreign (.drawing call) :: .painting leaf primitive rest :: loop, signal⟩
      (manner.move signal)) := by
  have left : Goes callbacks [] s (perform
      ⟨s, .foreign (.drawing call) :: .painting leaf primitive rest :: loop, signal⟩
      manner.leave) := by
    unfold Manner.leave
    split
    · exact ⟨.painting leaf primitive rest going, Scheduler.logsPrimitive_of_same rfl⟩
    · exact ⟨.spoilt leaf primitive rest _ going, Scheduler.logsPrimitive_of_same rfl⟩
  unfold Manner.move
  split
  · split
    · refine ⟨?_, Scheduler.logsPrimitive_of_same rfl⟩
      exact .drawing call leaf primitive rest .returned { going with }
    · exact left
  · exact left

/-- A run that is left alone goes on until it is outside again. -/
theorem Solo.goes {e : Engine} (solo : Solo callbacks called e) (manner : Nat → Manner) :
    e.Outside ∧ e.moment? manner = none ∨
      ∃ turn next, e.moment? manner = some ⟨e, turn, next⟩ ∧
        Goes callbacks called e.sched next := by
  have unlogged : e.sched.logsPrimitive e.sched = false := Scheduler.logsPrimitive_of_same rfl
  cases solo with
  | starting going => exact Or.inr ⟨_, _, moment?_of_next rfl, goes_takeStep going⟩
  | stepping going => exact Or.inr ⟨_, _, moment?_of_next rfl, goes_takeStep going⟩
  | failing failure going =>
    refine Or.inr ⟨_, _, moment?_of_next rfl, ?_⟩
    exact goes_halt going Phase.noConfusion (.failure failure) rfl
  | drawing call leaf primitive rest signal going =>
    exact Or.inr ⟨_, _, moment?_of_answer rfl, goes_draw _ going ..⟩
  | painting leaf primitive rest going =>
    exact Or.inr ⟨_, _, moment?_of_next rfl, goes_paint going rfl⟩
  | spoilt leaf primitive rest failure going =>
    cases failure with
    | fault fault => exact Or.inr ⟨_, _, moment?_of_next rfl, goes_report going rfl⟩
    | _ => exact Or.inr ⟨_, _, moment?_of_next rfl, .failing _ going, unlogged⟩
  | pausing going =>
    refine Or.inr ⟨_, _, moment?_of_next rfl, ?_⟩
    dsimp only
    rw [pause_of_plain going.plain]
    exact ⟨.stepping going, unlogged⟩
  | stepped going => exact Or.inr ⟨_, _, moment?_of_next rfl, .stepping going, unlogged⟩
  | thwarted failure going => exact Or.inr ⟨_, _, moment?_of_next rfl, .failing _ going, unlogged⟩
  | settling rest ended left whole =>
    exact Or.inr ⟨_, _, moment?_of_next rfl, goes_settle ended left whole unlogged⟩
  | calling id rest ended left whole =>
    refine Or.inr ⟨_, _, moment?_of_answer rfl, ?_, unlogged⟩
    simpa [calling?, perform] using Solo.settling rest ended left whole
  | left ended left =>
    cases left with
    | step =>
      refine Or.inr ⟨_, _, moment?_of_next rfl, ?_, unlogged⟩
      simpa [calling?, loop] using Solo.leaving ended
    | failure failure =>
      refine Or.inr ⟨_, _, moment?_of_next rfl, ?_, unlogged⟩
      simpa [calling?] using Solo.outside (.raised failure) ended
  | leaving ended =>
    refine Or.inr ⟨_, _, moment?_of_next rfl, ?_, unlogged⟩
    simpa [calling?] using Solo.outside .returned ended
  | outside signal ended =>
    refine Or.inl ⟨rfl, ?_⟩
    simp [moment?, next?, answer?, site?, ended.untimed]

end Engine

end Turtle
