import Turtle.Proofs.Completion

/-!
# The traffic of the queue

A turn leaves the queue as it is, or it does one thing to it: the first command is taken out by a
step, a batch is put at the end, or what waits is thrown away when a cycle halts.  The phase moves
with it: only a batch that is taken in begins a cycle, and only a halt ends one.
-/

set_option autoImplicit false

namespace Turtle

namespace Scheduler

/-- The command that a step takes out of the queue. -/
def dequeued? (s : Scheduler) : Option Command :=
  if s.phase = .running ∧ s.live = true ∧ s.stack.isEmpty then s.queue.pending.head? else none

/-- A step that takes a command out of the queue does so even if it fails on the stack then. -/
theorem step_of_dequeued {s : Scheduler} {command : Command}
    (dequeued : s.dequeued? = some command) :
    s.phase = .running ∧ ∃ t : Scheduler, s.step = t.complete .dequeue command.location? ∧
      s.queue.next? = some (command, t.queue) := by
  obtain ⟨settings, phase, live, ⟨pending, cursor⟩, stack, journal, cycle, reports, callbacks,
    paced, generation, steps, registry, observers, timers, calls⟩ := s
  simp only [dequeued?] at dequeued
  split at dequeued
  · rename_i ready
    obtain ⟨rfl, rfl, empty⟩ := ready
    obtain rfl := List.isEmpty_iff.mp empty
    cases pending with
    | nil => simp at dequeued
    | cons first rest =>
      obtain rfl := Option.some.inj dequeued
      exact ⟨rfl, _, rfl, rfl⟩
  · simp at dequeued

theorem step_queue_of_undequeued {s : Scheduler} (undequeued : s.dequeued? = none) :
    s.step.1.queue = s.queue := by
  unfold step
  split
  · rfl
  · rename_i running
    split
    · rfl
    · rename_i live
      dsimp only
      split
      · rename_i frame below _
        obtain ⟨stack, journal, registry, framed⟩ :=
          ({ s with steps := s.steps + 1 } : Scheduler).advance_frame frame below
        rw [framed]
      · rename_i empty
        split
        · rfl
        · rename_i command rest found
          have ready : s.phase = .running ∧ s.live = true ∧ s.stack.isEmpty = true := by
            simpa [empty] using And.intro running live
          rw [dequeued?, if_pos ready] at undequeued
          have none : s.queue.next? = none := by
            rw [CommandQueue.next?, List.head?_eq_none_iff.mp undequeued]
          rw [none] at found
          contradiction

/-- Two schedulers are in the same phase of the same cycle, and the same commands wait. -/
structure Alike (s t : Scheduler) : Prop where
  phase_eq : t.phase = s.phase
  cycle_eq : t.cycle = s.cycle
  queue_eq : t.queue = s.queue

theorem Alike.trans {s t u : Scheduler} (first : Alike s t) (second : Alike t u) : Alike s u :=
  ⟨second.phase_eq.trans first.phase_eq, second.cycle_eq.trans first.cycle_eq,
    second.queue_eq.trans first.queue_eq⟩

theorem Noted.alike {s t : Scheduler} (noted : Noted s t) : Alike s t := by
  obtain ⟨journal, reports, calls, rfl⟩ := noted
  exact ⟨rfl, rfl, rfl⟩

end Scheduler

namespace Engine

open Scheduler

/-- The batch that a turn takes in: by the cue itself or, if a stopped cycle had to end first, after
that. -/
def batch? (e : Engine) (turn : Turn) : Option (List Command) :=
  match turn, e.tasks, e.signal with
  | .work, .cueing batch _ :: _, .returned => if e.sched.admits then some batch else none
  | .move (.cue entries _), _, _ =>
    match commands entries with
    | .error _ => none
    | .ok batch =>
      if e.sched.phase = .running ∧ e.sched.live = false then none
      else if e.sched.admits then some batch else none
  | _, _, _ => none

/-- The command that a turn takes out of the queue. -/
def taken? (e : Engine) (turn : Turn) : Option Command :=
  (e.stepping? turn).bind Scheduler.dequeued?

/-- What a turn does to the queue and to the phase. -/
inductive Traffic (e : Engine) (turn : Turn) (next : Engine) : Prop where
  | keep (unasked : e.batch? turn = none) (untaken : e.taken? turn = none)
    (same : Alike e.sched next.sched) : Traffic e turn next
  | take (command : Command) (unasked : e.batch? turn = none)
    (taken : e.taken? turn = some command) (running : e.sched.phase = .running)
    (phase_eq : next.sched.phase = e.sched.phase) (cycle_eq : next.sched.cycle = e.sched.cycle)
    (first : e.sched.queue.next? = some (command, next.sched.queue)) : Traffic e turn next
  | join (batch : List Command) (asked : e.batch? turn = some batch)
    (untaken : e.taken? turn = none) (running : e.sched.phase = .running)
    (phase_eq : next.sched.phase = e.sched.phase) (cycle_eq : next.sched.cycle = e.sched.cycle)
    (queue_eq : next.sched.queue =
      e.sched.queue.append (batch.filter fun command => !command.isDefinition)) :
    Traffic e turn next
  | begin (batch : List Command) (asked : e.batch? turn = some batch)
    (untaken : e.taken? turn = none) (rests : e.sched.phase ≠ .running)
    (running : next.sched.phase = .running) (cycle_eq : next.sched.cycle = e.sched.cycle + 1)
    (queue_eq : next.sched.queue =
      e.sched.queue.append (batch.filter fun command => !command.isDefinition)) :
    Traffic e turn next
  | close (unasked : e.batch? turn = none) (untaken : e.taken? turn = none)
    (running : e.sched.phase = .running)
    (ended : next.sched.phase = .exhausted ∨ next.sched.phase = .cancelled)
    (spent : next.sched.phase = .exhausted → e.sched.queue.pending = [])
    (cycle_eq : next.sched.cycle = e.sched.cycle)
    (queue_eq : next.sched.queue = e.sched.queue.clear)
    (halts : ∃ s tasks, s.phase = .running ∧ next = halt s next.sched.phase tasks) :
    Traffic e turn next

variable {rules : Rules} {e next : Engine} {turn : Turn} {s : Scheduler} {tasks : List Task}

theorem traffic_of_halt {phase : Phase} (unasked : e.batch? turn = none)
    (untaken : e.taken? turn = none) (before : Alike e.sched s)
    (ended : phase = .exhausted ∨ phase = .cancelled)
    (spent : phase = .exhausted → e.sched.queue.pending = []) :
    Traffic e turn (halt s phase tasks) := by
  by_cases running : s.phase = .running
  · have halted : (halt s phase tasks).sched = (s.endCycle phase).1 := by
      rw [halt_of_running running, announce_sched]
    have phase_eq : (halt s phase tasks).sched.phase = phase := by
      rw [halted]
      rfl
    apply Traffic.close unasked untaken (before.phase_eq.symm.trans running)
    · rw [phase_eq]
      exact ended
    · rw [phase_eq]
      exact spent
    · rw [halted]
      exact before.cycle_eq
    · rw [halted, ← before.queue_eq]
      rfl
    · rw [phase_eq]
      exact ⟨s, tasks, running, rfl⟩
  · rw [halt_of_rest running]
    exact .keep unasked untaken before

theorem traffic_of_takeStep (stepping : e.stepping? turn = some s) (before : Alike e.sched s)
    (unasked : e.batch? turn = none) : Traffic e turn (takeStep s tasks) := by
  have taken : e.taken? turn = s.dequeued? := by
    rw [taken?, stepping]
    rfl
  have phase_eq := s.step_phase
  have cycle_eq := s.step_cycle
  cases dequeued : s.dequeued? with
  | some command =>
    obtain ⟨running, t, stepped, first⟩ := step_of_dequeued dequeued
    have noted : Noted s.step.1 (takeStep s tasks).sched :=
      (takeStep_noted s tasks).resolve_right fun ⟨next, phase, halts, _⟩ =>
        (complete_goes_on t _ _).1 phase (congrArg Prod.snd (stepped.symm.trans halts))
    obtain ⟨journal, framed⟩ := complete_frame t .dequeue command.location?
    have alike := noted.alike
    apply Traffic.take command unasked (taken.trans dequeued)
    · exact before.phase_eq.symm.trans running
    · exact alike.phase_eq.trans (phase_eq.trans before.phase_eq)
    · exact alike.cycle_eq.trans (cycle_eq.trans before.cycle_eq)
    · rw [← before.queue_eq, alike.queue_eq, stepped, framed]
      exact first
  | none =>
    have untaken := taken.trans dequeued
    have queue_eq := step_queue_of_undequeued dequeued
    have alike : Alike e.sched s.step.1 := before.trans ⟨phase_eq, cycle_eq, queue_eq⟩
    rcases takeStep_noted s tasks with noted | ⟨after, phase, stepped, halts⟩
    · exact .keep unasked untaken (alike.trans noted.alike)
    · rw [stepped] at alike
      rw [halts]
      rcases (step_eq_halt stepped).2 with ⟨_, rfl, _⟩ | ⟨_, rfl, _, none, _⟩
      · exact traffic_of_halt unasked untaken alike (Or.inr rfl) Phase.noConfusion
      · have empty : s.queue.size = 0 := (CommandQueue.next?_eq_none_iff _).mp none
        rw [before.queue_eq] at empty
        apply traffic_of_halt unasked untaken alike (Or.inl rfl)
        intro _
        exact List.length_eq_zero_iff.mp empty

theorem traffic_of_receive {batch : List Command} {callback? : Option Nat}
    (asked : e.batch? turn = if e.sched.admits then some batch else none)
    (untaken : e.taken? turn = none) :
    Traffic e turn (receive e.sched batch callback? tasks) := by
  by_cases running : e.sched.phase = .running
  · have admits : e.sched.admits = true := by simp [admits, running]
    rw [if_pos admits] at asked
    rw [receive, if_pos running]
    exact .join batch asked untaken running rfl rfl rfl
  · rw [receive, if_neg running]
    by_cases clockless : (e.sched.settings.animate && !e.sched.settings.clocked) = true
    · have refuses : ¬e.sched.admits = true := by simp [admits, running, clockless]
      rw [if_neg refuses] at asked
      rw [if_pos clockless]
      exact .keep asked untaken ⟨rfl, rfl, rfl⟩
    · have admits : e.sched.admits = true := by
        rw [Bool.not_eq_true] at clockless
        simp [admits, clockless]
      rw [if_pos admits] at asked
      rw [if_neg clockless]
      apply Traffic.begin batch asked untaken running
      all_goals
        rw [announce_sched]
        rfl

theorem Acts.traffic (acts : Acts rules e turn next) : Traffic e turn next := by
  have alike : ∀ {s : Scheduler}, Alike s s := ⟨rfl, rfl, rfl⟩
  cases acts with
  | receive => exact traffic_of_receive rfl rfl
  | start => exact traffic_of_takeStep rfl alike rfl
  | goOn => exact traffic_of_takeStep rfl alike rfl
  | leaveOff => exact .keep rfl rfl alike
  | cancel => exact traffic_of_halt rfl rfl alike (Or.inr rfl) Phase.noConfusion
  | rethrow => exact .keep rfl rfl alike
  | tell =>
    apply Traffic.keep rfl rfl
    rw [tell_sched]
    exact alike
  | complain => exact .keep rfl rfl (report_noted _ _ _).alike
  | tellFault =>
    apply Traffic.keep rfl rfl
    rw [tellFault_sched]
    exact alike
  | giveUp => exact .keep rfl rfl ⟨rfl, rfl, rfl⟩
  | paint => exact .keep rfl rfl (paint_noted _ _ _ _ _).alike
  | spoil => exact .keep rfl rfl (report_noted _ _ _).alike
  | pause =>
    apply Traffic.keep rfl rfl
    unfold Engine.pause
    split <;> exact ⟨rfl, rfl, rfl⟩
  | settle =>
    apply Traffic.keep rfl rfl
    rw [settle_sched]
    exact alike
  | answer => exact .keep rfl rfl alike
  | pass s task failure tasks passes =>
    cases passes <;> exact .keep rfl rfl alike
  | refuse s site tasks signal entries callback? failure allowed refused =>
    have unasked : batch? ⟨s, .foreign site :: tasks, signal⟩ (.move (.cue entries callback?)) =
        none := by
      simp [batch?, refused]
    exact .keep unasked rfl alike
  | supersede s site tasks signal entries callback? batch allowed coerced running stopped =>
    have unasked : batch? ⟨s, .foreign site :: tasks, signal⟩ (.move (.cue entries callback?)) =
        none := by
      simp [batch?, coerced, running, stopped]
    exact traffic_of_halt unasked rfl alike (Or.inr rfl) Phase.noConfusion
  | cue s site tasks signal entries callback? batch allowed coerced unstopped =>
    have other : ¬(s.phase = .running ∧ s.live = false) := by
      rintro ⟨running, stopped⟩
      rw [unstopped running] at stopped
      contradiction
    refine traffic_of_receive ?_ rfl
    simp [batch?, coerced, other]
  | stop => exact .keep rfl rfl ⟨rfl, rfl, rfl⟩
  | step => exact traffic_of_takeStep rfl alike rfl
  | idle s site tasks signal position allowed missing =>
    refine .keep rfl ?_ alike
    simp [taken?, stepping?, missing]
  | expire s site tasks signal position timer allowed found stale =>
    refine .keep rfl ?_ ⟨rfl, rfl, rfl⟩
    simp [taken?, stepping?, found, stale]
  | resume s site tasks signal position timer allowed found current =>
    refine traffic_of_takeStep ?_ ⟨rfl, rfl, rfl⟩ rfl
    simp [stepping?, found, current]
  | attach => exact .keep rfl rfl ⟨rfl, rfl, rfl⟩
  | define => exact .keep rfl rfl ⟨rfl, rfl, rfl⟩
  | finish => exact .keep rfl rfl alike
  | raise => exact .keep rfl rfl alike

end Engine

/-- How the phase moves in a turn, and the cycle with it. -/
inductive Moment.Shifts (m : Moment) : Prop where
  | stays (phase_eq : m.after.sched.phase = m.before.sched.phase)
    (cycle_eq : m.after.sched.cycle = m.before.sched.cycle) : Shifts m
  /-- A batch is taken in while no cycle is running. -/
  | begins (batch : List Command) (cued : m.before.batch? m.turn = some batch)
    (rests : m.before.sched.phase ≠ .running) (running : m.after.sched.phase = .running)
    (cycle_eq : m.after.sched.cycle = m.before.sched.cycle + 1) : Shifts m
  | halts (running : m.before.sched.phase = .running)
    (ended : m.after.sched.phase = .exhausted ∨ m.after.sched.phase = .cancelled)
    (cycle_eq : m.after.sched.cycle = m.before.sched.cycle)
    (halted : ∃ s tasks, s.phase = .running ∧
      m.after = Engine.halt s m.after.sched.phase tasks) : Shifts m

namespace Plays

open Engine

variable {rules : Rules} {settings : Settings} {journal : Journal StepEvent}
  {registry : Registry} {past : List Moment} {now : Engine}

theorem unended_of_phase {e next : Engine} (turn : Turn)
    (same : next.sched.phase = e.sched.phase) : (Moment.mk e turn next).ended? = none := by
  apply if_neg
  rintro ⟨running, rests⟩
  exact rests (same.trans running)

theorem unended_of_rest {e : Engine} (turn : Turn) (next : Engine)
    (rests : e.sched.phase ≠ .running) : (Moment.mk e turn next).ended? = none :=
  if_neg fun both => rests both.1

theorem rests_of_ended {phase : Phase} (ended : phase = .exhausted ∨ phase = .cancelled) :
    phase ≠ .running := by
  rcases ended with rfl | rfl
  · exact Phase.noConfusion
  · exact Phase.noConfusion

theorem ended_of_rest {e next : Engine} (turn : Turn) (running : e.sched.phase = .running)
    (rests : next.sched.phase ≠ .running) :
    (Moment.mk e turn next).ended? =
      some ⟨next.sched.phase, next.sched.cycle, next.sched.steps⟩ :=
  if_pos ⟨running, rests⟩

theorem shifts_of_traffic {e next : Engine} {turn : Turn} (traffic : Traffic e turn next) :
    (Moment.mk e turn next).Shifts := by
  cases traffic with
  | keep _ _ same => exact .stays same.phase_eq same.cycle_eq
  | take _ _ _ _ phase_eq cycle_eq => exact .stays phase_eq cycle_eq
  | join _ _ _ _ phase_eq cycle_eq => exact .stays phase_eq cycle_eq
  | begin batch asked _ rests running cycle_eq => exact .begins batch asked rests running cycle_eq
  | close _ _ running ended _ cycle_eq _ halts => exact .halts running ended cycle_eq halts

/-- Whatever foreign code does, and at every point of a play: a cycle that has not been asked to
stop is running; while none is running nothing is left on the stack, in the queue, of the callbacks
or of the clock; and the phase moves only when a batch begins a cycle or a halt ends one. -/
theorem orderly (played : Plays rules (.atRest (.fresh settings journal registry)) past now) :
    (now.sched.live = true → now.sched.phase = .running) ∧
      (now.sched.phase ≠ .running →
        now.sched.stack = [] ∧ now.sched.queue.pending = [] ∧ now.sched.callbacks = [] ∧
          now.sched.paced = false) ∧
      ∀ m ∈ past, m.Shifts := by
  have tidy := played.tidy
  refine ⟨tidy.live_running, ?_, ?_⟩
  · intro rests
    have unpaced : now.sched.paced = false := by
      rw [Bool.eq_false_iff]
      intro paced
      exact rests (tidy.paced_running paced).1
    exact ⟨tidy.stack_eq rests, tidy.waiting_eq rests, tidy.callbacks_eq rests, unpaced⟩
  · refine played.by_acts (fun past _ => ∀ m ∈ past, m.Shifts) ?_ ?_
    · intro m member
      exact absurd member List.not_mem_nil
    · intro past e turn next _ _ acts before m member
      rcases List.mem_cons.mp member with rfl | earlier
      · exact shifts_of_traffic acts.traffic
      · exact before m earlier

/-- The drawing breaks down while another command waits, and someone who watches the end of the
cycle finds nothing left of it. -/
theorem broken_orderly :
    ∃ past now, Plays .free (.atRest plainStart) past now ∧ ¬now.Outside ∧
      now.sched.phase = .cancelled ∧ now.sched.live = false ∧ now.sched.stack = [] ∧
      now.sched.queue.pending = [] ∧ now.sched.callbacks = [] ∧ now.sched.paced = false ∧
      ∀ m ∈ past, m.Shifts := by
  obtain ⟨past, now, played, facts⟩ := exists_of_play? .free (.atRest plainStart)
    [.move (.attach .programEnd 0),
      .move (.cue (List.replicate 2 (.command (.leaf "pu" [] none))) (some 0)), .work, .work,
      .move (.raise .noClock), .work, .work]
    (fun past now => decide (¬now.Outside ∧ now.sched.phase = .cancelled))
    (by decide)
  obtain ⟨inside, cancelled⟩ := of_decide_eq_true facts
  obtain ⟨live_running, left, shifts⟩ := orderly played
  have rests : now.sched.phase ≠ .running := by
    rw [cancelled]
    exact Phase.noConfusion
  obtain ⟨stack_eq, waiting_eq, callbacks_eq, unpaced⟩ := left rests
  have stopped : now.sched.live = false := by
    rw [Bool.eq_false_iff]
    exact fun live => rests (live_running live)
  exact ⟨past, now, played, inside, cancelled, stopped, stack_eq, waiting_eq, callbacks_eq,
    unpaced, shifts⟩

end Plays

end Turtle
