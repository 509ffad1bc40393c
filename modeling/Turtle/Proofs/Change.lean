import Mathlib.Logic.Relation
import Turtle.Proofs.Play

/-!
# Changes of a scheduler

Whatever a play is about, its scheduler changes in a few ways only.  Each of them is a change, and a
turn is some changes one after another.  So a property of schedulers holds in every play if it holds
at the start and each change keeps it.
-/

set_option autoImplicit false

namespace Turtle

open Relation

namespace Scheduler

theorem complete_frame (s : Scheduler) (event : StepEvent) (at? : Option Location) :
    ∃ journal, (s.complete event at?).1 = { s with journal := journal } := by
  rcases s.complete_cases event at? with ⟨stack?, _, completed⟩ | ⟨_, completed⟩
  · exact ⟨_, by rw [completed]; rfl⟩
  · exact ⟨s.journal, by rw [completed]⟩

@[simp] theorem complete_stack (s : Scheduler) (event : StepEvent) (at? : Option Location) :
    (s.complete event at?).1.stack = s.stack := by
  obtain ⟨journal, framed⟩ := s.complete_frame event at?
  rw [framed]

@[simp] theorem complete_registry (s : Scheduler) (event : StepEvent) (at? : Option Location) :
    (s.complete event at?).1.registry = s.registry := by
  obtain ⟨journal, framed⟩ := s.complete_frame event at?
  rw [framed]

theorem operate_frame (s : Scheduler) (op : String) (args : List String) (at? : Option Location) :
    ∃ stack journal,
      (s.operate op args at?).1 = { s with stack := stack, journal := journal } := by
  unfold operate
  split
  · split
    · exact ⟨_, _, rfl⟩
    · obtain ⟨journal, framed⟩ := complete_frame { s with stack := Frame.load _ s.stack } _ _
      exact ⟨_, _, framed⟩
  · split
    · exact ⟨_, _, rfl⟩
    · split <;> exact ⟨_, _, rfl⟩

theorem advance_frame (s : Scheduler) (frame : Frame) (below : List Frame) :
    ∃ stack journal registry,
      (s.advance frame below).1 =
        { s with stack := stack, journal := journal, registry := registry } := by
  unfold advance
  split
  · split
    · split
      · obtain ⟨journal, framed⟩ := complete_frame { s with stack := _ } _ _
        exact ⟨_, _, _, framed⟩
      · obtain ⟨journal, framed⟩ := complete_frame { s with stack := below } _ _
        exact ⟨_, _, _, framed⟩
    · exact ⟨_, _, _, rfl⟩
  · obtain ⟨journal, framed⟩ :=
      complete_frame (({ s with stack := below } : Scheduler).define _ _ _) _ _
    exact ⟨_, _, _, framed⟩
  · exact ⟨_, _, _, rfl⟩
  · rename_i op args at? _
    obtain ⟨stack, journal, framed⟩ :=
      ({ s with stack := below } : Scheduler).operate_frame op args at?
    exact ⟨stack, journal, s.registry, framed⟩

/-- A step has to do with what is being carried out, and with nothing else. -/
theorem step_frame (s : Scheduler) :
    ∃ queue stack journal steps registry,
      s.step.1 =
        { s with
          queue := queue, stack := stack, journal := journal, steps := steps,
          registry := registry } := by
  unfold step
  split
  · exact ⟨_, _, _, _, _, rfl⟩
  split
  · exact ⟨_, _, _, _, _, rfl⟩
  dsimp only
  split
  · rename_i frame below _
    obtain ⟨stack, journal, registry, framed⟩ :=
      ({ s with steps := s.steps + 1 } : Scheduler).advance_frame frame below
    exact ⟨s.queue, stack, journal, s.steps + 1, registry, framed⟩
  · split
    · exact ⟨_, _, _, _, _, rfl⟩
    · obtain ⟨journal, framed⟩ :=
        complete_frame { s with steps := s.steps + 1, queue := _, stack := _ } _ _
      exact ⟨_, _, _, _, _, framed⟩

theorem step_of_rest {s : Scheduler} (rests : s.phase ≠ .running) :
    s.step = (s, .answer false) := by
  simp [step, rests]

theorem step_settings (s : Scheduler) : s.step.1.settings = s.settings := by
  obtain ⟨queue, stack, journal, steps, registry, frame⟩ := s.step_frame
  rw [frame]

theorem step_observers (s : Scheduler) : s.step.1.observers = s.observers := by
  obtain ⟨queue, stack, journal, steps, registry, frame⟩ := s.step_frame
  rw [frame]

theorem step_phase (s : Scheduler) : s.step.1.phase = s.phase := by
  obtain ⟨queue, stack, journal, steps, registry, frame⟩ := s.step_frame
  rw [frame]

theorem step_cycle (s : Scheduler) : s.step.1.cycle = s.cycle := by
  obtain ⟨queue, stack, journal, steps, registry, frame⟩ := s.step_frame
  rw [frame]

theorem endCycle_frame (s : Scheduler) (phase : Phase) :
    ∃ journal,
      (s.endCycle phase).1 =
        { s with
          phase := phase, live := false, queue := s.queue.clear, stack := [], journal := journal,
          callbacks := [], paced := false, generation := s.generation + 1 } :=
  ⟨_, rfl⟩

theorem complete_goes_on (s : Scheduler) (event : StepEvent) (at? : Option Location) :
    (∀ phase, (s.complete event at?).2 ≠ .halt phase) ∧
      (s.complete event at?).2 ≠ .answer false := by
  rcases s.complete_cases event at? with ⟨_, _, completed⟩ | ⟨_, completed⟩ <;> simp [completed]

/-- One unit of work on a frame neither ends the cycle nor asks its caller to leave off. -/
theorem advance_goes_on (s : Scheduler) (frame : Frame) (below : List Frame) :
    (∀ phase, (s.advance frame below).2 ≠ .halt phase) ∧
      (s.advance frame below).2 ≠ .answer false := by
  unfold advance
  split
  · split
    · split <;> exact complete_goes_on _ _ _
    · simp
  · exact complete_goes_on _ _ _
  · simp
  · unfold operate
    split
    · split
      · simp
      · exact complete_goes_on _ _ _
    · split
      · simp
      · split <;> simp

theorem step_eq_answer_false {s next : Scheduler} (answers : s.step = (next, .answer false)) :
    s.phase ≠ .running := by
  intro running
  unfold step at answers
  rw [if_neg (by simp [running])] at answers
  split at answers
  · simp at answers
  · dsimp only at answers
    split at answers
    · rename_i frame below _
      have never := (advance_goes_on { s with steps := s.steps + 1 } frame below).2
      exact never (congrArg Prod.snd answers)
    · split at answers
      · simp at answers
      · exact (complete_goes_on _ _ _).2 (congrArg Prod.snd answers)

theorem complete_ne_draw (s : Scheduler) (event : StepEvent) (at? : Option Location)
    (leaf : Command) (primitive : Primitive) (calls : List Call) :
    (s.complete event at?).2 ≠ .draw leaf primitive calls := by
  rcases s.complete_cases event at? with ⟨_, _, completed⟩ | ⟨_, completed⟩ <;> simp [completed]

theorem operate_eq_draw {s : Scheduler} {op : String} {args : List String} {at? : Option Location}
    {leaf : Command} {primitive : Primitive} {calls : List Call}
    (draws : (s.operate op args at?).2 = .draw leaf primitive calls) :
    leaf = .leaf op args at? ∧ s.registry.get? op = none ∧
      Primitive.ofWord? op = some primitive ∧ primitive.calls args = .ok calls := by
  unfold operate at draws
  split at draws
  · split at draws
    · contradiction
    · exact absurd draws (complete_ne_draw _ _ _ _ _ _)
  · rename_i undefined
    split at draws
    · contradiction
    · rename_i meant
      split at draws
      · contradiction
      · rename_i fit
        obtain ⟨rfl, rfl, rfl⟩ := Work.draw.inj draws
        exact ⟨rfl, undefined, meant, fit⟩

theorem advance_eq_draw {s : Scheduler} {frame : Frame} {below : List Frame} {leaf : Command}
    {primitive : Primitive} {calls : List Call}
    (draws : (s.advance frame below).2 = .draw leaf primitive calls) :
    ∃ op args at?, frame.command = .leaf op args at? ∧ leaf = .leaf op args at? ∧
      s.registry.get? op = none ∧ Primitive.ofWord? op = some primitive ∧
      primitive.calls args = .ok calls := by
  unfold advance at draws
  split at draws
  · split at draws
    · split at draws <;> exact absurd draws (complete_ne_draw _ _ _ _ _ _)
    · contradiction
  · exact absurd draws (complete_ne_draw _ _ _ _ _ _)
  · contradiction
  · rename_i same
    exact ⟨_, _, _, same, operate_eq_draw (s := { s with stack := below }) draws⟩

/-- What goes to the drawing is the topmost leaf, under whose name nothing is defined, and which
stands for a primitive with fitting arguments. -/
theorem step_eq_draw {s next : Scheduler} {leaf : Command} {primitive : Primitive}
    {calls : List Call} (draws : s.step = (next, .draw leaf primitive calls)) :
    s.phase = .running ∧ s.live = true ∧ ∃ frame below op args at?,
      s.stack = frame :: below ∧ frame.command = .leaf op args at? ∧ leaf = .leaf op args at? ∧
        s.registry.get? op = none ∧ Primitive.ofWord? op = some primitive ∧
        primitive.calls args = .ok calls := by
  replace draws : s.step.2 = .draw leaf primitive calls := congrArg Prod.snd draws
  unfold step at draws
  split at draws
  · contradiction
  split at draws
  · contradiction
  rename_i running live
  refine ⟨Decidable.not_not.mp running, by simpa using live, ?_⟩
  dsimp only at draws
  split at draws
  · rename_i frame below stacked
    obtain ⟨op, args, at?, found⟩ := advance_eq_draw draws
    exact ⟨frame, below, op, args, at?, stacked, found⟩
  · split at draws
    · contradiction
    · exact absurd draws (complete_ne_draw _ _ _ _ _ _)

/-- A step ends the cycle in two ways: as cancelled after a stop, and as exhausted when there is
nothing left to do. -/
theorem step_eq_halt {s next : Scheduler} {phase : Phase} (halts : s.step = (next, .halt phase)) :
    s.phase = .running ∧
      (s.live = false ∧ phase = .cancelled ∧ next = s ∨
        s.live = true ∧ phase = .exhausted ∧ s.stack = [] ∧ s.queue.next? = none ∧
          next = { s with steps := s.steps + 1 }) := by
  unfold step at halts
  split at halts
  · simp at halts
  · rename_i running
    refine ⟨by simpa using running, ?_⟩
    split at halts
    · rename_i stopped
      simp only [Prod.mk.injEq, Work.halt.injEq] at halts
      exact Or.inl ⟨by simpa using stopped, halts.2.symm, halts.1.symm⟩
    · rename_i live
      dsimp only at halts
      split at halts
      · rename_i frame below _
        have never := (advance_goes_on { s with steps := s.steps + 1 } frame below).1 phase
        exact absurd (congrArg Prod.snd halts) never
      · rename_i empty
        split at halts
        · rename_i none
          simp only [Prod.mk.injEq, Work.halt.injEq] at halts
          exact Or.inr ⟨by simpa using live, halts.2.symm, empty, none, halts.1.symm⟩
        · exact absurd (congrArg Prod.snd halts) ((complete_goes_on _ _ _).1 phase)

theorem rests_of_step_eq_halt {s next : Scheduler} {phase : Phase}
    (halts : s.step = (next, .halt phase)) : phase ≠ .running := by
  rcases (step_eq_halt halts).2 with ⟨_, rfl, _⟩ | ⟨_, rfl, _⟩
  · exact Phase.noConfusion
  · exact Phase.noConfusion

/-- The ways in which a scheduler changes. -/
inductive Change (s : Scheduler) : Scheduler → Prop where
  | stop : Change s s.stop
  | attach (event : Event) (observer : Nat) : Change s (s.attach event observer)
  | define (name : String) (params : List String) (body : List Command) :
    Change s (s.define name params body)
  | join (batch : List Command) (callback? : Option Nat) (running : s.phase = .running) :
    Change s (s.accept batch callback?)
  | begin (batch : List Command) (callback? : Option Nat) (rests : s.phase ≠ .running)
    (clocked : s.settings.animate = true → s.settings.clocked = true) :
    Change s (s.accept batch callback?).beginCycle
  | close (phase : Phase) (running : s.phase = .running)
    (ended : phase = .exhausted ∨ phase = .cancelled) : Change s (s.endCycle phase).1
  | step : Change s s.step.1
  | enter (event : StepEvent) (at? : Option Location) (stack? : Option (List String)) :
    Change s (s.enter event at? stack?)
  | draw (call : Call) : Change s { s with calls := call :: s.calls }
  /-- A fault is put among those of the current cycle. -/
  | file (fault : Fault) : Change s (s.addReport fault)
  | arm (animate : s.settings.animate = true) (paced : s.paced = true) : Change s s.arm
  | expire (position : Nat) :
    Change s { s with timers := s.timers.eraseIdx position }

theorem Change.cycle_le {s next : Scheduler} (change : s.Change next) : s.cycle ≤ next.cycle := by
  cases change with
  | begin => exact Nat.le_succ s.cycle
  | step => exact Nat.le_of_eq s.step_cycle.symm
  | _ => exact Nat.le_refl s.cycle

theorem Change.settings_eq {s next : Scheduler} (change : s.Change next) :
    next.settings = s.settings := by
  cases change with
  | step => exact s.step_settings
  | _ => rfl

abbrev Changes : Scheduler → Scheduler → Prop := ReflTransGen Change

theorem Changes.preserves (holds : Scheduler → Prop)
    (kept : ∀ s next, holds s → Change s next → holds next) {s now : Scheduler}
    (changes : Changes s now) (initially : holds s) : holds now := by
  induction changes with
  | refl => exact initially
  | tail _ change ih => exact kept _ _ ih change

/-- Two schedulers differ in nothing but what is written down: the journal, the reports and the
calls of the drawing. -/
def Noted (s t : Scheduler) : Prop :=
  ∃ journal reports calls, t = { s with journal := journal, reports := reports, calls := calls }

end Scheduler

namespace Engine

open Scheduler

variable (s : Scheduler) (tasks : List Task)

theorem tell_sched (notice : Notice) (observers : List Nat) :
    (tell s notice tasks observers).sched = s := by
  cases observers <;> rfl

theorem announce_sched (notice : Notice) : (announce s notice tasks).sched = s :=
  tell_sched s tasks notice _

theorem tellFault_sched (fault : Fault) (observers : List Nat) :
    (tellFault s fault tasks observers).sched = s := by
  cases observers <;> rfl

/-- A fault is entered and reported, or nothing changes. -/
theorem report_sched (fault : Fault) :
    (∃ stack?, (report s fault tasks).sched = (s.reportWith fault stack?).1) ∨
      (report s fault tasks).sched = s := by
  rcases report_cases s fault tasks with ⟨stack?, _, reported⟩ | ⟨_, reported⟩
  · exact Or.inl ⟨stack?, by rw [reported, tellFault_sched]⟩
  · exact Or.inr (by rw [reported])

theorem report_changes (fault : Fault) : Changes s (report s fault tasks).sched := by
  rcases report_sched s tasks fault with ⟨stack?, same⟩ | same
  · rw [same]
    exact (ReflTransGen.single (.enter _ _ stack?)).tail (.file _)
  · rw [same]

theorem tell_heard (notice : Notice) (observers : List Nat) (failure : Failure) :
    (tell s notice tasks observers).signal ≠ .raised failure := by
  cases observers <;> exact Signal.noConfusion

theorem tellFault_heard (fault : Fault) (observers : List Nat) (failure : Failure) :
    (tellFault s fault tasks observers).signal ≠ .raised failure := by
  cases observers <;> exact Signal.noConfusion

theorem settle_sched (result : RunResult) (callbacks : List Nat) :
    (settle s result tasks callbacks).sched = s := by
  cases callbacks <;> rfl

theorem halt_of_running {s : Scheduler} (running : s.phase = .running) (phase : Phase)
    (tasks : List Task) :
    halt s phase tasks =
      announce (s.endCycle phase).1 (.programEnd ⟨phase, s.cycle, s.steps⟩)
        (.settling ⟨phase, s.cycle, s.steps⟩ s.callbacks :: tasks) := by
  rw [halt, if_pos running]
  rfl

theorem halt_of_rest {s : Scheduler} (rests : s.phase ≠ .running) (phase : Phase)
    (tasks : List Task) : halt s phase tasks = ⟨s, tasks, .returned⟩ := by
  rw [halt, if_neg rests]

theorem halt_rests (s : Scheduler) {phase : Phase} (other : phase ≠ .running)
    (tasks : List Task) : (halt s phase tasks).sched.phase ≠ .running := by
  by_cases running : s.phase = .running
  · rw [halt_of_running running, announce_sched]
    exact other
  · rw [halt_of_rest running]
    exact running

theorem halt_changes {phase : Phase} (ended : phase = .exhausted ∨ phase = .cancelled) :
    Changes s (halt s phase tasks).sched := by
  by_cases running : s.phase = .running
  · rw [halt_of_running running, announce_sched]
    exact .single (.close phase running ended)
  · rw [halt_of_rest running]

theorem paint_changes (leaf : Command) (primitive : Primitive) (calls : List Call) :
    Changes s (paint s leaf primitive tasks calls).sched := by
  cases calls with
  | nil =>
    rcases paint_nil_cases s leaf primitive tasks with ⟨stack?, _, painted⟩ | ⟨_, painted⟩
    · rw [painted, announce_sched]
      exact .single (.enter _ _ stack?)
    · rw [painted]
  | cons call rest => exact .single (.draw call)

theorem takeStep_changes : Changes s (takeStep s tasks).sched := by
  have stepped : Changes s s.step.1 := .single .step
  unfold takeStep
  split
  · rename_i next more found
    rw [found] at stepped
    exact stepped
  · rename_i next leaf primitive calls found
    rw [found] at stepped
    exact stepped.trans (paint_changes _ _ _ _ _)
  · rename_i next fault found
    rw [found] at stepped
    exact stepped.trans (report_changes _ _ _)
  · rename_i next phase found
    rw [found] at stepped
    refine stepped.trans (halt_changes _ _ ?_)
    rcases (step_eq_halt found).2 with ⟨_, cancelled, _⟩ | ⟨_, exhausted, _⟩
    · exact Or.inr cancelled
    · exact Or.inl exhausted
  · rename_i next failure found
    rw [found] at stepped
    exact stepped

theorem report_noted (fault : Fault) : Noted s (report s fault tasks).sched := by
  rcases report_sched s tasks fault with ⟨stack?, same⟩ | same
  · exact ⟨_, _, _, same⟩
  · exact ⟨s.journal, s.reports, s.calls, same⟩

theorem paint_noted (leaf : Command) (primitive : Primitive) (calls : List Call) :
    Noted s (paint s leaf primitive tasks calls).sched := by
  cases calls with
  | nil =>
    rcases paint_nil_cases s leaf primitive tasks with ⟨stack?, _, painted⟩ | ⟨_, painted⟩
    · rw [painted, announce_sched]
      exact ⟨_, _, _, rfl⟩
    · rw [painted]
      exact ⟨_, _, _, rfl⟩
  | cons call rest => exact ⟨_, _, _, rfl⟩

/-- What a step leaves to be done is written down, or it is the end of the cycle. -/
theorem takeStep_noted : Noted s.step.1 (takeStep s tasks).sched ∨
    ∃ next phase, s.step = (next, .halt phase) ∧
      takeStep s tasks = halt next phase (.stepped false :: tasks) := by
  obtain ⟨next, work, stepped⟩ : ∃ next work, s.step = (next, work) := ⟨_, _, rfl⟩
  rw [takeStep, stepped]
  cases work with
  | answer more => exact Or.inl ⟨_, _, _, rfl⟩
  | draw leaf primitive calls => exact Or.inl (paint_noted _ _ leaf primitive calls)
  | report fault => exact Or.inl (report_noted _ _ fault)
  | halt phase => exact Or.inr ⟨next, phase, rfl, rfl⟩
  | fail failure => exact Or.inl ⟨_, _, _, rfl⟩

theorem pause_changes : Changes s (pause s tasks).sched := by
  unfold pause
  split
  · rename_i waits
    rw [Bool.and_eq_true] at waits
    exact .single (.arm waits.1 waits.2)
  · exact .refl

theorem receive_changes (batch : List Command) (callback? : Option Nat) :
    Changes s (receive s batch callback? tasks).sched := by
  unfold receive
  split
  · rename_i running
    exact .single (.join batch callback? running)
  · rename_i rests
    split
    · exact .refl
    · rename_i clocked
      rw [announce_sched]
      refine .single (.begin batch callback? rests ?_)
      intro animate
      simpa [animate] using clocked

theorem cue_changes (entries : List Value) (callback? : Option Nat) :
    Changes s (cue s entries callback? tasks).sched := by
  unfold cue
  split
  · exact .refl
  · split
    · exact halt_changes _ _ (Or.inr rfl)
    · exact receive_changes _ _ _ _

theorem resume_changes (timer : Timer) : Changes s (resume s timer tasks).sched := by
  unfold resume
  split
  · exact takeStep_changes _ _
  · exact .refl

theorem next?_changes {e next : Engine} (worked : e.next? = some next) :
    Changes e.sched next.sched := by
  unfold next? at worked
  split at worked
  · simp at worked
  · simp at worked
  all_goals
    simp only [Option.some.injEq] at worked
    subst worked
    split
  · exact .refl
  · exact receive_changes _ _ _ _
  · exact .refl
  · exact takeStep_changes _ _
  · exact halt_changes _ _ (Or.inr rfl)
  · exact takeStep_changes _ _
  · exact .refl
  · exact .refl
  · exact .refl
  · exact report_changes _ _ _
  · rw [tell_sched]
  · exact .single (.file _)
  · rw [tellFault_sched]
  · exact report_changes _ _ _
  · exact .refl
  · exact paint_changes _ _ _ _ _
  · exact .refl
  · exact pause_changes _ _
  · exact .refl
  · rw [settle_sched]
  · exact .refl
  · exact .refl

theorem perform_changes {e : Engine} {site : Site} {move : Move}
    (offered : site.offers move = true) :
    Changes e.sched (e.perform move).sched := by
  cases move with
  | cue entries callback? => exact cue_changes _ _ _ _
  | stop => exact .single .stop
  | step => exact takeStep_changes _ _
  | fire position =>
    rw [perform]
    split
    · exact .refl
    · exact (ReflTransGen.single (.expire position)).trans (resume_changes _ _ _)
  | attach event observer => exact .single (.attach event observer)
  | define name params body => exact .single (.define name params body)
  | prime => simp [Site.offers] at offered
  | enqueue commands => simp [Site.offers] at offered
  | finish => exact .refl
  | raise failure => exact .refl

theorem turn?_changes {rules : Rules} {e next : Engine} {turn : Turn}
    (taken : e.turn? rules turn = some next) : Changes e.sched next.sched := by
  cases turn with
  | work => exact next?_changes taken
  | move move =>
    simp only [turn?] at taken
    split at taken
    · simp at taken
    · rename_i site _
      split at taken
      · rename_i allowed
        rw [Bool.and_eq_true] at allowed
        simp only [Option.some.injEq] at taken
        subst taken
        exact perform_changes allowed.1
      · simp at taken

theorem turn?_cycle_le {rules : Rules} {e next : Engine} {turn : Turn}
    (taken : e.turn? rules turn = some next) :
    e.sched.cycle ≤ next.sched.cycle :=
  (turn?_changes taken).preserves (fun s => e.sched.cycle ≤ s.cycle)
    (fun _ _ before change => Nat.le_trans before change.cycle_le) (Nat.le_refl _)

end Engine

/-- What holds of the scheduler at the start, and is kept by every change, holds in every play. -/
theorem Plays.preserves_sched {rules : Rules} {start now : Engine} {past : List Moment}
    {holds : Scheduler → Prop} (kept : ∀ s next, holds s → s.Change next → holds next)
    (initially : holds start.sched) (played : Plays rules start past now) : holds now.sched :=
  played.preserves (fun e => holds e.sched) initially fun _ _ _ before taken =>
    (Engine.turn?_changes taken).preserves holds kept before

theorem Plays.settings_eq {rules : Rules} {start now : Engine} {past : List Moment}
    (played : Plays rules start past now) : now.sched.settings = start.sched.settings :=
  played.preserves_sched (fun _ _ (same : _ = start.sched.settings) change =>
    change.settings_eq.trans same) rfl

theorem Plays.cycleAt_le {rules : Rules} {start : Engine} {past : List Moment} {now : Engine}
    (played : Plays rules start past now) (height : Nat) :
    cycleAt height past ≤ now.sched.cycle := by
  induction played with
  | start => exact Nat.zero_le _
  | turn _ taken ih =>
    rw [cycleAt]
    split
    · exact Nat.le_refl _
    · exact Nat.le_trans ih (Engine.turn?_cycle_le taken)

end Turtle
