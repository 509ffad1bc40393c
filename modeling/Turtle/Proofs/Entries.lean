import Turtle.Proofs.Announcements
import Turtle.Proofs.Course
import Turtle.Proofs.Recording
import Turtle.Proofs.Wakeups
import Turtle.Proofs.Wholeness

/-!
# What a turn enters

As long as observers and the drawing start nothing by themselves, every step that is counted enters
one thing into the journal, sooner or later: at once, or when its primitive has been drawn.  What
else is entered is that a cycle has been cancelled and that an observer has failed, and every error
that is entered is reported.  An entry is lost only where the stack cannot be recorded.
-/

set_option autoImplicit false

namespace Turtle

/-- Foreign code that may use the scheduler as it likes. -/
def Site.isActive : Site → Bool
  | outside => true
  | callback _ _ => true
  | _ => false

/-- Whatever commands come with a move are whole. -/
def Engine.Move.isWhole (move : Engine.Move) : Bool :=
  move.every fun inner => !inner.isStray

/-- Observers and the drawing neither cue anything nor take any step, by hand or with a timer, the
drawing does not fail, and all commands are whole. -/
def Rules.tame : Rules
  | site, .cue entries callback? =>
    site.isActive && (Engine.Move.cue entries callback?).isWhole
  | site, .step => site.isActive
  | site, .fire _ => site.isActive
  | .drawing _, .raise _ => false
  | _, move => move.isWhole

/-! ## What is entered -/

/-- A fault stands for an entry of the journal. -/
structure Fault.Answers (fault : Fault) (entry : Entry StepEvent) : Prop where
  event_eq : entry.event = .error fault.message
  at_eq : entry.at? = fault.at?
  step_eq : fault.step? = some entry.index

/-- An observer of a fault has failed. -/
def Occurrence.isSecondary : Occurrence → Bool
  | failed notice _ => notice.isError
  | _ => false

def Scheduler.isCancelled (s : Scheduler) : Bool :=
  s.phase = .cancelled

/-- How many entries are lost on the way from one scheduler to another: none, and then the stack can
still be recorded, or one, and then it cannot. -/
inductive Scheduler.Loses (s t : Scheduler) : Nat → Prop where
  | nothing : (s.Recordable → t.Recordable) → Loses s t 0
  | entry : ¬t.Recordable → Loses s t 1

theorem Scheduler.Loses.of_recordable {s t done : Scheduler} {lost : Nat}
    (loses : t.Loses done lost) (recordable : s.Recordable → t.Recordable) :
    s.Loses done lost := by
  cases loses with
  | nothing kept => exact .nothing fun before => kept (recordable before)
  | entry unrecordable => exact .entry unrecordable

namespace Engine

/-- A step has been counted that has not entered anything yet. -/
def isDrawing (e : Engine) : Bool :=
  match e.tasks with
  | .painting _ _ _ :: _ => true
  | .foreign (.drawing _) :: _ => true
  | _ => false

/-- The fault that observers are told of at present. -/
def reporting? (e : Engine) : Option Fault :=
  match e.tasks with
  | .reporting fault _ :: _ => some fault
  | .foreign _ :: .reporting fault _ :: _ => some fault
  | _ => none

end Engine

/-- Everything that can come about while observers and the drawing start nothing: a task that is
covered waits neither for the drawing nor for an observer of a fault. -/
def Task.isSteady : Task → Bool
  | foreign site => site.isActive
  | painting _ _ _ => false
  | reporting _ _ => false
  | cueing batch _ => Command.areWhole batch
  | _ => true

def Steady (tasks : List Task) : Prop :=
  ∀ task ∈ tasks, task.isSteady = true

namespace Steady

variable {task : Task} {tasks : List Task}

theorem cons (top : task.isSteady = true) (below : Steady tasks) : Steady (task :: tasks) :=
  List.forall_mem_cons.mpr ⟨top, below⟩

theorem top (steady : Steady (task :: tasks)) : task.isSteady = true :=
  (List.forall_mem_cons.mp steady).1

theorem below (steady : Steady (task :: tasks)) : Steady tasks :=
  (List.forall_mem_cons.mp steady).2

end Steady

namespace Engine

open Scheduler

/-- All that waits below is steady, and so is what lies on top, unless someone is being told of
something or a primitive is being drawn. -/
inductive Tame : Engine → Prop where
  | steady {s : Scheduler} {tasks : List Task} (signal : Signal) :
    s.Whole → Steady tasks → Tame ⟨s, tasks, signal⟩
  | told {s : Scheduler} {tasks : List Task} (id : Nat) (notice : Notice) (signal : Signal) :
    s.Whole → Steady tasks → Tame ⟨s, .foreign (.observer id notice) :: tasks, signal⟩
  | toldFault {s : Scheduler} {tasks : List Task} (id : Nat) (fault : Fault) (rest : List Nat)
    (signal : Signal) : s.Whole → Steady tasks →
    Tame ⟨s, .foreign (.observer id (.onError fault)) :: .reporting fault rest :: tasks, signal⟩
  | reporting {s : Scheduler} {tasks : List Task} (fault : Fault) (rest : List Nat)
    (signal : Signal) : s.Whole → Steady tasks → Tame ⟨s, .reporting fault rest :: tasks, signal⟩
  | drawing {s : Scheduler} {tasks : List Task} (call : Call) (leaf : Command)
    (primitive : Primitive) (rest : List Call) (signal : Signal) : s.Whole → s.phase = .running →
    Steady tasks →
    Tame ⟨s, .foreign (.drawing call) :: .painting leaf primitive rest :: tasks, signal⟩
  | painting {s : Scheduler} {tasks : List Task} (leaf : Command) (primitive : Primitive)
    (rest : List Call) : s.Whole → s.phase = .running → Steady tasks →
    Tame ⟨s, .painting leaf primitive rest :: tasks, .returned⟩

/-- What has been entered in between: so many steps are due to be entered, or failures, and perhaps
a fault is reported.  What is due and not entered is lost. -/
structure Charges (s : Scheduler) (due : Nat) (fault? : Option Fault) (done : Engine) : Prop where
  tame : done.Tame
  cycle_eq : done.sched.cycle = s.cycle
  balanced : ∃ lost, s.Loses done.sched lost ∧
    (s.logged? done.sched).toList.length + done.isDrawing.toNat + lost + s.steps +
      s.isCancelled.toNat = due + done.sched.steps + done.sched.isCancelled.toNat
  answered : ∀ fault ∈ fault?, ∃ entry, s.logged? done.sched = some entry ∧ fault.Answers entry
  unanswered : fault? = none → ∀ entry ∈ s.logged? done.sched, entry.event.isError = false
  reported : done.reporting? = none ∨ done.reporting? = fault?

section Charges

variable {s t : Scheduler} {tasks : List Task}

theorem logged?_event {event? : Option StepEvent}
    (writes : s.journal.Writes t.journal event?) :
    (s.logged? t).map Entry.event = event? := by
  cases event? with
  | none => rw [logged?_of_same writes, Option.map_none]
  | some event =>
    obtain ⟨at?, stack?, recorded⟩ := writes
    rw [logged?_of_record recorded, Option.map_some]

theorem length_logged? {event? : Option StepEvent} (writes : s.journal.Writes t.journal event?) :
    (s.logged? t).toList.length = event?.toList.length := by
  rw [← logged?_event writes, Option.toList_map, List.length_map]

theorem unfailing_logged? {event? : Option StepEvent}
    (writes : s.journal.Writes t.journal event?)
    (error : event?.any StepEvent.isError = false) :
    ∀ entry ∈ s.logged? t, entry.event.isError = false := by
  intro entry logged
  rw [← logged?_event writes, Option.mem_def.mp logged] at error
  exact error

theorem isDrawing_of_steady {signal : Signal} (steady : Steady tasks) :
    isDrawing ⟨s, tasks, signal⟩ = false := by
  cases tasks with
  | nil => rfl
  | cons top tasks =>
    have top_steady := steady.top
    cases top with
    | painting leaf primitive rest => exact absurd top_steady Bool.false_ne_true
    | foreign site =>
      cases site with
      | drawing call => exact absurd top_steady Bool.false_ne_true
      | _ => rfl
    | _ => rfl

theorem reporting?_of_covered {site : Site} {signal : Signal} (steady : Steady tasks) :
    reporting? ⟨s, .foreign site :: tasks, signal⟩ = none := by
  cases tasks with
  | nil => rfl
  | cons top tasks =>
    have top_steady := steady.top
    cases top with
    | reporting fault rest => exact absurd top_steady Bool.false_ne_true
    | _ => rfl

theorem reporting?_of_steady {signal : Signal} (steady : Steady tasks) :
    reporting? ⟨s, tasks, signal⟩ = none := by
  cases tasks with
  | nil => rfl
  | cons top tasks =>
    obtain ⟨top_steady, below⟩ := List.forall_mem_cons.mp steady
    cases top with
    | reporting fault rest => exact absurd top_steady Bool.false_ne_true
    | foreign site => exact reporting?_of_covered below
    | _ => rfl

/-- Nothing is being drawn, and no observer is told of a fault. -/
structure Calm (e : Engine) : Prop where
  tame : e.Tame
  idle : e.isDrawing = false
  unreported : e.reporting? = none

/-- If nothing is left to be drawn, then what is entered has to be due. -/
theorem Calm.charges {done : Engine} (calm : done.Calm) {event? : Option StepEvent}
    (writes : s.journal.Writes done.sched.journal event?)
    (error : event?.any StepEvent.isError = false) (cycle_eq : done.sched.cycle = s.cycle)
    {due lost : Nat} (loses : s.Loses done.sched lost)
    (due_eq : event?.toList.length + lost + s.steps + s.isCancelled.toNat =
      due + done.sched.steps + done.sched.isCancelled.toNat) :
    Charges s due none done where
  tame := calm.tame
  cycle_eq := cycle_eq
  balanced := by
    refine ⟨lost, loses, ?_⟩
    rw [length_logged? writes, calm.idle]
    exact due_eq
  answered := fun _ reported => absurd reported (Option.not_mem_none _)
  unanswered := fun _ => unfailing_logged? writes error
  reported := Or.inl calm.unreported

section Steady

variable (whole : s.Whole) (steady : Steady tasks)
include whole steady

theorem calm_of_steady (signal : Signal) : Calm ⟨s, tasks, signal⟩ :=
  ⟨.steady signal whole steady, isDrawing_of_steady steady, reporting?_of_steady steady⟩

theorem tell_calm (notice : Notice) (observers : List Nat) :
    Calm (tell s notice tasks observers) := by
  cases observers with
  | nil => exact calm_of_steady whole steady .returned
  | cons observer rest =>
    have waiting : Steady (.announcing notice rest :: tasks) :=
      .cons rfl steady
    exact ⟨.told observer notice .called whole waiting, rfl, reporting?_of_covered waiting⟩

theorem announce_calm (notice : Notice) : Calm (announce s notice tasks) :=
  tell_calm whole steady notice _

theorem settle_calm (result : RunResult) (callbacks : List Nat) :
    Calm (settle s result tasks callbacks) := by
  cases callbacks with
  | nil => exact calm_of_steady whole steady .returned
  | cons callback rest =>
    refine calm_of_steady whole ?_ .called
    exact .cons rfl (.cons rfl steady)

theorem tellFault_tame (fault : Fault) (observers : List Nat) :
    Tame (tellFault s fault tasks observers) := by
  cases observers with
  | nil => exact .steady .returned whole steady
  | cons observer rest => exact .toldFault observer fault rest .called whole steady

omit whole in
theorem tellFault_reporting? (fault : Fault) (observers : List Nat) :
    (tellFault s fault tasks observers).reporting? = none ∨
      (tellFault s fault tasks observers).reporting? = some fault := by
  cases observers with
  | nil => exact Or.inl (reporting?_of_steady steady)
  | cons observer rest => exact Or.inr rfl

omit whole in
theorem tellFault_idle (fault : Fault) (observers : List Nat) :
    (tellFault s fault tasks observers).isDrawing = false := by
  cases observers with
  | nil => exact isDrawing_of_steady steady
  | cons observer rest => rfl

/-- What cannot be entered is lost. -/
theorem lost_charges (unrecordable : ¬s.Recordable) (signal : Signal) :
    Charges s 1 none ⟨s, tasks, signal⟩ := by
  have unwritten : s.journal.Writes s.journal none := rfl
  refine (calm_of_steady whole steady signal).charges unwritten rfl rfl (.entry unrecordable) ?_
  rw [Option.toList_none, List.length_nil, Nat.zero_add]

theorem reportWith_charges (fault : Fault) (stack? : Option (List String)) :
    Charges s 1 (some (s.reportWith fault stack?).2)
      (tellFault (s.reportWith fault stack?).1 (s.reportWith fault stack?).2 tasks
        (s.observersOf .onError)) := by
  have reported : (s.reportWith fault stack?).1.Whole := { whole with }
  have logged : s.logged? (s.reportWith fault stack?).1 =
      some ⟨s.journal.next, .error fault.message, fault.at?, stack?⟩ := logged?_of_record rfl
  refine ⟨tellFault_tame reported steady _ _, ?_, ⟨0, ?_, ?_⟩, ?_, fun none => ?_,
    tellFault_reporting? steady _ _⟩
  · rw [tellFault_sched]
    rfl
  · rw [tellFault_sched]
    exact .nothing fun recordable => recordable.mono rfl (List.Subset.refl _)
  · rw [tellFault_sched, logged, tellFault_idle steady]
    rfl
  · rintro numbered ⟨⟩
    rw [tellFault_sched]
    exact ⟨_, logged, rfl, rfl, rfl⟩
  · contradiction

/-- An error is entered and reported, or it is lost. -/
theorem report_charges (fault : Fault) :
    Charges s 1 (s.reported? fault) (report s fault tasks) := by
  rcases report_cases s fault tasks with ⟨stack?, recorded, reported⟩ | ⟨unrecordable, reported⟩
  · rw [reported, reported?_of_snapshot recorded]
    exact reportWith_charges whole steady fault stack?
  · rw [reported, reported?_of_unrecordable unrecordable]
    exact lost_charges whole steady unrecordable _

/-- That a cycle has ended is entered.  It was a step if the cycle is exhausted. -/
theorem halt_charges (running : s.phase = .running) {phase : Phase} {due : Nat}
    (ended : phase = .exhausted ∧ due = 1 ∨ phase = .cancelled ∧ due = 0) :
    Charges s due none (halt s phase tasks) := by
  have settling : Steady (.settling ⟨phase, s.cycle, s.steps⟩ s.callbacks :: tasks) :=
    .cons rfl steady
  have writes : s.journal.Writes (halt s phase tasks).sched.journal (some (.halt phase)) :=
    halt_writes running phase
  rw [halt_of_running running] at writes ⊢
  have emptied : (s.endCycle phase).1.Recordable := recordable_of_nil rfl
  refine (announce_calm (whole.endCycle phase) settling _).charges writes rfl ?_
    (.nothing fun _ => ?_) ?_
  · rw [announce_sched]
    rfl
  · rw [announce_sched]
    exact emptied
  · rw [announce_sched, isCancelled, running, isCancelled]
    rcases ended with ⟨rfl, rfl⟩ | ⟨rfl, rfl⟩
    · rfl
    · show 1 + 0 + s.steps + 0 = 0 + s.steps + 1
      omega

theorem enter_charges {event : StepEvent} (error : event.isError = false)
    (at? : Option Location) (stack? : Option (List String)) (notice : Notice) :
    Charges s 1 none (announce (s.enter event at? stack?) notice (.pausing :: tasks)) := by
  have entered : (s.enter event at? stack?).Whole := { whole with }
  have pausing : Steady (.pausing :: tasks) := .cons rfl steady
  have writes : s.journal.Writes
      (announce (s.enter event at? stack?) notice (.pausing :: tasks)).sched.journal
      (some event) := by
    rw [announce_sched]
    exact ⟨_, _, rfl⟩
  refine (announce_calm entered pausing notice).charges writes error ?_
    (.nothing fun recordable => ?_) ?_ <;> rw [announce_sched]
  · rfl
  · exact recordable.mono rfl (List.Subset.refl _)
  · rfl

/-- A step that draws a primitive enters it when everything is drawn. -/
theorem paint_charges (running : s.phase = .running) (leaf : Command) (primitive : Primitive)
    (calls : List Call) : Charges s 1 none (paint s leaf primitive tasks calls) := by
  cases calls with
  | nil =>
    rcases paint_nil_cases s leaf primitive tasks with
      ⟨stack?, _, painted⟩ | ⟨unrecordable, painted⟩ <;> rw [painted]
    · exact enter_charges whole steady rfl _ stack? _
    · exact lost_charges whole steady unrecordable _
  | cons call rest =>
    have asked : ({ s with calls := call :: s.calls } : Scheduler).Whole := { whole with }
    have unwritten : s.journal.Writes s.journal none := rfl
    refine ⟨.drawing call leaf primitive rest .called asked running steady, rfl,
      ⟨0, .nothing fun recordable => ?_, ?_⟩, nofun, fun _ => unfailing_logged? unwritten rfl,
      Or.inl rfl⟩
    · exact recordable.mono rfl (List.Subset.refl _)
    · show (s.logged? s).toList.length + 1 + 0 + s.steps + s.isCancelled.toNat =
        1 + s.steps + s.isCancelled.toNat
      rw [length_logged? unwritten, Option.toList_none, List.length_nil]

end Steady

/-- Steps that have been counted in between are due. -/
theorem Charges.of_counted {due count : Nat} {fault? : Option Fault} {done : Engine}
    (charges : Charges t (due + count) fault? done) (journal_eq : t.journal = s.journal)
    (cycle_eq : t.cycle = s.cycle) (phase_eq : t.phase = s.phase)
    (steps_eq : t.steps = s.steps + count) (recordable : s.Recordable → t.Recordable) :
    Charges s due fault? done := by
  obtain ⟨tame, cycle_eq', ⟨lost, loses, balanced⟩, answered, unanswered, reported⟩ := charges
  have logged?_eq : t.logged? done.sched = s.logged? done.sched := by
    rw [logged?, journal_eq]
    rfl
  rw [logged?_eq] at balanced answered unanswered
  rw [isCancelled, phase_eq, ← isCancelled, steps_eq] at balanced
  exact ⟨tame, cycle_eq'.trans cycle_eq, ⟨lost, loses.of_recordable recordable, by omega⟩, answered,
    unanswered, reported⟩

theorem takeStep_charges (whole : s.Whole) (steady : Steady tasks) :
    Charges s 0 s.stepFault? (takeStep s tasks) := by
  have waiting : ∀ more, Steady (.stepped more :: tasks) := fun more =>
    .cons rfl steady
  by_cases running : s.phase = .running
  · cases live : s.live with
    | false =>
      have halts : s.step = (s, .halt .cancelled) := by simp [step, running, live]
      rw [stepFault?, takeStep, halts]
      exact halt_charges whole (waiting false) running (Or.inr ⟨rfl, rfl⟩)
    | true =>
      have counted := step_steps running live
      have phase_eq := s.step_phase
      have cycle_eq := s.step_cycle
      have writes := s.step_writes
      have wholly := whole.step
      have soundly := soundly_step whole
      have stays : s.Recordable → _ := step_recordable
      obtain ⟨after, work, stepped⟩ : ∃ after work, s.step = (after, work) := ⟨_, _, rfl⟩
      rw [stepped] at counted phase_eq cycle_eq writes wholly soundly stays
      have kept (succeeds : ∀ failure, work ≠ .fail failure) (before : s.Recordable) :
          after.Recordable := by
        rcases stays before with stays | ⟨failure, fails⟩
        · exact stays
        · exact absurd fails (succeeds failure)
      -- A step that leaves anything to be done has not entered anything yet.
      have due {fault? : Option Fault} {done : Engine} (other : work ≠ .answer true)
          (succeeds : ∀ failure, work ≠ .fail failure) (charges : Charges after 1 fault? done) :
          Charges s 0 fault? done :=
        charges.of_counted (writes.resolve_right fun written => other written.1).2 cycle_eq
          phase_eq counted (kept succeeds)
      rw [stepFault?, takeStep, stepped]
      cases work with
      | answer more =>
        cases more with
        | false => exact absurd running (step_eq_answer_false stepped)
        | true =>
          obtain ⟨never, _⟩ | ⟨_, event, written, _, error⟩ := writes
          · exact absurd rfl never
          · refine (calm_of_steady wholly steady _).charges written error cycle_eq
              (.nothing (kept fun _ => Work.noConfusion)) ?_
            rw [isCancelled, isCancelled, phase_eq, counted, Option.toList_some,
              List.length_singleton]
            omega
      | draw leaf primitive calls =>
        exact due Work.noConfusion (fun _ => Work.noConfusion)
          (paint_charges wholly steady (phase_eq.trans running) leaf primitive calls)
      | report fault =>
        exact due Work.noConfusion (fun _ => Work.noConfusion)
          (report_charges wholly (waiting true) fault)
      | halt phase =>
        have exhausted : phase = .exhausted := by
          rcases (step_eq_halt stepped).2 with ⟨stopped, _⟩ | ⟨_, exhausted, _⟩
          · exact absurd (live.symm.trans stopped) Bool.noConfusion
          · exact exhausted
        exact due Work.noConfusion (fun _ => Work.noConfusion) (halt_charges wholly (waiting false)
          (phase_eq.trans running) (Or.inl ⟨exhausted, rfl⟩))
      | fail failure =>
        have unwritten := (writes.resolve_right fun written => Work.noConfusion written.1).2
        refine (calm_of_steady wholly steady _).charges unwritten rfl cycle_eq
          (.entry (soundly.fails failure rfl)) ?_
        rw [isCancelled, isCancelled, phase_eq, counted, Option.toList_none, List.length_nil]
        omega
  · rw [stepFault?, step_of_rest running, takeStep_of_rest running]
    have unwritten : s.journal.Writes s.journal none := rfl
    exact (calm_of_steady whole steady _).charges unwritten rfl rfl (.nothing id) rfl

end Charges

/-! ## What a turn does to the accounts -/

/-- Nothing has happened in between that is entered or counted. -/
structure Unmoved (s t : Scheduler) : Prop where
  journal_eq : t.journal = s.journal
  cycle_eq : t.cycle = s.cycle
  phase_eq : t.phase = s.phase
  steps_eq : t.steps = s.steps
  settings_eq : t.settings = s.settings
  stack_eq : t.stack = s.stack

theorem Unmoved.recordable {s t : Scheduler} (same : Unmoved s t) (before : s.Recordable) :
    t.Recordable :=
  before.mono same.settings_eq (same.stack_eq ▸ List.Subset.refl _)

/-- A cycle has begun, and nothing has been entered for it yet. -/
structure Begins (s : Scheduler) (done : Engine) : Prop where
  calm : done.Calm
  recordable : done.sched.Recordable
  journal_eq : done.sched.journal = s.journal
  cycle_eq : done.sched.cycle = s.cycle + 1
  phase_eq : done.sched.phase = .running
  steps_eq : done.sched.steps = 0

end Engine

/-- What a turn does to the accounts of the current cycle: it charges what is due, it leaves them as
they are, it begins those of the next cycle, or it adds that nobody could be told of a fault. -/
inductive Moment.Incurs (m : Moment) : Prop where
  | charges (primary : ∀ o ∈ m.failed?, o.isSecondary = false)
    (charged : Engine.Charges m.before.sched
      (m.before.isDrawing.toNat + m.failed?.toList.length) m.fault? m.after) : Incurs m
  | keeps (unfailed : m.failed? = none) (unfaulted : m.fault? = none) (tame : m.after.Tame)
    (same : Engine.Unmoved m.before.sched m.after.sched)
    (isDrawing_eq : m.after.isDrawing = m.before.isDrawing)
    (reported : m.after.reporting? = none ∨ m.after.reporting? = m.before.reporting?) : Incurs m
  | begins (unfailed : m.failed? = none) (unfaulted : m.fault? = none)
    (idle : m.before.isDrawing = false) (begun : Engine.Begins m.before.sched m.after) : Incurs m
  | givesUp (fault : Fault) (failure : Failure) (reporting : m.before.reporting? = some fault)
    (failed : m.failed? = some (.failed (.onError fault) failure))
    (faulted : m.fault? = some (Engine.secondaryFault fault failure)) (calm : m.after.Calm)
    (idle : m.before.isDrawing = false)
    (same : Engine.Unmoved m.before.sched m.after.sched) : Incurs m

namespace Engine

variable {s t : Scheduler} {tasks : List Task} {e next : Engine} {turn : Turn}

/-- Foreign code that lies on top may use the scheduler as it likes only if nobody waits for it to
draw or to be told something. -/
theorem Tame.of_active {site : Site} {signal : Signal}
    (tame : Tame ⟨s, .foreign site :: tasks, signal⟩) (active : site.isActive = true) :
    s.Whole ∧ Steady (.foreign site :: tasks) := by
  cases tame with
  | steady signal whole steady => exact ⟨whole, steady⟩
  | _ => exact absurd active Bool.false_ne_true

theorem Tame.whole (tame : e.Tame) : e.sched.Whole := by
  cases tame <;> assumption

/-- While foreign code keeps control it may change what is not entered. -/
theorem Tame.stays {site : Site} {signal : Signal} (later : Signal)
    (tame : Tame ⟨s, .foreign site :: tasks, signal⟩) (whole : t.Whole)
    (phase_eq : t.phase = s.phase) : Tame ⟨t, .foreign site :: tasks, later⟩ := by
  cases tame with
  | steady signal _ steady => exact .steady later whole steady
  | told id notice signal _ steady => exact .told id notice later whole steady
  | toldFault id fault rest signal _ steady => exact .toldFault id fault rest later whole steady
  | drawing call leaf primitive rest signal _ running steady =>
    exact .drawing call leaf primitive rest later whole (phase_eq.trans running) steady

theorem incurs_of_stay {site : Site} {signal later : Signal} {move : Move}
    (tame : Tame ⟨s, .foreign site :: tasks, signal⟩) (whole : t.Whole) (same : Unmoved s t)
    (unfaulted : (Moment.mk ⟨s, .foreign site :: tasks, signal⟩ (.move move)
      ⟨t, .foreign site :: tasks, later⟩).fault? = none) :
    (Moment.mk ⟨s, .foreign site :: tasks, signal⟩ (.move move)
      ⟨t, .foreign site :: tasks, later⟩).Incurs :=
  .keeps rfl unfaulted (tame.stays later whole same.phase_eq) same rfl (Or.inr rfl)

theorem incurs_of_calm {m : Moment} (unfailed : m.failed? = none) (unfaulted : m.fault? = none)
    (idle : m.before.isDrawing = false) (calm : m.after.Calm)
    (same : Unmoved m.before.sched m.after.sched) : m.Incurs :=
  .keeps unfailed unfaulted calm.tame same (calm.idle.trans idle.symm) (Or.inl calm.unreported)

theorem incurs_of_takeStep {m : Moment} (whole : s.Whole) (steady : Steady tasks)
    (same : Unmoved m.before.sched s) (after_eq : m.after = takeStep s tasks)
    (unfailed : m.failed? = none) (fault_eq : m.fault? = s.stepFault?)
    (idle : m.before.isDrawing = false) : m.Incurs := by
  refine .charges (fun o failed => ?_) ?_
  · rw [unfailed] at failed
    exact absurd failed (Option.not_mem_none o)
  · rw [idle, unfailed, fault_eq, after_eq]
    have charges : Charges s (0 + 0) s.stepFault? (takeStep s tasks) :=
      takeStep_charges whole steady
    exact charges.of_counted same.journal_eq same.cycle_eq same.phase_eq same.steps_eq
      same.recordable

/-- A cycle is cancelled, if one is running. -/
theorem incurs_of_cancel {m : Moment} (whole : m.before.sched.Whole) (steady : Steady tasks)
    (after_eq : m.after = halt m.before.sched .cancelled tasks) (unfailed : m.failed? = none)
    (unfaulted : m.fault? = none) (idle : m.before.isDrawing = false) : m.Incurs := by
  by_cases running : m.before.sched.phase = .running
  · refine .charges (fun o failed => ?_) ?_
    · rw [unfailed] at failed
      exact absurd failed (Option.not_mem_none o)
    · rw [idle, unfailed, unfaulted, after_eq]
      exact halt_charges whole steady running (Or.inr ⟨rfl, rfl⟩)
  · rw [halt_of_rest running] at after_eq
    refine incurs_of_calm unfailed unfaulted idle ?_ ?_
    all_goals rw [after_eq]
    · exact calm_of_steady whole steady _
    · exact ⟨rfl, rfl, rfl, rfl, rfl, rfl⟩

theorem incurs_of_receive {m : Moment} {batch : List Command} {callback? : Option Nat}
    (whole : m.before.sched.Whole) (tidy : m.before.sched.Tidy) (steady : Steady tasks)
    (new : Command.areWhole batch = true)
    (after_eq : m.after = receive m.before.sched batch callback? tasks)
    (unfailed : m.failed? = none) (unfaulted : m.fault? = none)
    (idle : m.before.isDrawing = false) : m.Incurs := by
  have accepted : (m.before.sched.accept batch callback?).Whole := whole.accept new callback?
  unfold receive at after_eq
  split at after_eq
  · refine incurs_of_calm unfailed unfaulted idle ?_ ?_
    all_goals rw [after_eq]
    · exact calm_of_steady accepted steady _
    · exact ⟨rfl, rfl, rfl, rfl, rfl, rfl⟩
  · rename_i rests
    split at after_eq
    · refine incurs_of_calm unfailed unfaulted idle ?_ ?_
      all_goals rw [after_eq]
      · exact calm_of_steady whole steady _
      · exact ⟨rfl, rfl, rfl, rfl, rfl, rfl⟩
    · have begun : (m.before.sched.accept batch callback?).beginCycle.Whole := { accepted with }
      have starting : Steady (.starting :: tasks) := .cons rfl steady
      refine .begins unfailed unfaulted idle ⟨?_, ?_, ?_, ?_, ?_, ?_⟩
      all_goals rw [after_eq]
      · exact announce_calm begun starting _
      · rw [announce_sched]
        exact Scheduler.recordable_of_nil (tidy.stack_eq rests)
      all_goals
        rw [announce_sched]
        rfl

theorem pause_calm (whole : s.Whole) (steady : Steady tasks) : Calm (pause s tasks) := by
  have armed : s.arm.Whole := { whole with }
  unfold pause
  split
  · exact calm_of_steady armed steady _
  · exact calm_of_steady whole steady _

theorem pause_unmoved : Unmoved s (pause s tasks).sched := by
  unfold pause
  split <;> exact ⟨rfl, rfl, rfl, rfl, rfl, rfl⟩

/-- Whatever turn is taken, the accounts tell what it incurs. -/
theorem Acts.incurs (acts : Acts .tame e turn next) (shaped : e.Shaped .tame)
    (tidy : e.sched.Tidy) (tame : e.Tame) : (Moment.mk e turn next).Incurs := by
  have unmoved : ∀ {s : Scheduler}, Unmoved s s := ⟨rfl, rfl, rfl, rfl, rfl, rfl⟩
  cases acts with
  | receive s batch callback? tasks =>
    cases tame with
    | steady _ whole steady =>
      exact incurs_of_receive whole tidy steady.below steady.top rfl rfl rfl rfl
  | start s tasks =>
    cases tame with
    | steady _ whole steady =>
      have running : Steady (.running :: tasks) := .cons rfl steady.below
      exact incurs_of_takeStep whole running unmoved rfl rfl rfl rfl
  | goOn s tasks =>
    cases tame with
    | steady _ whole steady => exact incurs_of_takeStep whole steady unmoved rfl rfl rfl rfl
  | leaveOff s tasks =>
    cases tame with
    | steady _ whole steady =>
      exact incurs_of_calm rfl rfl rfl (calm_of_steady whole steady.below _) unmoved
  | cancel s failure tasks =>
    cases tame with
    | steady _ whole steady =>
      have rethrow : Steady (.rethrow failure :: tasks) := .cons rfl steady.below
      exact incurs_of_cancel whole rethrow rfl rfl rfl rfl
  | rethrow s failure tasks =>
    cases tame with
    | steady _ whole steady =>
      exact incurs_of_calm rfl rfl rfl (calm_of_steady whole steady.below _) unmoved
  | tell s notice rest tasks =>
    cases tame with
    | steady _ whole steady =>
      refine incurs_of_calm rfl rfl rfl (tell_calm whole steady.below notice rest) ?_
      dsimp only
      rw [tell_sched]
      exact unmoved
  | complain s notice rest failure tasks =>
    cases tame with
    | steady _ whole steady =>
      refine .charges ?_ (report_charges whole steady.below _)
      rintro _ ⟨⟩
      obtain ⟨stacked, _⟩ := shaped
      cases stacked with
      | on upper _ =>
        cases upper with
        | announcing _ announces => cases announces <;> rfl
  | tellFault s fault rest tasks =>
    cases tame with
    | steady _ _ steady => exact absurd steady.top Bool.false_ne_true
    | reporting _ _ _ whole steady =>
      refine .keeps rfl rfl (tellFault_tame whole steady fault rest) ?_
        (tellFault_idle steady fault rest) (tellFault_reporting? steady fault rest)
      dsimp only
      rw [tellFault_sched]
      exact unmoved
  | giveUp s fault rest failure tasks =>
    cases tame with
    | steady _ _ steady => exact absurd steady.top Bool.false_ne_true
    | reporting _ _ _ whole steady =>
      have reported : (s.addReport (secondaryFault fault failure)).Whole := { whole with }
      exact .givesUp fault failure rfl rfl rfl (calm_of_steady reported steady _) rfl
        ⟨rfl, rfl, rfl, rfl, rfl, rfl⟩
  | paint s leaf primitive rest tasks =>
    cases tame with
    | steady _ _ steady => exact absurd steady.top Bool.false_ne_true
    | painting _ _ _ whole running steady =>
      refine .charges (fun o failed => absurd failed (Option.not_mem_none o)) ?_
      exact paint_charges whole steady running leaf primitive rest
  | spoil s leaf primitive rest fault tasks =>
    cases tame with
    | steady _ _ steady => exact absurd steady.top Bool.false_ne_true
  | pause s tasks =>
    cases tame with
    | steady _ whole steady =>
      exact incurs_of_calm rfl rfl rfl (pause_calm whole steady.below) pause_unmoved
  | settle s result rest tasks =>
    cases tame with
    | steady _ whole steady =>
      refine incurs_of_calm rfl rfl rfl (settle_calm whole steady.below result rest) ?_
      dsimp only
      rw [settle_sched]
      exact unmoved
  | answer s more tasks =>
    cases tame with
    | steady _ whole steady =>
      exact incurs_of_calm rfl rfl rfl (calm_of_steady whole steady.below _) unmoved
  | pass s task failure tasks passes =>
    cases tame with
    | steady _ whole steady =>
      cases passes with
      | painting => exact absurd steady.top Bool.false_ne_true
      | _ => exact incurs_of_calm rfl rfl rfl (calm_of_steady whole steady.below _) unmoved
    | _ => cases passes
  | refuse s site tasks signal =>
    exact incurs_of_stay tame tame.whole unmoved rfl
  | supersede s site tasks signal entries callback? batch allowed coerced =>
    rw [Rules.tame, Bool.and_eq_true, Move.isWhole, Move.every, coerced] at allowed
    obtain ⟨whole, steady⟩ := tame.of_active allowed.1
    have cueing : Steady (.cueing batch callback? :: .foreign site :: tasks) :=
      steady.cons allowed.2
    exact incurs_of_cancel whole cueing rfl rfl rfl (isDrawing_of_steady steady)
  | cue s site tasks signal entries callback? batch allowed coerced =>
    rw [Rules.tame, Bool.and_eq_true, Move.isWhole, Move.every, coerced] at allowed
    obtain ⟨whole, steady⟩ := tame.of_active allowed.1
    exact incurs_of_receive whole tidy steady allowed.2 rfl rfl rfl (isDrawing_of_steady steady)
  | stop s site tasks signal =>
    exact incurs_of_stay tame { tame.whole with } ⟨rfl, rfl, rfl, rfl, rfl, rfl⟩ rfl
  | step s site tasks signal allowed =>
    obtain ⟨whole, steady⟩ := tame.of_active allowed
    exact incurs_of_takeStep whole steady unmoved rfl rfl rfl (isDrawing_of_steady steady)
  | idle s site tasks signal position allowed missing =>
    refine incurs_of_stay tame tame.whole unmoved ?_
    simp [Moment.fault?, stepping?, missing]
  | expire s site tasks signal position timer allowed found stale =>
    refine incurs_of_stay tame { tame.whole with } ⟨rfl, rfl, rfl, rfl, rfl, rfl⟩ ?_
    simp [Moment.fault?, stepping?, found, stale]
  | resume s site tasks signal position timer allowed found current =>
    obtain ⟨whole, steady⟩ := tame.of_active allowed
    have expired : ({ s with timers := s.timers.eraseIdx position } : Scheduler).Whole :=
      { whole with }
    have running : Steady (.running :: .foreign site :: tasks) := steady.cons rfl
    refine incurs_of_takeStep expired running ⟨rfl, rfl, rfl, rfl, rfl, rfl⟩ rfl rfl ?_
      (isDrawing_of_steady steady)
    simp only [Moment.fault?, stepping?, found, current, if_true, Option.bind_some]
  | attach s site tasks signal =>
    exact incurs_of_stay tame { tame.whole with } ⟨rfl, rfl, rfl, rfl, rfl, rfl⟩ rfl
  | define s site tasks signal name params body allowed =>
    have new : Command.areWhole body = true := by cases site <;> exact allowed
    exact incurs_of_stay tame (tame.whole.define name params new) ⟨rfl, rfl, rfl, rfl, rfl, rfl⟩ rfl
  | finish s site tasks signal =>
    cases tame with
    | steady _ whole steady =>
      exact incurs_of_calm rfl rfl (isDrawing_of_steady steady)
        (calm_of_steady whole steady.below _) unmoved
    | told id notice _ whole steady =>
      exact incurs_of_calm rfl rfl rfl (calm_of_steady whole steady _) unmoved
    | toldFault id fault rest _ whole steady =>
      exact .keeps rfl rfl (.reporting fault rest .returned whole steady) unmoved rfl (Or.inr rfl)
    | drawing call leaf primitive rest _ whole running steady =>
      exact .keeps rfl rfl (.painting leaf primitive rest whole running steady) unmoved rfl
        (Or.inl rfl)
  | raise s site tasks signal failure inside allowed =>
    cases tame with
    | steady _ whole steady =>
      exact incurs_of_calm rfl rfl (isDrawing_of_steady steady)
        (calm_of_steady whole steady.below _) unmoved
    | told id notice _ whole steady =>
      exact incurs_of_calm rfl rfl rfl (calm_of_steady whole steady _) unmoved
    | toldFault id fault rest _ whole steady =>
      exact .keeps rfl rfl (.reporting fault rest _ whole steady) unmoved rfl (Or.inr rfl)
    | drawing => exact absurd allowed Bool.false_ne_true

end Engine

end Turtle
