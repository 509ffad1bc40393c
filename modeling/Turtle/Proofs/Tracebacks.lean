import Turtle.Proofs.Attribution
import Turtle.Proofs.Recording
import Turtle.Proofs.Window
import Turtle.Run.Traceback

/-!
# Tracebacks

A fault is entered into the journal when it is reported, and it is given the number of its entry.
The fault of an observer that fails while it is told of another fault is not entered: it bears the
number of that one.  So a traceback always shows the number of an entry that was made for the fault,
and it shows the state after that entry as long as the entry is in the window of the journal.
-/

set_option autoImplicit false

namespace Turtle

namespace Moment

/-- At a moment a fault is entered into the journal and reported with the number of its entry. -/
structure Enters (m : Moment) (fault : Fault) (entry : Entry StepEvent) : Prop where
  reported : m.fault? = some fault
  logged : m.before.sched.logged? m.after.sched = some entry
  event_eq : entry.event = .error fault.message
  at_eq : entry.at? = fault.at?
  step_eq : fault.step? = some entry.index

/-- At a moment an observer fails that has been told of a fault. -/
structure GivesUp (m : Moment) (primary fault : Fault) : Prop where
  told : ∃ rest tasks, m.before.tasks = .reporting primary rest :: tasks
  failed : ∃ failure, m.before.signal = .raised failure ∧
    fault = Engine.secondaryFault primary failure

end Moment

/-- The fault that observers are told of by a task. -/
def Task.told? : Task → Option Fault
  | .reporting fault _ => some fault
  | _ => none

/-- The faults that observers are being told of. -/
def Engine.told (e : Engine) : List Fault :=
  e.tasks.filterMap Task.told?

/-! ## Turns -/

namespace Engine

variable {rules : Rules} {e next : Engine} {turn : Turn} {s : Scheduler} {tasks : List Task}

/-- Nobody is told of a fault but those who are being told already. -/
def Quiet (tasks : List Task) (done : Engine) : Prop :=
  done.told ⊆ tasks.filterMap Task.told?

theorem tell_quiet (notice : Notice) (observers : List Nat) :
    Quiet tasks (tell s notice tasks observers) := by
  cases observers <;> exact List.Subset.refl _

theorem tellFault_told (fault : Fault) (observers : List Nat) :
    (tellFault s fault tasks observers).told ⊆ fault :: tasks.filterMap Task.told? := by
  cases observers with
  | nil => exact List.subset_cons_self _ _
  | cons observer rest => exact List.Subset.refl _

theorem settle_quiet (result : RunResult) (callbacks : List Nat) :
    Quiet tasks (settle s result tasks callbacks) := by
  cases callbacks <;> exact List.Subset.refl _

theorem halt_quiet (phase : Phase) : Quiet tasks (halt s phase tasks) := by
  unfold halt
  split
  · exact (tell_quiet _ _ : Quiet (.settling _ _ :: tasks) _)
  · exact List.Subset.refl _

theorem paint_quiet (leaf : Command) (primitive : Primitive) (calls : List Call) :
    Quiet tasks (paint s leaf primitive tasks calls) := by
  cases calls with
  | nil =>
    rcases paint_nil_cases s leaf primitive tasks with ⟨_, _, painted⟩ | ⟨_, painted⟩
    · rw [painted]
      exact (tell_quiet _ _ : Quiet (.pausing :: tasks) _)
    · rw [painted]
      exact List.Subset.refl _
  | cons call rest => exact List.Subset.refl _

theorem pause_quiet : Quiet tasks (pause s tasks) := by
  unfold pause
  split <;> exact List.Subset.refl _

theorem receive_quiet (batch : List Command) (callback? : Option Nat) :
    Quiet tasks (receive s batch callback? tasks) := by
  unfold receive
  split
  · exact List.Subset.refl _
  split
  · exact List.Subset.refl _
  · exact (tell_quiet _ _ : Quiet (.starting :: tasks) _)

/-- What a moment has to do with faults: nothing, or one is entered and reported, or an observer of
one has failed. -/
inductive Files (m : Moment) : Prop where
  | nothing : m.fault? = none → m.after.told ⊆ m.before.told → Files m
  | enters {fault : Fault} {entry : Entry StepEvent} : m.Enters fault entry →
    m.after.told ⊆ fault :: m.before.told → Files m
  | givesUp {primary fault : Fault} : m.fault? = some fault → m.GivesUp primary fault →
    m.after.told ⊆ m.before.told → Files m

theorem files_of_report {fault : Fault} (journal_eq : s.journal = e.sched.journal)
    (told_eq : tasks.filterMap Task.told? = e.told)
    (reported : (Moment.mk e turn (report s fault tasks)).fault? = s.reported? fault) :
    Files ⟨e, turn, report s fault tasks⟩ := by
  rcases report_cases s fault tasks with ⟨stack?, recorded, same⟩ | ⟨unrecordable, same⟩
  · rw [Scheduler.reported?_of_snapshot recorded] at reported
    rw [same] at reported ⊢
    have written : (tellFault (s.reportWith fault stack?).1 (s.reportWith fault stack?).2 tasks
        (s.observersOf .onError)).sched.journal =
          e.sched.journal.record (.error fault.message) fault.at? stack? := by
      rw [tellFault_sched, ← journal_eq]
      rfl
    refine .enters ⟨reported, Scheduler.logged?_of_record written, rfl, rfl, ?_⟩ ?_
    · exact congrArg (fun journal : Journal StepEvent => some journal.next) journal_eq
    · rw [← told_eq]
      exact tellFault_told _ _
  · rw [Scheduler.reported?_of_unrecordable unrecordable] at reported
    rw [same] at reported ⊢
    exact .nothing reported (told_eq ▸ List.Subset.refl _)

theorem files_of_takeStep
    (reported : (Moment.mk e turn (takeStep s tasks)).fault? = s.stepFault?)
    (journal_eq : s.journal = e.sched.journal)
    (told_eq : tasks.filterMap Task.told? = e.told) : Files ⟨e, turn, takeStep s tasks⟩ := by
  have writes := s.step_writes
  obtain ⟨after, work, stepped⟩ : ∃ after work, s.step = (after, work) := ⟨_, _, rfl⟩
  rw [Scheduler.stepFault?, stepped] at reported
  rw [stepped] at writes
  rw [takeStep, stepped] at reported ⊢
  cases work with
  | answer more => exact .nothing reported (told_eq ▸ List.Subset.refl _)
  | draw leaf primitive calls =>
    have quiet : Quiet tasks (paint after leaf primitive tasks calls) := paint_quiet _ _ _
    exact .nothing reported (told_eq ▸ quiet)
  | report fault =>
    rcases writes with ⟨-, same⟩ | ⟨answers, -⟩
    · have unwritten : after.journal = s.journal := same
      exact files_of_report (unwritten.trans journal_eq) told_eq reported
    · contradiction
  | halt phase =>
    have quiet : Quiet (.stepped false :: tasks) (halt after phase (.stepped false :: tasks)) :=
      halt_quiet phase
    exact .nothing reported (told_eq ▸ quiet)
  | fail failure => exact .nothing reported (told_eq ▸ List.Subset.refl _)

theorem Acts.files (acts : Acts rules e turn next) : Files ⟨e, turn, next⟩ := by
  have unchanged : e.told ⊆ e.told := List.Subset.refl _
  cases acts with
  | receive => exact .nothing rfl (receive_quiet _ _)
  | start | goOn | step => exact files_of_takeStep rfl rfl rfl
  | cancel => exact .nothing rfl (halt_quiet _)
  | tell => exact .nothing rfl (tell_quiet _ _)
  | complain => exact files_of_report rfl rfl rfl
  | tellFault => exact .nothing rfl (tellFault_told _ _)
  | giveUp s fault rest failure tasks =>
    exact .givesUp rfl ⟨⟨rest, tasks, rfl⟩, failure, rfl, rfl⟩ (List.subset_cons_self _ _)
  | paint => exact .nothing rfl (paint_quiet _ _ _)
  | spoil => exact files_of_report rfl rfl rfl
  | pause => exact .nothing rfl pause_quiet
  | settle => exact .nothing rfl (settle_quiet _ _)
  | pass s task failure tasks passes =>
    cases passes with
    | painting leaf primitive rest other =>
      cases failure with
      | fault fault => exact absurd rfl (other fault)
      | _ => exact .nothing rfl unchanged
    | _ => exact .nothing rfl unchanged
  | supersede => exact .nothing rfl (halt_quiet _)
  | cue => exact .nothing rfl (receive_quiet _ _)
  | idle s site tasks signal position allowed missing =>
    exact .nothing (by simp [Moment.fault?, stepping?, missing]) unchanged
  | expire s site tasks signal position timer allowed found stale =>
    exact .nothing (by simp [Moment.fault?, stepping?, found, stale]) unchanged
  | resume s site tasks signal position timer allowed found current =>
    refine files_of_takeStep ?_ rfl rfl
    simp only [Moment.fault?, stepping?, found, current, if_true, Option.bind_some]
  | _ => exact .nothing rfl unchanged

end Engine

/-! ## What is shown of an entry -/

namespace Scheduler

end Scheduler

/-! ## Plays -/

namespace Plays

variable {rules : Rules} {settings : Settings} {journal : Journal StepEvent}
  {registry : Registry} {history : Nat} {past later earlier : List Moment} {now : Engine}
  {m : Moment} {fault : Fault} {entry : Entry StepEvent}

/-- The journal of a play is a window on all that has been recorded in it. -/
theorem views
    (played : Plays rules (.atRest (.fresh settings (.empty history) registry)) past now) :
    now.sched.journal.Views (recorded past) ∧ now.sched.journal.history = history := by
  refine played.by_acts (fun past now => now.sched.journal.Views (recorded past) ∧
    now.sched.journal.history = history) ?_ ?_
  · exact ⟨Journal.views_empty history, rfl⟩
  intro past e turn next _ _ acts before
  obtain ⟨views, history_eq⟩ := before
  obtain ⟨event?, writes⟩ := acts.writes
  rw [recorded]
  dsimp only
  cases event? with
  | none =>
    rw [Scheduler.logged?_of_same writes, Option.toList_none, List.append_nil,
      show next.sched.journal = e.sched.journal from writes]
    exact ⟨views, history_eq⟩
  | some event =>
    obtain ⟨at?, stack?, written⟩ := writes
    rw [Scheduler.logged?_of_record written, Option.toList_some, written]
    exact ⟨views.record event at? stack?, history_eq⟩

/-- The entry that was made for a fault: when it was reported, or, if the fault is that of an
observer who was told of another one, when that one was. -/
inductive MadeFor (entry : Entry StepEvent) (earlier : List Moment) (m : Moment) (fault : Fault) :
    Prop where
  | own : m.Enters fault entry → MadeFor entry earlier m fault
  | primary {primary : Fault} {before : Moment} : before ∈ earlier →
    before.Enters primary entry → m.GivesUp primary fault → MadeFor entry earlier m fault

theorem MadeFor.step_eq (made : MadeFor entry earlier m fault) :
    fault.step? = some entry.index := by
  cases made with
  | own entered => exact entered.step_eq
  | primary _ entered givesUp =>
    obtain ⟨failure, -, rfl⟩ := givesUp.failed
    exact entered.step_eq

end Plays

end Turtle
