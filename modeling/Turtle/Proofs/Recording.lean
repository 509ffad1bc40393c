import Turtle.Proofs.Change
import Turtle.Proofs.Stack

/-!
# What is recorded in a play

A turn writes one entry into the journal at most.  So all that has been recorded in a play can be
read off its moments, in its order, however few of the entries the journal itself still holds.
-/

set_option autoImplicit false

namespace Turtle

def StepEvent.isPrimitive : StepEvent → Bool
  | primitive _ => true
  | _ => false

def StepEvent.isError : StepEvent → Bool
  | error _ => true
  | _ => false

/-- An entry has been written into a journal, or none. -/
def Journal.Writes (journal next : Journal StepEvent) : Option StepEvent → Prop
  | none => next = journal
  | some event => ∃ at? stack?, next = journal.record event at? stack?

namespace Scheduler

/-- The entry that has been added to the journal in between. -/
def logged? (before after : Scheduler) : Option (Entry StepEvent) :=
  if after.journal.next = before.journal.next then none else after.journal.last?

def logsPrimitive (before after : Scheduler) : Bool :=
  (before.logged? after).any fun entry => entry.event.isPrimitive

variable {s next : Scheduler}

theorem logged?_of_same (same : next.journal = s.journal) : s.logged? next = none := by
  simp [logged?, same]

theorem logged?_of_record {event : StepEvent} {at? : Option Location}
    {stack? : Option (List String)} (recorded : next.journal = s.journal.record event at? stack?) :
    s.logged? next = some ⟨s.journal.next, event, at?, stack?⟩ := by
  simp [logged?, recorded, Journal.record, Journal.last?]

theorem logsPrimitive_of_writes {event? : Option StepEvent}
    (writes : s.journal.Writes next.journal event?) :
    s.logsPrimitive next = event?.any StepEvent.isPrimitive := by
  cases event? with
  | none =>
    rw [logsPrimitive, logged?_of_same writes]
    rfl
  | some event =>
    obtain ⟨at?, stack?, recorded⟩ := writes
    rw [logsPrimitive, logged?_of_record recorded]
    rfl

theorem logsPrimitive_of_same (same : next.journal = s.journal) : s.logsPrimitive next = false :=
  logsPrimitive_of_writes (show s.journal.Writes next.journal none from same)

theorem complete_writes (event : StepEvent) (at? : Option Location)
    (primitive : event.isPrimitive = false) (error : event.isError = false) :
    (s.complete event at?).2 ≠ .answer true ∧
        s.journal.Writes (s.complete event at?).1.journal none ∨
      (s.complete event at?).2 = .answer true ∧ ∃ written,
        s.journal.Writes (s.complete event at?).1.journal (some written) ∧
          written.isPrimitive = false ∧ written.isError = false := by
  rcases s.complete_cases event at? with ⟨_, _, completed⟩ | ⟨_, completed⟩
  · rw [completed]
    exact Or.inr ⟨rfl, event, ⟨_, _, rfl⟩, primitive, error⟩
  · rw [completed]
    exact Or.inl ⟨Work.noConfusion, rfl⟩

theorem operate_writes (op : String) (args : List String) (at? : Option Location) :
    (s.operate op args at?).2 ≠ .answer true ∧
        s.journal.Writes (s.operate op args at?).1.journal none ∨
      (s.operate op args at?).2 = .answer true ∧ ∃ event,
        s.journal.Writes (s.operate op args at?).1.journal (some event) ∧
          event.isPrimitive = false ∧ event.isError = false := by
  unfold operate
  split
  · split
    · exact Or.inl ⟨Work.noConfusion, rfl⟩
    · exact complete_writes (s := { s with stack := _ }) (.call _) at? rfl rfl
  · split
    · exact Or.inl ⟨Work.noConfusion, rfl⟩
    · split <;> exact Or.inl ⟨Work.noConfusion, rfl⟩

theorem advance_writes (frame : Frame) (below : List Frame) :
    (s.advance frame below).2 ≠ .answer true ∧
        s.journal.Writes (s.advance frame below).1.journal none ∨
      (s.advance frame below).2 = .answer true ∧ ∃ event,
        s.journal.Writes (s.advance frame below).1.journal (some event) ∧
          event.isPrimitive = false ∧ event.isError = false := by
  unfold advance
  split
  · split
    · dsimp only
      split
      · exact complete_writes (s := { s with stack := _ }) (.round _) _ rfl rfl
      · exact complete_writes (s := { s with stack := below }) .roundsOver _ rfl rfl
    · exact Or.inl ⟨Work.noConfusion, rfl⟩
  · exact complete_writes (s := ({ s with stack := below } : Scheduler).define _ _ _) (.define _) _
      rfl rfl
  · exact Or.inl ⟨Work.noConfusion, rfl⟩
  · exact operate_writes (s := { s with stack := below }) ..

/-- A step writes one entry by itself if it is done with that, and this is neither a primitive nor
an error; and it writes nothing if it fails or leaves anything to be done. -/
theorem step_writes (s : Scheduler) :
    s.step.2 ≠ .answer true ∧ s.journal.Writes s.step.1.journal none ∨
      s.step.2 = .answer true ∧ ∃ event,
        s.journal.Writes s.step.1.journal (some event) ∧
          event.isPrimitive = false ∧ event.isError = false := by
  unfold step
  split
  · exact Or.inl ⟨fun same => Bool.noConfusion (Work.answer.inj same), rfl⟩
  · split
    · exact Or.inl ⟨Work.noConfusion, rfl⟩
    · dsimp only
      split
      · exact advance_writes (s := { s with steps := s.steps + 1 }) ..
      · split
        · exact Or.inl ⟨Work.noConfusion, rfl⟩
        · exact complete_writes
            (s := { s with steps := s.steps + 1, queue := _, stack := _ }) .dequeue _ rfl rfl

end Scheduler

namespace Engine

variable {s : Scheduler} {tasks : List Task}

theorem report_writes (recordable : s.Recordable) (fault : Fault) :
    s.journal.Writes (report s fault tasks).sched.journal (some (.error fault.message)) := by
  obtain ⟨_, recorded⟩ := recordable
  rw [report_of_snapshot recorded, tellFault_sched]
  exact ⟨_, _, rfl⟩

theorem report_unwritten (unrecordable : ¬s.Recordable) (fault : Fault) :
    s.journal.Writes (report s fault tasks).sched.journal none := by
  rw [report_of_unrecordable unrecordable]
  exact rfl

theorem exists_report_writes (fault : Fault) :
    ∃ event?, s.journal.Writes (report s fault tasks).sched.journal event? := by
  by_cases recordable : s.Recordable
  · exact ⟨_, report_writes recordable fault⟩
  · exact ⟨_, report_unwritten recordable fault⟩

theorem paint_writes (recordable : s.Recordable) (leaf : Command) (primitive : Primitive)
    (calls : List Call) :
    s.journal.Writes (paint s leaf primitive tasks calls).sched.journal
      (if calls.isEmpty then some (.primitive primitive.name) else none) := by
  cases calls with
  | nil =>
    obtain ⟨_, recorded⟩ := recordable
    rw [paint_nil_of_snapshot recorded, announce_sched]
    exact ⟨_, _, rfl⟩
  | cons call rest => exact rfl

theorem paint_unwritten (unrecordable : ¬s.Recordable) (leaf : Command) (primitive : Primitive)
    (calls : List Call) :
    s.journal.Writes (paint s leaf primitive tasks calls).sched.journal none := by
  cases calls with
  | nil =>
    rw [paint_nil_of_unrecordable unrecordable]
    exact rfl
  | cons call rest => exact rfl

theorem exists_paint_writes (leaf : Command) (primitive : Primitive) (calls : List Call) :
    ∃ event?, s.journal.Writes (paint s leaf primitive tasks calls).sched.journal event? := by
  by_cases recordable : s.Recordable
  · exact ⟨_, paint_writes recordable leaf primitive calls⟩
  · exact ⟨_, paint_unwritten recordable leaf primitive calls⟩

theorem halt_writes (running : s.phase = .running) (phase : Phase) :
    s.journal.Writes (halt s phase tasks).sched.journal (some (.halt phase)) := by
  rw [halt_of_running running, announce_sched]
  exact ⟨_, _, rfl⟩

theorem exists_halt_writes (phase : Phase) :
    ∃ event?, s.journal.Writes (halt s phase tasks).sched.journal event? := by
  by_cases running : s.phase = .running
  · exact ⟨_, halt_writes running phase⟩
  · rw [halt_of_rest running]
    exact ⟨none, rfl⟩

theorem exists_takeStep_writes :
    ∃ event?, s.journal.Writes (takeStep s tasks).sched.journal event? := by
  have writes := s.step_writes
  obtain ⟨after, work, stepped⟩ : ∃ after work, s.step = (after, work) := ⟨_, _, rfl⟩
  rw [stepped] at writes
  rw [takeStep, stepped]
  rcases writes with ⟨_, same⟩ | ⟨answered, event, written, _⟩
  · rw [← show after.journal = s.journal from same]
    cases work with
    | answer more => exact ⟨none, rfl⟩
    | draw leaf primitive calls => exact exists_paint_writes leaf primitive calls
    | report fault => exact exists_report_writes fault
    | halt phase => exact exists_halt_writes phase
    | fail failure => exact ⟨none, rfl⟩
  · obtain rfl : work = .answer true := answered
    exact ⟨_, written⟩

theorem receive_unwritten (batch : List Command) (callback? : Option Nat) :
    (receive s batch callback? tasks).sched.journal = s.journal := by
  unfold receive
  split
  · rfl
  · split
    · rfl
    · rw [announce_sched]
      rfl

variable {rules : Rules} {e next : Engine} {turn : Turn}

/-- A turn writes one entry at most. -/
theorem Acts.writes (acts : Acts rules e turn next) :
    ∃ event?, e.sched.journal.Writes next.sched.journal event? := by
  cases acts with
  | receive => exact ⟨none, receive_unwritten _ _⟩
  | start => exact exists_takeStep_writes
  | goOn => exact exists_takeStep_writes
  | cancel => exact exists_halt_writes _
  | tell => exact ⟨none, congrArg Scheduler.journal (tell_sched _ _ _ _)⟩
  | complain => exact exists_report_writes _
  | tellFault => exact ⟨none, congrArg Scheduler.journal (tellFault_sched _ _ _ _)⟩
  | paint => exact exists_paint_writes _ _ _
  | spoil => exact exists_report_writes _
  | pause =>
    refine ⟨none, ?_⟩
    unfold Engine.pause
    split <;> exact rfl
  | settle => exact ⟨none, congrArg Scheduler.journal (settle_sched _ _ _ _)⟩
  | supersede => exact exists_halt_writes _
  | cue => exact ⟨none, receive_unwritten _ _⟩
  | step => exact exists_takeStep_writes
  | resume s site tasks signal position =>
    exact exists_takeStep_writes (s := { s with timers := s.timers.eraseIdx position })
  | _ => exact ⟨none, rfl⟩

end Engine

namespace Plays

/-- What has been entered into the journal, in its order. -/
def recorded : List Moment → List (Entry StepEvent)
  | [] => []
  | m :: past => recorded past ++ (m.before.sched.logged? m.after.sched).toList

def primitives (past : List Moment) : Nat :=
  (recorded past).countP fun entry => entry.event.isPrimitive

theorem primitives_cons (m : Moment) (past : List Moment) :
    primitives (m :: past) =
      primitives past + (m.before.sched.logsPrimitive m.after.sched).toNat := by
  rw [primitives, recorded, List.countP_append, primitives, Scheduler.logsPrimitive]
  cases m.before.sched.logged? m.after.sched with
  | none => rfl
  | some entry => cases primitive : entry.event.isPrimitive <;> simp [primitive]

end Plays

end Turtle
