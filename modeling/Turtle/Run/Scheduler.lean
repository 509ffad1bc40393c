import Turtle.Drawing.Primitive
import Turtle.Procedure.Binding
import Turtle.Run.Frame
import Turtle.Run.Journal
import Turtle.Run.Queue

/-!
# The scheduler

The state of a turtle that runs programs: what is defined, what waits, what is being carried out,
and what has been reported.  Its commands are carried out in cycles.  A cycle begins when commands
are cued while nothing runs, and it halts when they are exhausted or when it is cancelled.

This module holds the state and what can be done to it at once.  Whatever calls foreign code on the
way (observers, callbacks, the drawing) is the business of `Turtle.Run.Engine`.
-/

set_option autoImplicit false

namespace Turtle

inductive Phase where
  | idle
  | running
  | exhausted
  | cancelled
deriving Repr, DecidableEq

def Phase.name : Phase → String
  | idle => "idle"
  | running => "running"
  | exhausted => "exhausted"
  | cancelled => "cancelled"

/-- The moments of a run that observers can be attached to. -/
inductive Event where
  | programStart
  | afterPrimitive
  | onError
  | programEnd
deriving Repr, DecidableEq

def Event.name : Event → String
  | programStart => "program_start"
  | afterPrimitive => "after_primitive"
  | onError => "on_error"
  | programEnd => "program_end"

def Event.ofName? (name : String) : Option Event :=
  [programStart, afterPrimitive, onError, programEnd].find? fun event => event.name = name

inductive StepEvent where
  | dequeue
  | round (iteration : Nat)
  | roundsOver
  | define (name : String)
  | call (procedure : String)
  | primitive (op : String)
  | error (message : String)
  | halt (phase : Phase)
deriving Repr, DecidableEq

def StepEvent.rule : StepEvent → String
  | dequeue => "DEQUEUE"
  | round _ => "REPEAT"
  | roundsOver => "REPEAT_END"
  | define _ => "DEFINE"
  | call _ => "CALL"
  | primitive _ => "PRIMITIVE"
  | error _ => "ERROR"
  | halt _ => "HALT"

structure Settings where
  animate : Bool
  delay : Float
  clocked : Bool
  verbose : Bool

/-- A pause that the clock has been asked for, and the generation it belongs to. -/
structure Timer where
  delay : Float
  generation : Nat

/-- A reported fault, and the cycle it was reported in. -/
structure Report where
  cycle : Nat
  fault : Fault
deriving Repr

/-- How a cycle ended.  The faults of the cycle are found among the reports: some may still be
reported after its end. -/
structure RunResult where
  phase : Phase
  cycle : Nat
  steps : Nat
deriving Repr, DecidableEq

def RunResult.cancelled (result : RunResult) : Bool :=
  result.phase = .cancelled

structure Scheduler where
  settings : Settings
  phase : Phase
  /-- The running cycle has not been asked to stop. -/
  live : Bool
  queue : CommandQueue
  /-- The commands that are being carried out, topmost first. -/
  stack : List Frame
  journal : Journal StepEvent
  /-- The number of cycles that have begun. -/
  cycle : Nat
  /-- The reported faults of all cycles, newest first. -/
  reports : List Report
  /-- The callbacks of the running cycle, in the order in which they were given. -/
  callbacks : List Nat
  /-- The running cycle waits for the clock after every primitive. -/
  paced : Bool
  /-- Grows whenever a cycle begins or halts, so that older timers are out of date. -/
  generation : Nat
  steps : Nat
  registry : Registry
  /-- The observers and their events, in the order in which they were attached. -/
  observers : List (Event × Nat)
  /-- The pauses that the clock has not ended yet, in the order in which they were asked for. -/
  timers : List Timer
  /-- Everything that the drawing has been asked for, newest first. -/
  calls : List Call

namespace Scheduler

/-- A scheduler that has not run yet. -/
def idle (settings : Settings) (journal : Journal StepEvent) : Scheduler :=
  { settings := settings, phase := .idle, live := false, queue := .empty, stack := [],
    journal := journal, cycle := 0, reports := [], callbacks := [], paced := false,
    generation := 0, steps := 0, registry := .empty, observers := [], timers := [], calls := [] }

/-- A scheduler that has not run yet, with a journal for so many entries. -/
def start (settings : Settings) (history : Int) : Except Failure Scheduler :=
  (Journal.start history).map (idle settings)

/-- Whether a cycle is running, even if it has been asked to stop. -/
def isRunning (s : Scheduler) : Bool :=
  s.phase = .running

/-- The faults of a cycle, in the order in which they were reported. -/
def faultsOf (s : Scheduler) (cycle : Nat) : List Fault :=
  ((s.reports.filter fun report => report.cycle = cycle).map Report.fault).reverse

def faults (s : Scheduler) : List Fault :=
  s.faultsOf s.cycle

/-- The observers of an event, in the order in which they were attached. -/
def observersOf (s : Scheduler) (event : Event) : List Nat :=
  (s.observers.filter fun attached => attached.1 = event).map Prod.snd

def attach (s : Scheduler) (event : Event) (observer : Nat) : Scheduler :=
  { s with observers := s.observers ++ [(event, observer)] }

def stop (s : Scheduler) : Scheduler :=
  { s with live := false }

def define (s : Scheduler) (name : String) (params : List String) (body : List Command) :
    Scheduler :=
  { s with registry := s.registry.define name params body }

/-- Adds an entry to the journal, with a stack or without one. -/
def enter (s : Scheduler) (event : StepEvent) (at? : Option Location)
    (stack? : Option (List String)) : Scheduler :=
  { s with journal := s.journal.record event at? stack? }

/-- The stack in short, if stacks are recorded.  It fails where a frame cannot be described. -/
def snapshot (s : Scheduler) : Except Failure (Option (List String)) :=
  if s.settings.verbose then
    match Frame.describeAll? s.stack.reverse with
    | some stack => .ok (some stack)
    | none => .error .unwritableNumber
  else .ok none

/-- The stack is not recorded, or it can be. -/
def Recordable (s : Scheduler) : Prop :=
  ∃ stack?, s.snapshot = .ok stack?

theorem snapshot_of_unrecordable {s : Scheduler} (unrecordable : ¬s.Recordable) :
    s.snapshot = .error .unwritableNumber := by
  unfold Recordable at unrecordable
  unfold snapshot at unrecordable ⊢
  split
  · split
    · simp_all
    · rfl
  · simp_all

/-- Adds an entry to the journal, with the stack as it is. -/
def log (s : Scheduler) (event : StepEvent) (at? : Option Location) : Except Failure Scheduler :=
  s.snapshot.map (s.enter event at?)

def addReport (s : Scheduler) (fault : Fault) : Scheduler :=
  { s with reports := ⟨s.cycle, fault⟩ :: s.reports }

/-- Enters and reports a fault.  The fault is given the number of its entry. -/
def reportWith (s : Scheduler) (fault : Fault) (stack? : Option (List String)) :
    Scheduler × Fault :=
  let numbered := { fault with step? := some s.journal.next }
  ((s.enter (.error fault.message) fault.at? stack?).addReport numbered, numbered)

/-- Logs and reports a fault. -/
def report (s : Scheduler) (fault : Fault) : Except Failure (Scheduler × Fault) :=
  s.snapshot.map (s.reportWith fault)

def arm (s : Scheduler) : Scheduler :=
  { s with timers := s.timers ++ [⟨s.settings.delay, s.generation⟩] }

/-- Ends the running cycle: what waits and what is being carried out is dropped, and the callbacks
are handed over to be called. -/
def endCycle (s : Scheduler) (phase : Phase) : Scheduler × RunResult × List Nat :=
  let halted :=
    { s with
      phase := phase, live := false, stack := [], queue := s.queue.clear,
      generation := s.generation + 1, paced := false }
  let stack? := if s.settings.verbose then some [] else none
  ({ halted.enter (.halt phase) none stack? with callbacks := [] }, ⟨phase, s.cycle, s.steps⟩,
    s.callbacks)

/-- Takes in a batch of commands: definitions are made at once, and other commands wait. -/
def accept (s : Scheduler) (batch : List Command) (callback? : Option Nat) : Scheduler :=
  { s with
    registry := s.registry.defineAll batch
    queue := s.queue.append (batch.filter fun command => !command.isDefinition)
    callbacks := s.callbacks ++ callback?.toList }

def beginCycle (s : Scheduler) : Scheduler :=
  { s with
    phase := .running, live := true, cycle := s.cycle + 1, steps := 0,
    paced := s.settings.animate, generation := s.generation + 1 }

/-- Runs from here on as if a cycle had begun, without beginning one. -/
def prime (s : Scheduler) : Scheduler :=
  { s with phase := .running, live := true }

/-- Puts commands at the end of the queue, definitions too. -/
def enqueue (s : Scheduler) (commands : List Command) : Scheduler :=
  { s with queue := s.queue.append commands }

end Scheduler

end Turtle
