import Turtle.Program.Value
import Turtle.Run.Step

/-!
# The engine

A scheduler calls foreign code (observers, completion callbacks and the drawing), and foreign code
may use the scheduler again before it returns, or fail.  The engine makes this a matter of plain
data: everything that has been begun and not finished lies on a stack of tasks, and a signal tells
how the work above the topmost task came out.

While foreign code lies topmost it is the turn of the environment, which makes moves: it may cue,
stop, step, fire timers and so on, each of which puts tasks on top of the foreign code, and in the
end it lets the foreign code return or fail.  In between the engine takes steps of its own.
-/

set_option autoImplicit false

namespace Turtle

inductive Notice where
  | programStart
  | afterPrimitive (leaf : Command)
  | onError (fault : Fault)
  | programEnd (result : RunResult)

def Notice.event : Notice → Event
  | programStart => .programStart
  | afterPrimitive _ => .afterPrimitive
  | onError _ => .onError
  | programEnd _ => .programEnd

/-- Where foreign code has control. -/
inductive Site where
  /-- Whoever uses the turtle. -/
  | outside
  | observer (id : Nat) (notice : Notice)
  | callback (id : Nat) (result : RunResult)
  | drawing (call : Call)

/-- Something that has been begun, and what is left of it. -/
inductive Task where
  | foreign (site : Site)
  /-- A batch is to be taken in when the cycle before it has ended. -/
  | cueing (batch : List Command) (callback? : Option Nat)
  /-- A cycle is to run when its start has been announced. -/
  | starting
  /-- Steps are taken as long as they ask for more. -/
  | running
  /-- A failure goes on when the cycle that it cancels has ended. -/
  | rethrow (failure : Failure)
  /-- Observers are told of something, one after another. -/
  | announcing (notice : Notice) (rest : List Nat)
  /-- Observers are told of a fault, one after another. -/
  | reporting (fault : Fault) (rest : List Nat)
  /-- A primitive is drawn, call by call. -/
  | painting (leaf : Command) (primitive : Primitive) (rest : List Call)
  /-- A step ends, with a pause in a paced run, when its primitive has been announced. -/
  | pausing
  /-- The callbacks of an ended cycle are called, one after another. -/
  | settling (result : RunResult) (rest : List Nat)
  /-- A step ends with an answer. -/
  | stepped (more : Bool)

/-- How the work above a task came out. -/
inductive Signal where
  /-- It has not begun: foreign code has been called. -/
  | called
  | returned
  /-- A step has ended; the answer tells whether the caller should keep stepping. -/
  | answered (more : Bool)
  | raised (failure : Failure)

/-- A scheduler at work: the tasks that have been begun, topmost first, and the signal for the
topmost one. -/
structure Engine where
  sched : Scheduler
  tasks : List Task
  signal : Signal

namespace Engine

def atRest (s : Scheduler) : Engine :=
  ⟨s, [.foreign .outside], .returned⟩

/-- The foreign code that has control, if it is the turn of the environment. -/
def site? (e : Engine) : Option Site :=
  match e.tasks with
  | .foreign site :: _ => some site
  | _ => none

def tell (s : Scheduler) (notice : Notice) (tasks : List Task) : List Nat → Engine
  | [] => ⟨s, tasks, .returned⟩
  | observer :: rest =>
    ⟨s, .foreign (.observer observer notice) :: .announcing notice rest :: tasks, .called⟩

/-- Tells the observers that are attached at this moment. -/
def announce (s : Scheduler) (notice : Notice) (tasks : List Task) : Engine :=
  tell s notice tasks (s.observersOf notice.event)

def tellFault (s : Scheduler) (fault : Fault) (tasks : List Task) : List Nat → Engine
  | [] => ⟨s, tasks, .returned⟩
  | observer :: rest =>
    ⟨s, .foreign (.observer observer (.onError fault)) :: .reporting fault rest :: tasks, .called⟩

def report (s : Scheduler) (fault : Fault) (tasks : List Task) : Engine :=
  match s.report fault with
  | .ok (reported, numbered) => tellFault reported numbered tasks (reported.observersOf .onError)
  | .error failure => ⟨s, tasks, .raised failure⟩

theorem report_of_snapshot {s : Scheduler} {stack? : Option (List String)}
    (recorded : s.snapshot = .ok stack?) (fault : Fault) (tasks : List Task) :
    report s fault tasks =
      tellFault (s.reportWith fault stack?).1 (s.reportWith fault stack?).2 tasks
        (s.observersOf .onError) := by
  rw [report, Scheduler.report, recorded]
  rfl

theorem report_of_unrecordable {s : Scheduler} (unrecordable : ¬s.Recordable) (fault : Fault)
    (tasks : List Task) : report s fault tasks = ⟨s, tasks, .raised .unwritableNumber⟩ := by
  rw [report, Scheduler.report, Scheduler.snapshot_of_unrecordable unrecordable]
  rfl

/-- A fault is reported, unless the stack cannot be recorded. -/
theorem report_cases (s : Scheduler) (fault : Fault) (tasks : List Task) :
    (∃ stack?, s.snapshot = .ok stack? ∧
        report s fault tasks =
          tellFault (s.reportWith fault stack?).1 (s.reportWith fault stack?).2 tasks
            (s.observersOf .onError)) ∨
      ¬s.Recordable ∧ report s fault tasks = ⟨s, tasks, .raised .unwritableNumber⟩ := by
  by_cases recordable : s.Recordable
  · obtain ⟨stack?, recorded⟩ := recordable
    exact Or.inl ⟨stack?, recorded, report_of_snapshot recorded fault tasks⟩
  · exact Or.inr ⟨recordable, report_of_unrecordable recordable fault tasks⟩

/-- The fault that a failing observer is reported as.  A fault is reported as it is; anything else
takes the place of the last entry of the journal. -/
def observerFault (s : Scheduler) (event : Event) : Failure → Fault
  | .fault fault => fault
  | failure =>
    ⟨.observerFailed event.name failure.message, s.journal.last?.bind Entry.at?, none⟩

/-- The fault of an observer of faults that failed: it stands beside the fault it was told of. -/
def secondaryFault (fault : Fault) (failure : Failure) : Fault :=
  ⟨.observerFailed Event.onError.name failure.message, fault.at?, fault.step?⟩

def settle (s : Scheduler) (result : RunResult) (tasks : List Task) : List Nat → Engine
  | [] => ⟨s, tasks, .returned⟩
  | callback :: rest =>
    ⟨s, .foreign (.callback callback result) :: .settling result rest :: tasks, .called⟩

/-- Ends the running cycle, if one is running: the end is announced, and then the callbacks are
called. -/
def halt (s : Scheduler) (phase : Phase) (tasks : List Task) : Engine :=
  if s.phase = .running then
    let (halted, result, callbacks) := s.endCycle phase
    announce halted (.programEnd result) (.settling result callbacks :: tasks)
  else ⟨s, tasks, .returned⟩

/-- Draws the next of some calls.  When all are drawn the primitive is logged and announced. -/
def paint (s : Scheduler) (leaf : Command) (primitive : Primitive) (tasks : List Task) :
    List Call → Engine
  | [] =>
    match s.log (.primitive primitive.name) leaf.location? with
    | .ok logged => announce logged (.afterPrimitive leaf) (.pausing :: tasks)
    | .error failure => ⟨s, tasks, .raised failure⟩
  | call :: rest =>
    ⟨{ s with calls := call :: s.calls },
      .foreign (.drawing call) :: .painting leaf primitive rest :: tasks, .called⟩

theorem paint_nil_of_snapshot {s : Scheduler} {stack? : Option (List String)}
    (recorded : s.snapshot = .ok stack?) (leaf : Command) (primitive : Primitive)
    (tasks : List Task) :
    paint s leaf primitive tasks [] =
      announce (s.enter (.primitive primitive.name) leaf.location? stack?) (.afterPrimitive leaf)
        (.pausing :: tasks) := by
  rw [paint, Scheduler.log, recorded]
  rfl

theorem paint_nil_of_unrecordable {s : Scheduler} (unrecordable : ¬s.Recordable)
    (leaf : Command) (primitive : Primitive) (tasks : List Task) :
    paint s leaf primitive tasks [] = ⟨s, tasks, .raised .unwritableNumber⟩ := by
  rw [paint, Scheduler.log, Scheduler.snapshot_of_unrecordable unrecordable]
  rfl

/-- A primitive that has been drawn is announced, unless the stack cannot be recorded. -/
theorem paint_nil_cases (s : Scheduler) (leaf : Command) (primitive : Primitive)
    (tasks : List Task) :
    (∃ stack?, s.snapshot = .ok stack? ∧
        paint s leaf primitive tasks [] =
          announce (s.enter (.primitive primitive.name) leaf.location? stack?)
            (.afterPrimitive leaf) (.pausing :: tasks)) ∨
      ¬s.Recordable ∧
        paint s leaf primitive tasks [] = ⟨s, tasks, .raised .unwritableNumber⟩ := by
  by_cases recordable : s.Recordable
  · obtain ⟨stack?, recorded⟩ := recordable
    exact Or.inl ⟨stack?, recorded, paint_nil_of_snapshot recorded leaf primitive tasks⟩
  · exact Or.inr ⟨recordable, paint_nil_of_unrecordable recordable leaf primitive tasks⟩

def takeStep (s : Scheduler) (tasks : List Task) : Engine :=
  match s.step with
  | (next, .answer more) => ⟨next, tasks, .answered more⟩
  | (next, .draw leaf primitive calls) => paint next leaf primitive tasks calls
  | (next, .report fault) => report next fault (.stepped true :: tasks)
  | (next, .halt phase) => halt next phase (.stepped false :: tasks)
  | (next, .fail failure) => ⟨next, tasks, .raised failure⟩

/-- Ends a step after its primitive has been announced. -/
def pause (s : Scheduler) (tasks : List Task) : Engine :=
  if s.settings.animate && s.paced then ⟨s.arm, tasks, .answered false⟩
  else ⟨s, tasks, .answered true⟩

/-- Takes in a batch.  If nothing is running a cycle begins. -/
def receive (s : Scheduler) (batch : List Command) (callback? : Option Nat) (tasks : List Task) :
    Engine :=
  if s.phase = .running then ⟨s.accept batch callback?, tasks, .returned⟩
  else if s.settings.animate && !s.settings.clocked then ⟨s, tasks, .raised .noClock⟩
  else announce (s.accept batch callback?).beginCycle .programStart (.starting :: tasks)

/-- The failure of a value that stands for no command: it is shown, if it can be. -/
def refusal (value : Value) : Failure :=
  value.shown?.elim .unwritableNumber Failure.malformedEntry

def commands : List Value → Except Failure (List Command)
  | [] => .ok []
  | value :: rest =>
    match value.command? with
    | none => .error (refusal value)
    | some command => (commands rest).map (command :: ·)

/-- Cues a batch.  Nothing happens unless all of it stands for commands.  A cycle that has been
asked to stop ends before the batch is taken in. -/
def cue (s : Scheduler) (entries : List Value) (callback? : Option Nat) (tasks : List Task) :
    Engine :=
  match commands entries with
  | .error failure => ⟨s, tasks, .raised failure⟩
  | .ok batch =>
    if s.phase = .running && !s.live then halt s .cancelled (.cueing batch callback? :: tasks)
    else receive s batch callback? tasks

/-- Ends the pause of a timer.  A timer of an earlier cycle is out of date and does nothing. -/
def resume (s : Scheduler) (timer : Timer) (tasks : List Task) : Engine :=
  if timer.generation = s.generation then takeStep s (.running :: tasks)
  else ⟨s, tasks, .returned⟩

/-- What the engine does next by itself: the topmost task is told how the work above it came out.
There is nothing to do on the turn of the environment. -/
def next? (e : Engine) : Option Engine :=
  match e.tasks with
  | [] => none
  | .foreign _ :: _ => none
  | .cueing batch callback? :: tasks =>
    some <| match e.signal with
    | .raised failure => ⟨e.sched, tasks, .raised failure⟩
    | _ => receive e.sched batch callback? tasks
  | .starting :: tasks =>
    some <| match e.signal with
    | .raised failure => ⟨e.sched, tasks, .raised failure⟩
    | _ => takeStep e.sched (.running :: tasks)
  | .running :: tasks =>
    some <| match e.signal with
    | .raised failure => halt e.sched .cancelled (.rethrow failure :: tasks)
    | .answered true => takeStep e.sched (.running :: tasks)
    | _ => ⟨e.sched, tasks, .returned⟩
  | .rethrow failure :: tasks =>
    some <| match e.signal with
    | .raised later => ⟨e.sched, tasks, .raised later⟩
    | _ => ⟨e.sched, tasks, .raised failure⟩
  | .announcing notice rest :: tasks =>
    some <| match e.signal with
    | .raised failure => report e.sched (observerFault e.sched notice.event failure) tasks
    | _ => tell e.sched notice tasks rest
  | .reporting fault rest :: tasks =>
    some <| match e.signal with
    | .raised failure => ⟨e.sched.addReport (secondaryFault fault failure), tasks, .returned⟩
    | _ => tellFault e.sched fault tasks rest
  | .painting leaf primitive rest :: tasks =>
    some <| match e.signal with
    | .raised (.fault fault) => report e.sched fault (.stepped true :: tasks)
    | .raised failure => ⟨e.sched, tasks, .raised failure⟩
    | _ => paint e.sched leaf primitive tasks rest
  | .pausing :: tasks =>
    some <| match e.signal with
    | .raised failure => ⟨e.sched, tasks, .raised failure⟩
    | _ => pause e.sched tasks
  | .settling result rest :: tasks =>
    some <| match e.signal with
    | .raised failure => ⟨e.sched, tasks, .raised failure⟩
    | _ => settle e.sched result tasks rest
  | .stepped more :: tasks =>
    some <| match e.signal with
    | .raised failure => ⟨e.sched, tasks, .raised failure⟩
    | _ => ⟨e.sched, tasks, .answered more⟩

theorem next?_eq_none_of_foreign (s : Scheduler) (site : Site) (tasks : List Task)
    (signal : Signal) : (Engine.mk s (.foreign site :: tasks) signal).next? = none := rfl

/-- What the environment can do while foreign code has control. -/
inductive Move where
  | cue (entries : List Value) (callback? : Option Nat)
  | stop
  /-- Takes a step from outside of any run. -/
  | step
  /-- Lets a timer go off, by its position. -/
  | fire (position : Nat)
  | attach (event : Event) (observer : Nat)
  | define (name : String) (params : List String) (body : List Command)
  /-- Puts the scheduler into the running phase by hand. -/
  | prime
  /-- Puts commands into the queue by hand. -/
  | enqueue (commands : List Command)
  | finish
  | raise (failure : Failure)

/-- Makes a move.  It is only asked for on the turn of the environment, and code outside of
everything has nowhere to return to. -/
def perform (e : Engine) (move : Move) : Engine :=
  match move with
  | .cue entries callback? => cue e.sched entries callback? e.tasks
  | .stop => { e with sched := e.sched.stop, signal := .returned }
  | .step => takeStep e.sched e.tasks
  | .fire position =>
    match e.sched.timers[position]? with
    | none => { e with signal := .returned }
    | some timer =>
      resume { e.sched with timers := e.sched.timers.eraseIdx position } timer e.tasks
  | .attach event observer =>
    { e with sched := e.sched.attach event observer, signal := .returned }
  | .define name params body =>
    { e with sched := e.sched.define name params body, signal := .returned }
  | .prime => { e with sched := e.sched.prime, signal := .returned }
  | .enqueue commands => { e with sched := e.sched.enqueue commands, signal := .returned }
  | .finish => ⟨e.sched, e.tasks.drop 1, .returned⟩
  | .raise failure => ⟨e.sched, e.tasks.drop 1, .raised failure⟩

/-- Runs an engine together with an environment that answers it on its turns, until the environment
has no further move.  At most `fuel` steps and moves are made. -/
def drive {σ : Type} (respond : σ → Engine → Option (σ × Engine)) :
    (fuel : Nat) → σ → Engine → σ × Engine
  | 0, environment, e => (environment, e)
  | fuel + 1, environment, e =>
    match e.next? with
    | some next => drive respond fuel environment next
    | none =>
      match respond environment e with
      | some (changed, next) => drive respond fuel changed next
      | none => (environment, e)

end Engine

end Turtle
