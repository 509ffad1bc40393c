import Turtle.Program.Parse
import Turtle.Run.Engine
import Turtle.Run.Invocation
import Turtle.Session.Script

/-!
# Sessions

A session is a turtle with somebody who uses it by a script.  It is the environment of the engine:
it keeps the drawing, the scripts of observers and callbacks, and a record of when they were called.
An agenda belongs to each piece of foreign code that has control, and it goes on where it was left
when the engine comes back to it.
-/

set_option autoImplicit false

namespace Turtle

open Session

/-- A result as it stood at a moment: the number of its faults may still grow. -/
structure Summary where
  result : RunResult
  errors : Nat

/-- A cycle went well when it was exhausted without a fault. -/
def Summary.ok (summary : Summary) : Bool :=
  summary.result.phase = .exhausted && summary.errors = 0

def Scheduler.summary (s : Scheduler) (result : RunResult) : Summary :=
  ⟨result, (s.faultsOf result.cycle).length⟩

inductive Happening where
  | started (label : String)
  | drew (label : String) (leaf : Command)
  | erred (label : String) (fault : Fault)
  | ended (label : String) (summary : Summary)
  | completed (label : String) (summary : Summary)

structure Session where
  file : String
  canvas : Canvas
  /-- The number of calls that the drawing has been asked for. -/
  drawn : Nat
  /-- The drawing asks the cycle to stop right after this call. -/
  stopAt? : Option Nat
  /-- The drawing breaks down right after this call. -/
  raiseAt? : Option Nat
  observers : Array Observer
  callbacks : Array Callback
  /-- The agendas of the foreign code that has control, topmost first. -/
  agendas : List Agenda
  /-- The calls of observers and callbacks, newest first. -/
  happenings : List Happening

namespace Session

def start (file : String) (stopAt? raiseAt? : Option Nat) : Session :=
  { file := file, canvas := .blank, drawn := 0, stopAt? := stopAt?, raiseAt? := raiseAt?,
    observers := #[], callbacks := #[], agendas := [], happenings := [] }

def note (session : Session) (happening : Happening) : Session :=
  { session with happenings := happening :: session.happenings }

/-- Begins to carry out acts, above what was being done. -/
def take (session : Session) (acts : List Act) : Session :=
  { session with agendas := .ofActs acts :: session.agendas }

def keep (session : Session) : Option (String × List Act) → Session × Option Nat
  | none => (session, none)
  | some (label, acts) =>
    ({ session with callbacks := session.callbacks.push ⟨label, acts⟩ },
      some session.callbacks.size)

/-- What an observer is told, as it is recorded. -/
def happeningOf (s : Scheduler) (label : String) : Notice → Happening
  | .programStart => .started label
  | .afterPrimitive leaf => .drew label leaf
  | .onError fault => .erred label fault
  | .programEnd result => .ended label (s.summary result)

/-- The drawing carries out a call.  It may then ask for a stop, and then break down. -/
def draw (session : Session) (e : Engine) (call : Call) : Session × Engine :=
  let (canvas, failure?) := session.canvas.apply call
  let count := session.drawn + 1
  let changed := { session with canvas := canvas, drawn := count }
  match failure? with
  | some failure => (changed, e.perform (.raise failure))
  | none =>
    let stopped := if session.stopAt? = some count then e.perform .stop else e
    if session.raiseAt? = some count then
      (changed, stopped.perform (.raise (.breakdown "renderer failed")))
    else (changed, stopped.perform .finish)

def enter (session : Session) (e : Engine) : Site → Session × Engine
  | .outside => (session, { e with signal := .returned })
  | .drawing call => session.draw e call
  | .observer id notice =>
    match session.observers[id]? with
    | none => (session, e.perform .finish)
    | some observer =>
      let fired := { observer with fired := observer.fired + 1 }
      let noted := session.note (happeningOf e.sched observer.label notice)
      (({ noted with observers := noted.observers.setIfInBounds id fired }).take observer.nextActs,
        { e with signal := .returned })
  | .callback id result =>
    match session.callbacks[id]? with
    | none => (session, e.perform .finish)
    | some callback =>
      ((session.note (.completed callback.label (e.sched.summary result))).take callback.acts,
        { e with signal := .returned })

def cue (session : Session) (e : Engine) (entries : List Value)
    (onComplete? : Option (String × List Act)) : Session × Engine :=
  let (kept, id?) := session.keep onComplete?
  (kept, e.perform (.cue entries id?))

/-- Begins an act of an agenda, of which the rest stays. -/
def begin (session : Session) (e : Engine) (rest : Agenda) (outer : List Agenda) :
    Act → Session × Engine
  | .cue entries onComplete? => { session with agendas := rest :: outer }.cue e entries onComplete?
  | .eval source onComplete? =>
    let going := { session with agendas := rest :: outer }
    match parse session.file source with
    | .error fault => (going, { e with signal := .raised (.unreadable fault) })
    | .ok program => going.cue e (program.map Value.command) onComplete?
  | .define name params body =>
    let defined := { rest with outcome := .defined (Registry.procedureOf name params body) }
    ({ session with agendas := defined :: outer }, e.perform (.define name params body))
  | .stop => ({ session with agendas := rest :: outer }, e.perform .stop)
  | .invoke name args onComplete? =>
    match e.sched.registry.invocation name args with
    | .error (.fault fault) =>
      ({ session with agendas := { rest with outcome := .refused fault } :: outer },
        { e with signal := .returned })
    | .error failure =>
      ({ session with agendas := rest :: outer }, { e with signal := .raised failure })
    | .ok command =>
      { session with agendas := rest :: outer }.cue e [.command command] onComplete?
  | .tick count =>
    ({ session with agendas := { rest with ticks := count, outcome := .fired 0 } :: outer },
      { e with signal := .returned })
  | .step count =>
    ({ session with agendas := { rest with steps := count, outcome := .answers [] } :: outer },
      { e with signal := .returned })
  | .manual source =>
    let primed := e.perform .prime
    ({ session with agendas := rest :: outer },
      match parse session.file source with
      | .error fault => { primed with signal := .raised (.unreadable fault) }
      | .ok program => primed.perform (.enqueue program))
  | .attach name label acts skip times? =>
    match Event.ofName? name with
    | none =>
      ({ session with agendas := rest :: outer },
        { e with signal := .raised (.unknownEvent name) })
    | some event =>
      ({ session with
          observers := session.observers.push ⟨label, acts, skip, times?, 0⟩
          agendas := { rest with outcome := .attached } :: outer },
        e.perform (.attach event session.observers.size))
  | .raise failure =>
    ({ session with agendas := rest :: outer }, { e with signal := .raised failure })
  | .look => ({ session with agendas := rest :: outer }, { e with signal := .returned })

/-- The answer of a step, added to those of its act. -/
def Outcome.add (answer : Bool) : Outcome → Outcome
  | .answers earlier => .answers (earlier ++ [answer])
  | outcome => outcome

def Outcome.tick : Outcome → Outcome
  | .fired count => .fired (count + 1)
  | outcome => outcome

/-- Goes on with an agenda: the present act first, and then the next.  Whoever is outside has
nothing further to do when the agenda is empty; foreign code returns. -/
def proceed (session : Session) (e : Engine) (site : Site) (agenda : Agenda)
    (outer : List Agenda) : Option (Session × Engine) :=
  if 0 < agenda.steps then
    some ({ session with agendas := { agenda with steps := agenda.steps - 1 } :: outer },
      e.perform .step)
  else if 0 < agenda.ticks && !e.sched.timers.isEmpty then
    let ticked := { agenda with ticks := agenda.ticks - 1, outcome := agenda.outcome.tick }
    some ({ session with agendas := ticked :: outer }, e.perform (.fire 0))
  else
    match agenda.acts with
    | act :: acts =>
      some (session.begin e { agenda with acts := acts, ticks := 0 } outer act)
    | [] =>
      match site with
      | .outside => none
      | _ => some ({ session with agendas := outer }, e.perform .finish)

/-- The moves of a session on its turns.  A failure leaves the foreign code that it reaches, and the
rest of its agenda is dropped. -/
def respond (session : Session) (e : Engine) : Option (Session × Engine) :=
  match e.site?, e.signal with
  | none, _ => none
  | some site, .called => some (session.enter e site)
  | some .outside, .raised _ => none
  | some _, .raised failure =>
    some ({ session with agendas := session.agendas.drop 1 }, e.perform (.raise failure))
  | some site, signal =>
    match session.agendas with
    | [] => none
    | agenda :: outer =>
      match signal with
      | .answered answer =>
        let answered := { agenda with outcome := agenda.outcome.add answer }
        some ({ session with agendas := answered :: outer }, { e with signal := .returned })
      | _ => session.proceed e site agenda outer

/-- More steps than any session takes. -/
def ampleFuel : Nat := Nat.pow 2 60

/-- Carries out one act from outside, with all that follows from it. -/
def perform (session : Session) (s : Scheduler) (act : Act) :
    Session × Scheduler × Except Failure Outcome :=
  let (after, e) := Engine.drive respond ampleFuel { session with agendas := [.ofActs [act]] }
    (.atRest s)
  let outcome :=
    match e.signal with
    | .raised failure => .error failure
    | _ => .ok (after.agendas.head?.elim Outcome.nothing Agenda.outcome)
  (after, e.sched, outcome)

end Session

end Turtle
