import Turtle.Run.Engine

/-!
# Runs at a terminal

The environment of the engine on the command line: it keeps the drawing, prints primitives if asked
to, and waits for the end of the cycle.  A paced cycle is kept going by letting its timers go off.
A failure leaves the run when the cycle has been cued; afterwards it is the affair of the clock, and
what counts is the result of the cycle.
-/

set_option autoImplicit false

namespace Turtle.Shell

/-- Something that is put out: text on either channel, or a pause in seconds. -/
inductive Output where
  | out (text : String)
  | err (text : String)
  | pause (seconds : Float)

/-- A terminal: the drawing, what has been put out, newest first, the result of the last cycle, and
whether its end is being waited for. -/
structure Terminal where
  canvas : Canvas
  outputs : List Output
  result? : Option RunResult
  waiting : Bool

namespace Terminal

def blank : Terminal :=
  { canvas := .blank, outputs := [], result? := none, waiting := false }

def put (terminal : Terminal) (output : Output) : Terminal :=
  { terminal with outputs := output :: terminal.outputs }

def printLine (terminal : Terminal) (text : String) : Terminal :=
  terminal.put (.out (text ++ "\n"))

def complainLine (terminal : Terminal) (text : String) : Terminal :=
  terminal.put (.err (text ++ "\n"))

/-- Foreign code is called: the drawing draws, an observer prints, and the callback keeps the
result. -/
def enter (terminal : Terminal) (e : Engine) : Site → Terminal × Engine
  | .outside => (terminal, { e with signal := .returned })
  | .drawing call =>
    match terminal.canvas.apply call with
    | (canvas, none) => ({ terminal with canvas := canvas }, e.perform .finish)
    | (canvas, some failure) => ({ terminal with canvas := canvas }, e.perform (.raise failure))
  | .observer _ (.afterPrimitive leaf) =>
    match leaf.describe? with
    | some line => (terminal.printLine line, e.perform .finish)
    | none => (terminal, e.perform (.raise .unwritableNumber))
  | .observer _ _ => (terminal, e.perform .finish)
  | .callback _ result => ({ terminal with result? := some result }, e.perform .finish)

def callback : Nat := 0

def observer : Nat := 0

/-- Lets the first timer go off, as long as the cycle has no result. -/
def wait (terminal : Terminal) (e : Engine) : Option (Terminal × Engine) :=
  match terminal.result?, e.sched.timers with
  | none, timer :: _ =>
    some ({ terminal with waiting := true }.put (.pause timer.delay), e.perform (.fire 0))
  | _, _ => none

/-- The moves of a terminal on its turns. -/
def respond (terminal : Terminal) (e : Engine) : Option (Terminal × Engine) :=
  match e.site?, e.signal with
  | none, _ => none
  | some site, .called => some (terminal.enter e site)
  | some _, .raised _ => if terminal.waiting then terminal.wait e else none
  | some _, _ => terminal.wait e

end Terminal

structure Execution where
  terminal : Terminal
  engine : Engine

namespace Execution

def start (terminal : Terminal) (s : Scheduler) (commands : List Command) : Execution :=
  ⟨{ terminal with result? := none, waiting := false },
    (Engine.atRest s).perform (.cue (commands.map Value.command) (some Terminal.callback))⟩

/-- Goes on with a run, at most so many steps and moves. -/
def run (fuel : Nat) (execution : Execution) : Execution :=
  let (terminal, engine) := Engine.drive Terminal.respond fuel execution.terminal execution.engine
  ⟨terminal, engine⟩

/-- A run is over when neither the engine nor the terminal has anything further to do. -/
def isOver (execution : Execution) : Bool :=
  execution.engine.next?.isNone &&
    (Terminal.respond execution.terminal execution.engine).isNone

/-- The result of a run that is over, or the failure that left it. -/
def result (execution : Execution) : Except Failure RunResult :=
  match execution.terminal.waiting, execution.engine.signal with
  | false, .raised failure => .error failure
  | _, _ =>
    .ok (execution.terminal.result?.getD ⟨.cancelled, execution.engine.sched.cycle, 0⟩)

end Execution

end Turtle.Shell
