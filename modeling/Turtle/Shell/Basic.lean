import Turtle.Number.Rounded
import Turtle.Program.Parse
import Turtle.Run.Traceback
import Turtle.Shell.Execution
import Turtle.Shell.Options

/-!
# The shell

A shell runs programs with one turtle, which keeps its drawing and its procedures from one program
to the next.  After each run the reported faults are shown, and a summary if asked for.
-/

set_option autoImplicit false

namespace Turtle

/-- The number of entries that the journal of a shell holds. -/
def Shell.history : Nat := 1000

/-- A shell: its options, the file that its programs come from, its turtle and its terminal. -/
structure Shell where
  options : Shell.Options
  file : String
  sched : Scheduler
  terminal : Shell.Terminal

namespace Shell

inductive Ending where
  | exit (code : Nat)
  | failed (failure : Failure)

def settings (options : Options) : Settings :=
  { animate := options.animate, delay := options.delay / 1000.0, clocked := true,
    verbose := options.verbose }

def start (options : Options) (file : String) : Shell :=
  let fresh := Scheduler.idle (settings options) (.empty history)
  { options := options
    file := file
    sched := if options.trace then fresh.attach .afterPrimitive Terminal.observer else fresh
    terminal := .blank }

/-- The lines that show the faults of a result. -/
def faultLines (shell : Shell) (result : RunResult) (asJson : Bool) : List String :=
  (shell.sched.faultsOf result.cycle).flatMap fun fault =>
    shell.sched.traceback fault shell.options.verbose ::
      if asJson then [(shell.sched.tracebackDocument fault).write] else []

def summaryLine (canvas : Canvas) : String :=
  "turtle at (" ++ Number.summaryText canvas.position.x ++ ", " ++
    Number.summaryText canvas.position.y ++ ") heading " ++ Number.summaryText canvas.heading ++
    ", " ++ toString canvas.drawn.length ++ " segments drawn"

/-- Shows the faults of a run, and the summary if asked for. -/
def report (shell : Shell) (result : RunResult) (asJson : Bool) : Shell :=
  let lines := shell.faultLines result asJson ++
    (if shell.options.verbose then [summaryLine shell.terminal.canvas] else [])
  { shell with terminal := lines.foldl Terminal.complainLine shell.terminal }

def complain (shell : Shell) (fault : ParseFault) : Shell :=
  { shell with terminal := shell.terminal.complainLine ("ParseError: " ++ fault.message) }

/-- The run of a text, if it is a program. -/
def execution (shell : Shell) (text : String) : Except ParseFault Execution :=
  (parse shell.file text).map fun commands =>
    Execution.start shell.terminal shell.sched commands

/-- A shell after a run, with the code for how it went: zero if no fault was reported. -/
def conclude (shell : Shell) (execution : Execution) (asJson : Bool) : Shell × Ending :=
  let after := { shell with sched := execution.engine.sched, terminal := execution.terminal }
  match execution.result with
  | .error failure => (after, .failed failure)
  | .ok result =>
    (after.report result asJson,
      .exit (if (after.sched.faultsOf result.cycle).isEmpty then 0 else 1))

/-- Runs a text to its end, unless that takes more than so many steps and moves. -/
def runText (fuel : Nat) (shell : Shell) (text : String) (asJson : Bool) :
    Option (Shell × Ending) :=
  match shell.execution text with
  | .error fault => some (shell.complain fault, .exit 1)
  | .ok execution =>
    let ended := execution.run fuel
    if ended.isOver then some (shell.conclude ended asJson) else none

def outputs (shell : Shell) : List Output :=
  shell.terminal.outputs.reverse

end Shell

end Turtle
