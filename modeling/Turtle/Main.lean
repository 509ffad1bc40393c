import Turtle.Shell.CommandLine

/-!
# The program

The outer layer of the command line: it opens the file that is asked for, reads the lines of a
conversation, and puts out what the shell has to say while a program runs.
-/

set_option autoImplicit false

namespace Turtle.Shell.Console

def play : Output → IO Unit
  | .out text => do
    let stdout ← IO.getStdout
    stdout.putStr text
    stdout.flush
  | .err text => IO.eprint text
  | .pause seconds => IO.sleep (seconds * 1000.0).toUInt32

/-- Puts out what a terminal holds, oldest first, and gives it back empty. -/
def playAll (terminal : Terminal) : IO Terminal := do
  terminal.outputs.reverse.forM play
  return { terminal with outputs := [] }

def playRepl (repl : Repl) : IO Repl := do
  let terminal ← playAll repl.shell.terminal
  return { repl with shell := { repl.shell with terminal := terminal } }

/-- The number of steps between two looks at what has been put out. -/
def burst : Nat := 4096

/-- Runs commands to their end, and puts out what there is to see on the way. -/
partial def complete (execution : Execution) : IO Execution := do
  let next := execution.run burst
  let shown := { next with terminal := ← playAll next.terminal }
  if shown.isOver then return shown else complete shown

def runText (shell : Shell) (text : String) (asJson : Bool) : IO (Shell × Ending) := do
  let (after, ending) ←
    match shell.execution text with
    | .error fault => pure (shell.complain fault, Ending.exit 1)
    | .ok execution => do pure (shell.conclude (← complete execution) asJson)
  return ({ after with terminal := ← playAll after.terminal }, ending)

def exitCode : Ending → IO UInt32
  | .exit code => return code.toUInt32
  | .failed failure => do
    IO.eprintln failure.message
    return 1

def takeLines (repl : Repl) : List String → IO (Except Ending Repl)
  | [] => return .ok repl
  | line :: rest =>
    match Repl.react repl.buffer line with
    | .keep buffer => do
      takeLines (← playRepl (Repl.prompt { repl with buffer := buffer })) rest
    | .run text => do
      let (shell, ending) ← runText repl.shell text false
      match repl.resume shell ending with
      | .error (_, failure) => return .error (.failed failure)
      | .ok next => takeLines (← playRepl next) rest

/-- Holds a conversation with whoever writes the input. -/
partial def converse (input : IO.FS.Stream) (repl : Repl) : IO Ending := do
  let line ← input.getLine
  if line.isEmpty then
    let (shell, ending) := repl.finish
    discard <| playAll shell.terminal
    return ending
  else
    match ← takeLines repl (inputLines line) with
    | .error ending => return ending
    | .ok next => converse input next

/-- The number of a system error.  It may be given as a negative number of 32 bits. -/
def errorNumber (code : UInt32) : Nat :=
  if code.toNat < Nat.pow 2 31 then code.toNat else Nat.pow 2 32 - code.toNat

/-- The refusal of a number, in its usual words where it is a usual one. -/
def refusal (code : UInt32) (details : String) : OpenFault :=
  let usual := [OpenFault.missing, OpenFault.notDirectory, OpenFault.isDirectory,
    OpenFault.nameTooLong]
  let stated : OpenFault := .refused (errorNumber code) details
  (usual.find? fun known => known.code? = stated.code?).getD stated

def openFault : IO.Error → OpenFault
  | .noFileOrDirectory _ code details => refusal code details
  | .permissionDenied _ code details => refusal code details
  | .inappropriateType _ code details => refusal code details
  | .invalidArgument _ code details => refusal code details
  | .resourceExhausted _ code details => refusal code details
  | other => .refused 5 other.toString

def readFile (name : String) : IO (Except OpenFault (List UInt8)) := do
  try
    let bytes ← IO.FS.readBinFile name
    return .ok bytes.toList
  catch error => return .error (openFault error)

def carryOut : Plan → IO Ending
  | .converse options => do
    let repl ← playRepl (Repl.start (Shell.start options nameless))
    converse (← IO.getStdin) repl
  | .runSource options text => do
    return (← runText (Shell.start options nameless) text options.tracebackJson).2
  | .runFile options name => do
    match fileText name (← readFile name) with
    | .error ended =>
      ended.outputs.forM play
      return ended.ending
    | .ok text => return (← runText (Shell.start options name) text options.tracebackJson).2
  | plan => do
    let ended := (Shell.carryOut 0 (fun _ => .error OpenFault.missing) "" plan).getD .endless
    ended.outputs.forM play
    return ended.ending

end Turtle.Shell.Console

def main (words : List String) : IO UInt32 := do
  Turtle.Shell.Console.exitCode (← Turtle.Shell.Console.carryOut (Turtle.Shell.plan words))
