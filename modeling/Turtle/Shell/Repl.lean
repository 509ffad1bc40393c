import Turtle.Shell.Basic

/-!
# The conversation

Without a program a shell reads lines and runs them as they come.  A line that opens a block is kept
with those after it until a blank line ends them; any other line is a program by itself.
-/

set_option autoImplicit false

namespace Turtle.Shell

/-- A conversation: the shell, the lines of the block that is being read, last first, and the code
for how it went so far. -/
structure Repl where
  shell : Shell
  buffer : List String
  status : Nat

/-- What a line of a conversation leads to. -/
inductive Reaction where
  /-- The line is kept, or it is blank and says nothing. -/
  | keep (buffer : List String)
  /-- A text is to be run, and nothing is kept. -/
  | run (text : String)

namespace Repl

def opensBlock (line : String) : Bool :=
  match Text.words (Text.lower (Text.strip line)) with
  | [] => false
  | word :: _ => word = definitionKeyword || word = loopKeyword

/-- What a line leads to after the lines that are kept. -/
def react (buffer : List String) (line : String) : Reaction :=
  match buffer, Text.strip line == "" with
  | [], true => .keep []
  | [], false => if opensBlock line then .keep [line] else .run line
  | _, true => .run (String.intercalate "\n" buffer.reverse)
  | _, false => .keep (line :: buffer)

def promptText (buffer : List String) : String :=
  if buffer.isEmpty then ">>> " else "..> "

def prompt (repl : Repl) : Repl :=
  { repl with
    shell :=
      { repl.shell with
        terminal := repl.shell.terminal.put (.out (promptText repl.buffer)) } }

/-- The beginning of a conversation, up to where it asks for a line. -/
def start (shell : Shell) : Repl :=
  let greeting := "Turtle Logo REPL. Enter commands, blank line to run a block."
  prompt ⟨{ shell with terminal := shell.terminal.printLine greeting }, [], 0⟩

/-- A conversation after a run: it goes on unless a failure has left the run. -/
def resume (repl : Repl) (shell : Shell) : Ending → Except (Shell × Failure) Repl
  | .failed failure => .error (shell, failure)
  | .exit code => .ok (prompt ⟨shell, [], if code = 0 then repl.status else code⟩)

/-- Takes a line in, up to where the next one is asked for, unless a text that is run takes too
long. -/
def feed (fuel : Nat) (repl : Repl) (line : String) : Option (Except (Shell × Failure) Repl) :=
  match react repl.buffer line with
  | .keep buffer => some (.ok (prompt { repl with buffer := buffer }))
  | .run text =>
    (repl.shell.runText fuel text false).map fun (shell, ending) => repl.resume shell ending

/-- The end of a conversation where the lines end.  A block that is still being read is dropped. -/
def finish (repl : Repl) : Shell × Ending :=
  ({ repl.shell with terminal := repl.shell.terminal.printLine "" }, .exit repl.status)

def feedAll (fuel : Nat) (repl : Repl) : List String → Option (Shell × Ending)
  | [] => some repl.finish
  | line :: rest =>
    match repl.feed fuel line with
    | none => none
    | some (.ok next) => next.feedAll fuel rest
    | some (.error (shell, failure)) => some (shell, .failed failure)

end Repl

/-- The lines of an input.  What stands behind its last line feed is a line only if it is not
empty. -/
def inputLines (input : String) : List String :=
  let text := String.ofList (Text.withLineFeeds input.toList)
  match (Text.lines text).reverse with
  | "" :: rest => rest.reverse
  | _ => Text.lines text

end Turtle.Shell
