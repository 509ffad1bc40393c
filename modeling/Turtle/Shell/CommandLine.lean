import Turtle.Shell.Directory
import Turtle.Shell.Repl

/-!
# The command line

A command line names a program, gives it as text, or begins a conversation.  All of it is decided
here; reading files and lines and putting text out is left to whoever has them.
-/

set_option autoImplicit false

namespace Turtle.Shell

inductive Plan where
  | help
  | usage
  /-- The options make no sense together. -/
  | complain (message : String)
  | fail (failure : Failure)
  | converse (options : Options)
  | runSource (options : Options) (text : String)
  | runFile (options : Options) (name : String)

/-- The name of a program that is in no file. -/
def nameless : String := "<string>"

def planOptions (options : Options) : Plan :=
  if options.delayLost then .fail .missingDelay
  else if options.delay < 0.0 then .complain "--delay must not be negative"
  else
    match options.program?, options.source with
    | none, true => .complain "-source requires a program string"
    | none, false => .converse options
    | some text, true => .runSource options text
    | some name, false => .runFile options name

def plan (words : List String) : Plan :=
  match Options.read words with
  | .error .help => .help
  | .error .usage => .usage
  | .ok options => planOptions options

def usageText : String :=
  "usage: logo [-h] [-source] [--animate] [--delay DELAY] [-verbose] [--trace]\n" ++
    "            [--traceback-json]\n" ++
    "            [program]\n"

def helpText : String :=
  usageText ++
    "\nTurtle Logo interpreter\n" ++
    "\npositional arguments:\n" ++
    "  program              Source file path or literal source with -source\n" ++
    "\noptions:\n" ++
    "  -h, --help           show this help message and exit\n" ++
    "  -source, --source    Treat program argument as literal source text\n" ++
    "  --animate            Pause between drawing steps\n" ++
    "  --delay DELAY        Pause between drawing steps, in milliseconds\n" ++
    "  -verbose, --verbose  Record frame stacks and print a summary\n" ++
    "  --trace              Print every primitive as it runs\n" ++
    "  --traceback-json     Also emit JSON tracebacks\n"

/-- What a finished command line has put out, oldest first, and how it ended. -/
structure Transcript where
  outputs : List Output
  ending : Ending

/-- The text put out, pauses and the channel of errors left out. -/
def Transcript.stdout (transcript : Transcript) : String :=
  String.join <| transcript.outputs.map fun output =>
    match output with
    | .out text => text
    | _ => ""

def Transcript.stderr (transcript : Transcript) : String :=
  String.join <| transcript.outputs.map fun output =>
    match output with
    | .err text => text
    | _ => ""

def transcript (ended : Shell × Ending) : Transcript :=
  ⟨ended.1.outputs, ended.2⟩

/-- The text of a file of bytes, in which every line ends with a line feed. -/
def textOfBytes (bytes : List UInt8) : Except Failure String :=
  match Text.decodeUtf8 bytes with
  | .ok chars => .ok (String.ofList (Text.withLineFeeds chars))
  | .error fault => .error (.undecodable fault)

/-- The text of the file of a name, or how the command line ends without it. -/
def fileText (name : String) : Except OpenFault (List UInt8) → Except Transcript String
  | .error .nullInName => .error ⟨[], .failed .nullInName⟩
  | .error (.refused code reason) =>
    let message :=
      "Failed to read " ++ name ++ ": " ++ refusalMessage code reason name ++ "\n"
    .error ⟨[.err message], .exit 1⟩
  | .ok bytes =>
    match textOfBytes bytes with
    | .ok text => .ok text
    | .error failure => .error ⟨[], .failed failure⟩

/-- Carries out a plan, with files that are opened by name and an input that lines are read from.
There is no transcript if one of the programs takes more than so many steps and moves. -/
def carryOut (fuel : Nat) (files : String → Except OpenFault (List UInt8)) (input : String) :
    Plan → Option Transcript
  | .help => some ⟨[.out helpText], .exit 0⟩
  | .usage => some ⟨[.err usageText], .exit 2⟩
  | .complain message => some ⟨[.err (message ++ "\n")], .exit 1⟩
  | .fail failure => some ⟨[], .failed failure⟩
  | .converse options =>
    ((Repl.start (start options nameless)).feedAll fuel (inputLines input)).map transcript
  | .runSource options text =>
    ((start options nameless).runText fuel text options.tracebackJson).map transcript
  | .runFile options name =>
    match fileText name (files name) with
    | .error ended => some ended
    | .ok text => ((start options name).runText fuel text options.tracebackJson).map transcript

/-- More steps than any program takes that comes to an end. -/
def ampleFuel : Nat := Nat.pow 2 60

/-- What stands for the transcript of a program that goes on for longer than anybody waits. -/
def Transcript.endless : Transcript :=
  ⟨[], .failed (.breakdown "the program does not come to an end")⟩

def run (files : String → Except OpenFault (List UInt8)) (input : String) (words : List String) :
    Transcript :=
  (carryOut ampleFuel files input (plan words)).getD .endless

end Turtle.Shell
