import Turtle.Program.CodeLine
import Turtle.Program.Command
import Turtle.Text.Utf8

/-!
# Faults and failures

A fault is something wrong with one command of a running program: it is reported, the command is
skipped, and the program goes on.  A failure is what leaves an operation altogether, up to whoever
asked for it; what goes wrong in foreign code, such as an observer, is a failure too, and it may
itself be a fault.
-/

set_option autoImplicit false

namespace Turtle

/-- What is wrong with a command. -/
inductive FaultCause where
  | unknownOperator (op : String)
  | wrongArity (procedure : String) (expected received : Nat)
  | tooFewArguments (primitive : String) (least : Nat)
  | tooManyArguments (primitive : String) (most : Nat)
  | notNumber (primitive token : String)
  | notFinite (primitive token : String)
  | observerFailed (event message : String)
  | raised (message : String) (rule? : Option String)
deriving Repr, DecidableEq

inductive FaultKind where
  | unknownOperator
  | arityMismatch
  | invalidArgument
  | runtime
deriving Repr, DecidableEq

def FaultKind.name : FaultKind → String
  | unknownOperator => "UnknownOperatorError"
  | arityMismatch => "ArityMismatchError"
  | invalidArgument => "InvalidArgumentError"
  | runtime => "LogoRuntimeError"

namespace FaultCause

def kind : FaultCause → FaultKind
  | unknownOperator _ => .unknownOperator
  | wrongArity _ _ _ | tooFewArguments _ _ | tooManyArguments _ _ => .arityMismatch
  | notNumber _ _ | notFinite _ _ => .invalidArgument
  | observerFailed _ _ | raised _ _ => .runtime

def message : FaultCause → String
  | unknownOperator op => op ++ " is not defined."
  | wrongArity procedure expected received =>
    "Error: " ++ procedure ++ " expects " ++ toString expected ++ " arguments but received " ++
      toString received ++ "."
  | tooFewArguments primitive least =>
    primitive ++ " expects at least " ++ toString least ++ " arguments"
  | tooManyArguments primitive most =>
    primitive ++ " expects at most " ++ toString most ++ " arguments"
  | notNumber primitive token => primitive ++ " expects a number but got '" ++ token ++ "'"
  | notFinite primitive token =>
    primitive ++ " expects a finite number but got '" ++ token ++ "'"
  | observerFailed event message => "Hook '" ++ event ++ "' failed: " ++ message
  | raised message _ => message

/-- The rule that a cause breaks: the operator concerned, as far as there is one. -/
def rule? : FaultCause → Option String
  | unknownOperator op => some op
  | wrongArity procedure _ _ => some procedure
  | tooFewArguments primitive _ | tooManyArguments primitive _ => some primitive
  | notNumber primitive _ | notFinite primitive _ => some primitive
  | observerFailed _ _ => some "HOOK"
  | raised _ rule? => rule?

end FaultCause

/-- A fault: its cause, the place of the command, and the number of the step that reported it. -/
structure Fault where
  cause : FaultCause
  at? : Option Location
  step? : Option Nat
deriving Repr, DecidableEq

def Fault.message (fault : Fault) : String :=
  fault.cause.message

/-- What leaves an operation instead of a result. -/
inductive Failure where
  /-- A source text is no program. -/
  | unreadable (fault : ParseFault)
  /-- A fault that nobody has reported yet. -/
  | fault (fault : Fault)
  /-- Something handed over as a command is none. -/
  | malformedEntry (shown : String)
  /-- Something that is no command was reached in a body. -/
  | strayCommand (shown : String)
  /-- A loop was reached without the number of its rounds. -/
  | incompleteFrame
  | noClock
  | unknownEvent (name : String)
  /-- A journal has to hold an entry at least. -/
  | emptyHistory
  /-- A journal cannot be made for so many entries. -/
  | excessiveHistory
  | unkeyable (kind : String)
  | unreadableNumber (text : String)
  /-- A whole number has too many digits to be written. -/
  | unwritableNumber
  | missingDelay
  /-- An infinite angle has no sine. -/
  | undefinedAngle
  | undecodable (fault : Text.Utf8Fault)
  | nullInName
  | invalidValue (message : String)
  | breakdown (message : String)
deriving Repr, DecidableEq

def eventNames : List String :=
  ["program_start", "after_primitive", "on_error", "program_end"]

def undecodableMessage (fault : Text.Utf8Fault) : String :=
  let place :=
    if fault.width = 1 then
      "byte 0x" ++ String.ofList (Text.hexDigits 2 fault.byte.toNat) ++ " in position " ++
        toString fault.position
    else
      "bytes in position " ++ toString fault.position ++ "-" ++
        toString (fault.position + fault.width - 1)
  "'utf-8' codec can't decode " ++ place ++ ": " ++ fault.defect.message

def Failure.message : Failure → String
  | unreadable found => found.message
  | fault found => found.message
  | malformedEntry shown => "Malformed command: " ++ shown
  | strayCommand shown => "Malformed command on the frame stack: " ++ shown
  | incompleteFrame => ""
  | noClock => "Animated execution needs a clock or a running asyncio event loop"
  | unknownEvent name =>
    "Unknown turtle event '" ++ name ++ "', expected one of: " ++
      String.intercalate ", " eventNames
  | emptyHistory => "history must be >= 1"
  | excessiveHistory => "Python int too large to convert to C ssize_t"
  | unkeyable kind => "unhashable type: '" ++ kind ++ "'"
  | unreadableNumber text => "could not convert string to float: " ++ Text.quoted text
  | unwritableNumber =>
    "Exceeds the limit (" ++ toString Number.maxIntegerDigits ++ " digits) for integer string " ++
      "conversion; use sys.set_int_max_str_digits() to increase the limit"
  | missingDelay => "'<' not supported between instances of 'list' and 'int'"
  | undefinedAngle => "math domain error"
  | undecodable found => undecodableMessage found
  | nullInName => "embedded null byte"
  | invalidValue message => message
  | breakdown message => message

end Turtle
