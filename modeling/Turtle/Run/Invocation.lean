import Turtle.Program.Value
import Turtle.Run.Scheduler

/-!
# Calls from outside

A defined procedure can be called with values for arguments.  The call is refused at once, and
nothing is cued, if there is no such procedure or it does not accept that many arguments.  It fails
if one of the arguments cannot be written.
-/

set_option autoImplicit false

namespace Turtle.Registry

def invocation (registry : Registry) (name : String) (args : List Value) :
    Except Failure Command := do
  let procedure ← (registry.get name none).mapError Failure.fault
  (procedure.checkArity args.length none).mapError Failure.fault
  match Value.tokens? args with
  | some tokens => return .leaf procedure.name tokens none
  | none => throw .unwritableNumber

end Turtle.Registry
