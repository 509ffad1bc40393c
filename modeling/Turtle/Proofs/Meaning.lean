import Turtle.Drawing.Primitive
import Turtle.Number.Integer
import Turtle.Procedure.Binding

/-!
# The meaning of commands

What a program means, told by recursion on what it is made of and without any stack: commands are
executed one after another, a loop executes its body over and over, and a call executes what its
procedure is bound to at that moment.  A program that goes on forever has no meaning here.
-/

set_option autoImplicit false

namespace Turtle

/-- What an execution can tell of, and what it changes: the definitions that hold, the calls that
the drawing has been asked for, and the faults that have been found, both in their order. -/
structure World where
  registry : Registry
  calls : List Call
  faults : List Fault

namespace World

def define (w : World) (name : String) (params : List String) (body : List Command) : World :=
  { w with registry := w.registry.define name params body }

def draw (w : World) (calls : List Call) : World :=
  { w with calls := w.calls ++ calls }

/-- A fault is found; which step of a run reports it is no part of its meaning. -/
def find (w : World) (cause : FaultCause) (at? : Option Location) : World :=
  { w with faults := w.faults ++ [⟨cause, at?, none⟩] }

end World

inductive Job where
  | one (command : Command)
  | all (commands : List Command)
  | rounds (count : Nat) (body : List Command)

/-- The meaning of a job: it turns one world into another.

An operator means the procedure that is defined at the moment, or else a primitive, or else it is at
fault.  A body is bound once and for all when it is called.  What is at fault changes nothing else,
and what comes after it is executed.  Where stacks are recorded the counts of loops are written
down, and a loop whose count has too many digits for that means nothing. -/
inductive Executes (verbose : Bool) : Job → World → World → Prop where
  | define (w : World) (name : String) (params : List String) (body : List Command)
    (at? : Option Location) :
    Executes verbose (.one (.define name params body at?)) w (w.define name params body)
  | loop {w w' : World} {count : Int} {body : List Command} (at? : Option Location) :
    (verbose = true → Number.writeInteger count ≠ none) →
      Executes verbose (.rounds count.toNat body) w w' →
      Executes verbose (.one (.loop count body at?)) w w'
  | call {w w' : World} {op : String} {args : List String} {at? : Option Location}
    {procedure : Procedure} {body : List Command} :
    w.registry.get? op = some procedure → procedure.bind args at? = .ok body →
      Executes verbose (.all body) w w' → Executes verbose (.one (.leaf op args at?)) w w'
  | refused {w : World} {op : String} {args : List String} {at? : Option Location}
    {procedure : Procedure} {fault : Fault} :
    w.registry.get? op = some procedure → procedure.bind args at? = .error fault →
      Executes verbose (.one (.leaf op args at?)) w (w.find fault.cause fault.at?)
  | unknown {w : World} {op : String} {args : List String} {at? : Option Location} :
    w.registry.get? op = none → Primitive.ofWord? op = none →
      Executes verbose (.one (.leaf op args at?)) w (w.find (.unknownOperator op) at?)
  | unfit {w : World} {op : String} {args : List String} {at? : Option Location}
    {primitive : Primitive} {cause : FaultCause} :
    w.registry.get? op = none → Primitive.ofWord? op = some primitive →
      primitive.calls args = .error cause →
      Executes verbose (.one (.leaf op args at?)) w (w.find cause at?)
  | draw {w : World} {op : String} {args : List String} {at? : Option Location}
    {primitive : Primitive} {calls : List Call} :
    w.registry.get? op = none → Primitive.ofWord? op = some primitive →
      primitive.calls args = .ok calls →
        Executes verbose (.one (.leaf op args at?)) w (w.draw calls)
  | nothing (w : World) : Executes verbose (.all []) w w
  | next {w w' w'' : World} {command : Command} {rest : List Command} :
    Executes verbose (.one command) w w' → Executes verbose (.all rest) w' w'' →
      Executes verbose (.all (command :: rest)) w w''
  | idle (w : World) (body : List Command) : Executes verbose (.rounds 0 body) w w
  | round {w w' w'' : World} {count : Nat} {body : List Command} :
    Executes verbose (.all body) w w' → Executes verbose (.rounds count body) w' w'' →
      Executes verbose (.rounds (count + 1) body) w w''

/-- The meaning of a batch: its own definitions are made first, in their order, and the other
commands are executed after that. -/
def Executes.Batch (verbose : Bool) (batch : List Command) (w w' : World) : Prop :=
  Executes verbose (.all (batch.filter fun command => !command.isDefinition))
    { w with registry := w.registry.defineAll batch } w'

end Turtle
