import Turtle.Procedure.Registry
import Turtle.Program.Value

/-!
# Scripts

What whoever uses a turtle does with it, written down beforehand.  Observers and callbacks have
scripts of their own: each time they are called they do some acts, with the same turtle.
-/

set_option autoImplicit false

namespace Turtle.Session

/-- Something that is done with a turtle.  A callback is given by its label and its acts. -/
inductive Act where
  | cue (entries : List Value) (onComplete? : Option (String × List Act))
  | eval (source : String) (onComplete? : Option (String × List Act))
  | define (name : String) (params : List String) (body : List Command)
  | stop
  | invoke (name : String) (args : List Value) (onComplete? : Option (String × List Act))
  /-- Lets the first timers go off, one after another, at most so many. -/
  | tick (count : Nat)
  /-- Takes so many steps from outside of any run. -/
  | step (count : Nat)
  /-- Runs by hand: nothing begins, and the commands of a program are put into the queue. -/
  | manual (source : String)
  /-- Attaches an observer that does its acts from a firing on, and so many times. -/
  | attach (event label : String) (acts : List Act) (skip : Int) (times? : Option Int)
  | raise (failure : Failure)
  /-- Looks at the turtle without touching it. -/
  | look

instance : Inhabited Act := ⟨.look⟩

/-- An observer: its label, its acts, the firings that it lets pass first, the number of firings on
which it acts, and how often it has fired. -/
structure Observer where
  label : String
  acts : List Act
  skip : Int
  times? : Option Int
  fired : Nat

def Observer.nextActs (observer : Observer) : List Act :=
  let firing : Int := observer.fired + 1
  let finished : Bool :=
    match observer.times? with
    | none => false
    | some times => observer.skip + times < firing
  if observer.skip < firing && !finished then observer.acts else []

structure Callback where
  label : String
  acts : List Act

inductive Outcome where
  | nothing
  | defined (procedure : Procedure)
  | refused (fault : Fault)
  | attached
  | fired (count : Nat)
  | answers (answers : List Bool)

/-- What somebody is doing: the acts that are left, the timers and the steps that are left of the
present act, and what it has come to so far. -/
structure Agenda where
  acts : List Act
  ticks : Nat
  steps : Nat
  outcome : Outcome

def Agenda.ofActs (acts : List Act) : Agenda := ⟨acts, 0, 0, .nothing⟩

end Turtle.Session
