import Turtle.Drawing.Canvas
import Turtle.Number.Real

/-!
# Primitives

The operators that draw.  Each has a name and takes a fixed number of arguments, and most have
shorter aliases.  A primitive checks all of its arguments before it asks the drawing for anything.
-/

set_option autoImplicit false

namespace Turtle

inductive Primitive where
  | forward
  | back
  | right
  | left
  | penUp
  | penDown
  | clear
deriving Repr, DecidableEq

namespace Primitive

def name : Primitive → String
  | forward => "forward"
  | back => "back"
  | right => "right"
  | left => "left"
  | penUp => "penup"
  | penDown => "pendown"
  | clear => "clear"

/-- The words that stand for primitives: their names and their aliases. -/
def table : List (String × Primitive) :=
  [("forward", forward), ("back", back), ("right", right), ("left", left), ("penup", penUp),
   ("pendown", penDown), ("clear", clear), ("fd", forward), ("bk", back), ("backward", back),
   ("rt", right), ("lt", left), ("pu", penUp), ("pd", penDown)]

/-- The primitive that a word stands for.  The words are in lower case only. -/
def ofWord? (word : String) : Option Primitive :=
  table.lookup word

def arity : Primitive → Nat
  | forward | back | right | left => 1
  | penUp | penDown | clear => 0

def checkArity (primitive : Primitive) (count : Nat) : Except FaultCause Unit :=
  if count < primitive.arity then .error (.tooFewArguments primitive.name primitive.arity)
  else if primitive.arity < count then .error (.tooManyArguments primitive.name primitive.arity)
  else .ok ()

def number (primitive : Primitive) (token : String) : Except FaultCause Float :=
  match Number.readReal token with
  | none => .error (.notNumber primitive.name token)
  | some value =>
    if Number.isFinite value then .ok value else .error (.notFinite primitive.name token)

def callsFor (value : Float) : Primitive → List Call
  | forward => [.forward value]
  | back => [.turn 180.0, .forward value, .turn 180.0]
  | right => [.turn value]
  | left => [.turn (-value)]
  | penUp => [.penUp]
  | penDown => [.penDown]
  | clear => [.clear]

def calls (primitive : Primitive) (args : List String) : Except FaultCause (List Call) := do
  primitive.checkArity args.length
  match args with
  | [] => return primitive.callsFor 0.0
  | token :: _ =>
    let value ← primitive.number token
    return primitive.callsFor value

end Primitive

end Turtle
