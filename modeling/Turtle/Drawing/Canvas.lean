import Turtle.Fault
import Turtle.Number.Binary64

/-!
# The canvas

The drawing side of the turtle: five calls move it, turn it, lift and lower its pen and wipe the
drawing.  The heading is an angle measured clockwise from the positive y axis, and its sine and
cosine are kept with it.
-/

set_option autoImplicit false

namespace Turtle

inductive Call where
  | forward (distance : Float)
  | turn (degrees : Float)
  | penUp
  | penDown
  | clear
deriving DecidableEq

structure Point where
  x : Float
  y : Float
deriving DecidableEq

structure Segment where
  start : Point
  stop : Point
deriving DecidableEq

/-- The turtle and its drawing, of which the newest segment comes first. -/
structure Canvas where
  position : Point
  penIsDown : Bool
  angle : Float
  sin : Float
  cos : Float
  drawn : List Segment

namespace Canvas

def pi : Float := 3.141592653589793

def toRadians (degrees : Float) : Float :=
  degrees * (pi / 180.0)

def toDegrees (radians : Float) : Float :=
  radians * (180.0 / pi)

/-- The empty drawing, with the turtle at the origin, heading up, its pen down. -/
def blank : Canvas :=
  { position := ⟨0.0, 0.0⟩, penIsDown := true, angle := 0.0, sin := 0.0, cos := 1.0, drawn := [] }

/-- The heading in degrees, reduced to a full circle. -/
def heading (canvas : Canvas) : Float :=
  Number.reduce (toDegrees canvas.angle) 360

def segments (canvas : Canvas) : List Segment :=
  canvas.drawn.reverse

/-- Heads for an angle.  An infinite angle has no sine or cosine: the angle is stored all the same,
and what is kept with it stays as it was. -/
def setAngle (radians : Float) (canvas : Canvas) : Canvas × Option Failure :=
  if Number.isInfinite radians then ({ canvas with angle := radians }, some .undefinedAngle)
  else ({ canvas with angle := radians, sin := radians.sin, cos := radians.cos }, none)

/-- Turns clockwise by an angle in degrees. -/
def rotate (degrees : Float) (canvas : Canvas) : Canvas × Option Failure :=
  canvas.setAngle (canvas.angle + toRadians degrees)

def move (distance : Float) (canvas : Canvas) : Canvas :=
  let target : Point :=
    ⟨canvas.position.x + canvas.sin * distance, canvas.position.y + canvas.cos * distance⟩
  { canvas with
    position := target
    drawn := if canvas.penIsDown then ⟨canvas.position, target⟩ :: canvas.drawn else canvas.drawn }

/-- Carries out a call.  Clearing wipes the drawing and turns the turtle up again, but leaves it
where it is. -/
def apply (canvas : Canvas) : Call → Canvas × Option Failure
  | .forward distance => (canvas.move distance, none)
  | .turn degrees => canvas.rotate degrees
  | .penUp => ({ canvas with penIsDown := false }, none)
  | .penDown => ({ canvas with penIsDown := true }, none)
  | .clear => ({ canvas with drawn := [] } : Canvas).setAngle 0.0

def applyAll (canvas : Canvas) : List Call → Canvas × Option Failure
  | [] => (canvas, none)
  | call :: rest =>
    match canvas.apply call with
    | (next, none) => next.applyAll rest
    | (next, some failure) => (next, some failure)

end Canvas

end Turtle
