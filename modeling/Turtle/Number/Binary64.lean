/-!
# Doubles as exact numbers

A finite double is a whole number times a power of two.  Everything that has to be exact about
doubles (their shortest text, their rounding to places, remainders) is computed on that pair.
-/

set_option autoImplicit false

namespace Turtle.Number

/-- The number `significand * 2 ^ exponent`. -/
structure Dyadic where
  significand : Nat
  exponent : Int
deriving Repr, DecidableEq

/-- The size of a finite double, its sign left out. -/
def Dyadic.ofFloat (x : Float) : Dyadic :=
  let bits := x.toBits.toNat
  let field : Nat := bits / Nat.pow 2 52 % Nat.pow 2 11
  let fraction : Nat := bits % Nat.pow 2 52
  if field = 0 then ⟨fraction, -1074⟩ else ⟨Nat.pow 2 52 + fraction, (field : Int) - 1075⟩

/-- The double of this size, for a size that some double has exactly. -/
def Dyadic.toFloat (d : Dyadic) : Float :=
  if 0 ≤ d.exponent then Float.ofNat (d.significand * Nat.pow 2 d.exponent.toNat)
  else
    let places := (-d.exponent).toNat
    Float.ofScientific (d.significand * Nat.pow 5 places) true places

def Dyadic.fraction (d : Dyadic) : Nat × Nat :=
  (d.significand * Nat.pow 2 d.exponent.toNat, Nat.pow 2 (-d.exponent).toNat)

def isNegative (x : Float) : Bool :=
  x.toBits.toNat / Nat.pow 2 63 == 1

def isFinite (x : Float) : Bool :=
  x.toBits.toNat / Nat.pow 2 52 % Nat.pow 2 11 != 2047

def isUndefined (x : Float) : Bool :=
  x.toBits.toNat / Nat.pow 2 52 % Nat.pow 2 11 == 2047 && x.toBits.toNat % Nat.pow 2 52 != 0

def isInfinite (x : Float) : Bool :=
  !isFinite x && !isUndefined x

def infinity : Float := Float.ofBits 0x7FF0000000000000

def undefined : Float := Float.ofBits 0x7FF8000000000000

/-- A double is this whole number, exactly. -/
def equalsWhole (x : Float) (n : Int) : Bool :=
  let (numerator, denominator) := (Dyadic.ofFloat x).fraction
  isFinite x && n.natAbs * denominator == numerator &&
    (numerator == 0 || decide (n < 0) == isNegative x)

/-- The remainder of a number by a positive whole number, exactly. -/
def Dyadic.mod (d : Dyadic) (modulus : Nat) : Dyadic :=
  if 0 ≤ d.exponent then ⟨d.significand * Nat.pow 2 d.exponent.toNat % modulus, 0⟩
  else ⟨d.significand % (modulus * Nat.pow 2 (-d.exponent).toNat), d.exponent⟩

/-- A double reduced to a full circle of a positive whole number of units.  The remainder is exact
and has the sign of the double; a negative one is then moved up by a full circle, with one rounding,
so that a tiny negative double gives the full circle itself. -/
def reduce (x : Float) (circle : Nat) : Float :=
  if isFinite x then
    let rest := (Dyadic.ofFloat x).mod circle
    if rest.significand = 0 then 0.0
    else if isNegative x then -rest.toFloat + Float.ofNat circle
    else rest.toFloat
  else undefined

end Turtle.Number
