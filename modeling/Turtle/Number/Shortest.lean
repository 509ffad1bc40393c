import Turtle.Number.Rounded

/-!
# The shortest text of a double

A double is written with the fewest digits that read back as the same double, and of those digits
the ones nearest to it.  On each decimal grid only the two points around the double can be the
nearest, so the search looks at these two, from the coarsest grid that can matter to the finest.
-/

set_option autoImplicit false

namespace Turtle.Number

/-- A positive double between the numbers that round to it, all three over one denominator. -/
structure Neighbourhood where
  value : Nat
  low : Nat
  high : Nat
  denominator : Nat
  /-- The two ends round to the double as well. -/
  closed : Bool
deriving Repr, DecidableEq

/-- The neighbourhood of a positive finite double: half the distance to the doubles next to it,
where the one below a power of two is twice as near. -/
def Neighbourhood.ofDyadic (d : Dyadic) : Neighbourhood :=
  let quarter : Int := d.exponent - 2
  let scale := Nat.pow 2 quarter.toNat
  let below := if d.significand = Nat.pow 2 52 && d.exponent != -1074 then 1 else 2
  { value := 4 * d.significand * scale
    low := (4 * d.significand - below) * scale
    high := (4 * d.significand + 2) * scale
    denominator := Nat.pow 2 (-quarter).toNat
    closed := d.significand % 2 == 0 }

/-- A multiple of a power of ten, given as a fraction, rounds to the double. -/
def Neighbourhood.holds (n : Neighbourhood) (up down multiple : Nat) : Bool :=
  let point := multiple * up * n.denominator
  let low := n.low * down
  let high := n.high * down
  if n.closed then low ≤ point && point ≤ high else low < point && point < high

/-- The multiple of a power of ten that is nearest to the double, if one rounds to it. -/
def Neighbourhood.onGrid? (n : Neighbourhood) (up down : Nat) : Option Nat :=
  let under := n.value * down / (n.denominator * up)
  let above := under + 1
  match n.holds up down under, n.holds up down above with
  | true, true =>
    let toUnder := n.value * down - under * up * n.denominator
    let toAbove := above * up * n.denominator - n.value * down
    some (if toUnder < toAbove || (toUnder == toAbove && under % 2 == 0) then under else above)
  | true, false => some under
  | false, true => some above
  | false, false => none

/-- The first grid, from a place down, with a point that rounds to the double: that point as a
whole number, and its grid as a power of ten. -/
def Neighbourhood.search (n : Neighbourhood) : (tries : Nat) → (grid : Int) → Nat × Int
  | 0, grid => (0, grid)
  | tries + 1, grid =>
    let (up, down) := powerOfTen grid
    match n.onGrid? up down with
    | some multiple => (multiple, grid)
    | none => n.search tries (grid - 1)

/-- The shortest digits of a positive finite double, as a whole number, and the power of ten that
it is a multiple of.  Seventeen digits are always enough. -/
def shortest (x : Float) : Nat × Int :=
  let d := Dyadic.ofFloat x
  let (num, den) := d.fraction
  (Neighbourhood.ofDyadic d).search 18 (leadingPlace num den)

/-- The layout of a double as an argument: without an exponent from 10^-4 up to below 10^16, and
with a zero after the point of a whole number. -/
def argumentLayout : Layout := ⟨-4, 16, ['.', '0']⟩

def shortestText (x : Float) : String :=
  withSign ['0', '.', '0'] (fun size =>
    let (digits, grid) := shortest size
    let written := toDigits digits
    argumentLayout.write written (grid + written.length - 1)) x

end Turtle.Number
