import Turtle.Number.Binary64
import Turtle.Number.Numeral

/-!
# Decimals

The reading of a decimal number: digits with an optional point and an optional exponent, or the
name of an infinity or of the undefined number.  The result is the double nearest to the number
written, and an infinity when that is beyond all doubles.
-/

set_option autoImplicit false

namespace Turtle.Number

/-- What a decimal numeral writes, its sign left out. -/
inductive Decimal where
  | finite (coefficient : Nat) (exponent : Int)
  | infinite
  | undefined
deriving Repr, DecidableEq

/-- The exponent that ends a numeral, which may be missing. -/
def readExponent : List Char → Option Int
  | [] => some 0
  | mark :: rest =>
    if mark = 'e' || mark = 'E' then
      let (negative, digits) := splitSign rest
      if digits.isEmpty || !digits.all Char.isDigit then none
      else some (if negative then -(ofDigits digits : Int) else ofDigits digits)
    else none

/-- The digits after a point, if there is one, and what follows them. -/
def splitFraction : List Char → List Char × List Char
  | '.' :: rest => rest.span Char.isDigit
  | text => ([], text)

def readPositional (text : List Char) : Option Decimal :=
  let (whole, afterWhole) := text.span Char.isDigit
  let (fraction, afterFraction) := splitFraction afterWhole
  if whole.isEmpty && fraction.isEmpty then none
  else
    (readExponent afterFraction).map fun exponent =>
      .finite (ofDigits (whole ++ fraction)) (exponent - fraction.length)

def readDecimal (text : List Char) : Option Decimal :=
  let name := String.ofList (text.map Char.toLower)
  if name = "inf" || name = "infinity" then some .infinite
  else if name = "nan" then some .undefined
  else readPositional text

/-- The double nearest to a decimal.  A number with its first digit above the place of 10^309 is
beyond all doubles, and one with its first digit below the place of 10^-330 is nearest to zero, so
that the powers of ten that have to be computed stay small. -/
def Decimal.toFloat : Decimal → Float
  | .infinite => infinity
  | .undefined => Number.undefined
  | .finite coefficient exponent =>
    let order := ((toDigits coefficient).length : Int) + exponent
    if coefficient = 0 || order < -330 then 0.0
    else if 310 < order then infinity
    else Float.ofScientific coefficient (exponent < 0) exponent.natAbs

def readReal (text : String) : Option Float :=
  (numeral? text).bind fun (negative, digits) =>
    (readDecimal digits).map fun decimal =>
      if negative then -decimal.toFloat else decimal.toFloat

end Turtle.Number
