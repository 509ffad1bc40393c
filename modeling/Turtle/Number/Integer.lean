import Turtle.Number.Numeral

/-!
# Whole numbers

The reading of a whole number with an optional sign, and its writing.  Neither is done for a number
of too many digits.
-/

set_option autoImplicit false

namespace Turtle.Number

/-- The most digits that a whole number may be read from or written with.  Leading zeros count when
it is read. -/
def maxIntegerDigits : Nat := 4300

def readInteger (text : String) : Option Int :=
  match numeral? text with
  | none => none
  | some (negative, digits) =>
    if digits.isEmpty || !digits.all Char.isDigit then none
    else if maxIntegerDigits < digits.length then none
    else some (if negative then -(ofDigits digits : Int) else ofDigits digits)

/-- The text of a whole number, unless it takes too many digits. -/
def writeInteger (n : Int) : Option String :=
  if maxIntegerDigits < (toDigits n.natAbs).length then none else some (toString n)

example : readInteger " +1_000 " = some 1000 := by decide +kernel

example : readInteger "-٣" = some (-3) := by decide +kernel

example : readInteger "1__0" = none ∧ readInteger "_1" = none ∧ readInteger "1_" = none := by
  decide +kernel

end Turtle.Number
