import Turtle.Number.Binary64
import Turtle.Number.Numeral

/-!
# Rounding to decimal digits

Doubles rounded to a number of places or of significant digits, exactly, with a half going to the
even neighbour; and the layout of digits as text.
-/

set_option autoImplicit false

namespace Turtle.Number

/-- The whole number nearest to a quotient; a half goes to the even neighbour. -/
def roundQuotient (num den : Nat) : Nat :=
  let quotient := num / den
  let twice := 2 * (num % den)
  if twice < den || (twice == den && quotient % 2 == 0) then quotient else quotient + 1

/-- Rounding goes to within half a unit. -/
theorem roundQuotient_near (num : Nat) {den : Nat} (positive : 0 < den) :
    2 * num ≤ (2 * roundQuotient num den + 1) * den ∧
      2 * roundQuotient num den * den ≤ 2 * num + den := by
  have split : den * (num / den) + num % den = num := Nat.div_add_mod num den
  have small : num % den < den := Nat.mod_lt num positive
  have expand : (2 * (num / den) + 1) * den = 2 * (den * (num / den)) + den := by
    rw [Nat.add_mul, Nat.one_mul, Nat.mul_assoc, Nat.mul_comm (num / den) den]
  have double : 2 * (num / den) * den = 2 * (den * (num / den)) := by
    rw [Nat.mul_assoc, Nat.mul_comm (num / den) den]
  have up : 2 * (num / den + 1) * den = 2 * (den * (num / den)) + 2 * den := by
    rw [Nat.mul_add, Nat.add_mul, double, Nat.mul_one]
  have upper : (2 * (num / den + 1) + 1) * den = 2 * (den * (num / den)) + 2 * den + den := by
    rw [Nat.add_mul, up, Nat.one_mul]
  simp only [roundQuotient, Bool.or_eq_true, Bool.and_eq_true, decide_eq_true_eq, beq_iff_eq]
  split <;> omega

/-- The place of the first decimal digit of a positive fraction, as a power of ten.  A fraction
below one has to be at least 10^-400. -/
def leadingPlace (num den : Nat) : Int :=
  if den ≤ num then (toDigits (num / den)).length - 1
  else (toDigits (num * Nat.pow 10 400 / den)).length - 401

def powerOfTen (k : Int) : Nat × Nat :=
  (Nat.pow 10 k.toNat, Nat.pow 10 (-k).toNat)

/-- A positive finite double rounded to `count` significant digits: the digits as a whole number,
and the place of the first of them. -/
def roundSignificant (count : Nat) (x : Float) : Nat × Int :=
  let (num, den) := (Dyadic.ofFloat x).fraction
  let place := leadingPlace num den
  let (up, down) := powerOfTen (place - (count - 1 : Nat))
  let digits := roundQuotient (num * down) (den * up)
  if digits = Nat.pow 10 count then (Nat.pow 10 (count - 1), place + 1) else (digits, place)

/-- The size of a finite double in units of the last of `count` decimal places. -/
def roundPlaces (count : Nat) (x : Float) : Nat :=
  let (num, den) := (Dyadic.ofFloat x).fraction
  roundQuotient (num * Nat.pow 10 count) den

structure Layout where
  /-- The places of the first digit from this one up are written without an exponent. -/
  lowest : Int
  /-- The places of the first digit from this one up are written with an exponent. -/
  highest : Int
  /-- What is put after a whole number that is written without an exponent. -/
  afterWhole : List Char
deriving Repr, DecidableEq

/-- An exponent, with its sign and two digits at least. -/
def exponentText (exponent : Int) : List Char :=
  let digits := toDigits exponent.natAbs
  (if exponent < 0 then '-' else '+') :: (if digits.length < 2 then '0' :: digits else digits)

def withoutTrailingZeros (digits : List Char) : List Char :=
  (digits.reverse.dropWhile (· = '0')).reverse

def fractionText : List Char → List Char
  | [] => []
  | digits => '.' :: digits

/-- Digits laid out so that the first of them stands at a place.  Zeros at their end are not
written after a point. -/
def Layout.write (layout : Layout) (digits : List Char) (place : Int) : List Char :=
  let kept := withoutTrailingZeros digits
  if place < layout.lowest || layout.highest ≤ place then
    kept.take 1 ++ fractionText (kept.drop 1) ++ 'e' :: exponentText place
  else if place < 0 then
    '0' :: '.' :: List.replicate ((-place).toNat - 1) '0' ++ kept
  else
    let width := place.toNat + 1
    let whole := kept.take width ++ List.replicate (width - kept.length) '0'
    match kept.drop width with
    | [] => whole ++ layout.afterWhole
    | fraction => whole ++ '.' :: fraction

/-- The layout of a number in a summary: six digits, and no mark of a fraction on a whole number. -/
def summaryLayout : Layout := ⟨-4, 6, []⟩

/-- A double laid out with its sign, where `finite` writes the size of one that is finite and not
zero. -/
def withSign (zeroText : List Char) (finite : Float → List Char) (x : Float) : String :=
  String.ofList <|
    if isUndefined x then ['n', 'a', 'n']
    else
      (if isNegative x then ['-'] else []) ++
        if isInfinite x then ['i', 'n', 'f']
        else if (Dyadic.ofFloat x).significand = 0 then zeroText
        else finite x

def summaryText (x : Float) : String :=
  withSign ['0'] (fun size =>
    let (digits, place) := roundSignificant 6 size
    summaryLayout.write (toDigits digits) place) x

end Turtle.Number
