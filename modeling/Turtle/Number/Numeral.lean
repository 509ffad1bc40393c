import Turtle.Text.Blank
import Turtle.Text.DecimalDigit

/-!
# Numerals

What the reading of whole numbers and of decimals has in common.  A numeral may have blanks around
it, a sign in front, digits of any script, and single underscores between digits to group them.
-/

set_option autoImplicit false

namespace Turtle.Number

open Turtle.Text

def digitChar (value : Nat) : Char :=
  Char.ofNat (0x30 + value)

def digitOf (c : Char) : Nat :=
  c.toNat - 0x30

theorem digitOf_digitChar {value : Nat} (small : value < 10) :
    digitOf (digitChar value) = value := by
  have each : ∀ n ∈ List.range 10, digitOf (digitChar n) = n := by decide
  exact each value (List.mem_range.mpr small)

/-- A character of a numeral in ASCII: other blanks are spaces, other digits are their ASCII
digits, and what else lies beyond ASCII becomes a question mark, which no numeral holds. -/
def plainChar (c : Char) : Char :=
  if c.toNat < 0x7F then c
  else if isBlank c then ' '
  else
    match digitValue? c with
    | some value => digitChar value
    | none => '?'

/-- The ASCII blanks that may surround a numeral.  The separators from U+001C to U+001F part words
but do not surround numerals. -/
def surroundsNumeral (c : Char) : Bool :=
  c = ' ' || (0x09 ≤ c.toNat && c.toNat ≤ 0x0D)

def startsWithDigit : List Char → Bool
  | [] => false
  | c :: _ => c.isDigit

/-- A numeral without its underscores, each of which has to stand between two digits.  The flag
tells whether a digit stands before the text. -/
def ungrouped (afterDigit : Bool) : List Char → Option (List Char)
  | [] => some []
  | c :: rest =>
    if c = '_' then if afterDigit && startsWithDigit rest then ungrouped false rest else none
    else (ungrouped c.isDigit rest).map (c :: ·)

def splitSign : List Char → Bool × List Char
  | '-' :: rest => (true, rest)
  | '+' :: rest => (false, rest)
  | text => (false, text)

/-- The sign and the ASCII characters of a numeral: true for a minus. -/
def numeral? (text : String) : Option (Bool × List Char) :=
  (ungrouped false (trimList surroundsNumeral (text.toList.map plainChar))).map splitSign

def ofDigits (digits : List Char) : Nat :=
  digits.foldl (fun value c => value * 10 + digitOf c) 0

theorem ofDigits_append_singleton (digits : List Char) (c : Char) :
    ofDigits (digits ++ [c]) = ofDigits digits * 10 + digitOf c := by
  simp [ofDigits]

/-- The digits of a number, highest first; zero has one digit. -/
def toDigits (n : Nat) : List Char :=
  Nat.toDigits 10 n

end Turtle.Number
