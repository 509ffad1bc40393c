import Mathlib.Algebra.Group.Nat.Defs
import Mathlib.Data.List.Induction
import Turtle.Number.Integer
import Turtle.Proofs.Lowered

/-!
# Whole numbers as text

A whole number is read as it is written: the digits that write it need no lowering, they are no
signs, and they stand for themselves.
-/

set_option autoImplicit false

namespace Turtle.Number

theorem toNat_of_isDigit {c : Char} (digit : c.isDigit = true) : c.toNat < 0x80 := by
  simp only [Char.isDigit, Bool.and_eq_true, decide_eq_true_eq] at digit
  have bound : c.toNat ≤ 57 := digit.2
  omega

/-- A character that belongs to a numeral, as it is and wherever it stands. -/
structure Plain (c : Char) : Prop where
  visible : Text.isBlank c = false
  lowered : Text.Lowered c
  same : plainChar c = c
  inside : surroundsNumeral c = false
  separator : c ≠ '_'
  minus : c ≠ '-'
  plus : c ≠ '+'

theorem plain_of_isDigit {c : Char} (digit : c.isDigit = true) : Plain c := by
  have each : ∀ n ∈ List.range 0x80, (Char.ofNat n).isDigit = true →
      Text.isBlank (Char.ofNat n) = false ∧ Text.Lowered (Char.ofNat n) ∧
        plainChar (Char.ofNat n) = Char.ofNat n ∧ surroundsNumeral (Char.ofNat n) = false ∧
        Char.ofNat n ≠ '_' ∧ Char.ofNat n ≠ '-' ∧ Char.ofNat n ≠ '+' := by
    decide +kernel
  have found := each c.toNat (List.mem_range.mpr (toNat_of_isDigit digit))
  rw [Char.ofNat_toNat] at found
  obtain ⟨visible, lowered, same, inside, separator, minus, plus⟩ := found digit
  exact ⟨visible, lowered, same, inside, separator, minus, plus⟩

theorem trimList_eq_self {drop : Char → Bool} {text : List Char}
    (kept : ∀ c ∈ text, drop c = false) : Text.trimList drop text = text := by
  have untouched : ∀ {line : List Char}, (∀ c ∈ line, drop c = false) →
      line.dropWhile drop = line := by
    intro line kept
    cases line with
    | nil => rfl
    | cons c rest => rw [List.dropWhile_cons, if_neg (by simp [kept c (List.mem_cons_self ..)])]
  rw [Text.trimList, untouched kept, untouched, List.reverse_reverse]
  exact fun c member => kept c (List.mem_reverse.mp member)

theorem ungrouped_digits {digits : List Char} (plain : ∀ c ∈ digits, c ≠ '_') (afterDigit : Bool) :
    ungrouped afterDigit digits = some digits := by
  induction digits generalizing afterDigit with
  | nil => rfl
  | cons c rest ih =>
    have later := ih (fun d member => plain d (List.mem_cons_of_mem _ member)) c.isDigit
    rw [ungrouped, if_neg (plain c (List.mem_cons_self ..)), later]
    rfl

theorem splitSign_digits {digits : List Char} (minus : ∀ c ∈ digits, c ≠ '-')
    (plus : ∀ c ∈ digits, c ≠ '+') : splitSign digits = (false, digits) := by
  unfold splitSign
  split
  · exact absurd rfl (minus '-' (List.mem_cons_self ..))
  · exact absurd rfl (plus '+' (List.mem_cons_self ..))
  · rfl

theorem ofDigits_toDigits (n : Nat) : ofDigits (Nat.toDigits 10 n) = n := by
  have read : Nat.ofDigitChars 10 (Nat.toDigits 10 n) 0 = n := Nat.ofDigitChars_ten_toDigits
  rw [Nat.ofDigitChars_eq_foldl] at read
  rw [ofDigits]
  refine Eq.trans ?_ read
  congr 1
  funext value c
  rw [Nat.mul_comm]
  rfl

theorem plain_of_mem_toDigits {n : Nat} {c : Char} (member : c ∈ Nat.toDigits 10 n) : Plain c :=
  plain_of_isDigit (Nat.isDigit_of_mem_toDigits (by decide) (by decide) member)

theorem numeral?_toString (n : Nat) :
    numeral? (toString n) = some (false, Nat.toDigits 10 n) := by
  have plain : (Nat.toDigits 10 n).map plainChar = Nat.toDigits 10 n := by
    refine (List.map_congr_left fun c member => ?_).trans (List.map_id _)
    exact (plain_of_mem_toDigits member).same
  have trimmed : Text.trimList surroundsNumeral (Nat.toDigits 10 n) = Nat.toDigits 10 n :=
    trimList_eq_self fun c member => (plain_of_mem_toDigits member).inside
  have single : ungrouped false (Nat.toDigits 10 n) = some (Nat.toDigits 10 n) :=
    ungrouped_digits (fun c member => (plain_of_mem_toDigits member).separator) false
  have unsigned : splitSign (Nat.toDigits 10 n) = (false, Nat.toDigits 10 n) :=
    splitSign_digits (fun c member => (plain_of_mem_toDigits member).minus)
      (fun c member => (plain_of_mem_toDigits member).plus)
  rw [Nat.toString_eq_ofList_toDigits, numeral?, String.toList_ofList, plain, trimmed, single,
    Option.map_some, unsigned]

theorem ofDigits_lt {digits : List Char} (plain : ∀ c ∈ digits, c.isDigit = true) :
    ofDigits digits < 10 ^ digits.length := by
  induction digits using List.reverseRecOn with
  | nil => decide
  | append_singleton digits c ih =>
    have earlier := ih fun d member => plain d (List.mem_append_left _ member)
    have last := plain c (List.mem_append_right _ (List.mem_singleton_self c))
    simp only [Char.isDigit, Bool.and_eq_true, decide_eq_true_eq] at last
    have value : digitOf c < 10 := by
      have bound : c.toNat ≤ 57 := last.2
      unfold digitOf
      omega
    rw [ofDigits_append_singleton, List.length_append, List.length_singleton, Nat.pow_succ]
    omega

/-- What is read does not have too many digits. -/
theorem natAbs_of_readInteger {text : String} {n : Int} (read : readInteger text = some n) :
    n.natAbs < 10 ^ maxIntegerDigits := by
  unfold readInteger at read
  split at read
  · contradiction
  · rename_i negative digits _
    split at read
    · contradiction
    · rename_i plain
      split at read
      · contradiction
      · rename_i few
        simp only [Bool.or_eq_true, Bool.not_eq_true', not_or, Bool.not_eq_false] at plain
        have small := ofDigits_lt (List.all_eq_true.mp plain.2)
        have within := Nat.pow_le_pow_right (show 0 < 10 by decide) (Nat.not_lt.mp few)
        obtain rfl := Option.some.inj read
        split <;> omega

/-- The numbers that can be written are those that do not have too many digits. -/
theorem writeInteger_ne_none_iff {n : Int} :
    writeInteger n ≠ none ↔ n.natAbs < 10 ^ maxIntegerDigits := by
  have few : (toDigits n.natAbs).length ≤ maxIntegerDigits ↔ n.natAbs < 10 ^ maxIntegerDigits :=
    Nat.length_toDigits_le_iff (by decide) (by decide)
  rw [← few, writeInteger, ← Nat.not_lt]
  split <;> simp_all

/-- A number is read as it is written, if it does not have too many digits. -/
theorem readInteger_toString {n : Nat} (small : n < 10 ^ maxIntegerDigits) :
    readInteger (toString n) = some (n : Int) := by
  have length_le : (Nat.toDigits 10 n).length ≤ maxIntegerDigits :=
    (Nat.length_toDigits_le_iff (by decide) (by decide)).mpr small
  have nonempty : (Nat.toDigits 10 n).isEmpty = false := by
    simp [Nat.toDigits_ne_nil]
  have all : (Nat.toDigits 10 n).all Char.isDigit = true :=
    List.all_eq_true.mpr fun c member => Nat.isDigit_of_mem_toDigits (by decide) (by decide) member
  rw [readInteger, numeral?_toString]
  simp [nonempty, all, Nat.not_lt.mpr length_le, ofDigits_toDigits]

end Turtle.Number
