import Mathlib.Data.List.DropRight
import Turtle.Proofs.LoweredLines

/-!
# Blanks at the ends of a text

Blanks at either end of a text belong to no word of it, and they have no part in how the words are
lowered.  So it is the same whether a text is lowered first or freed of them first.
-/

set_option autoImplicit false

namespace Turtle.Text

/-! ## Words -/

theorem wordsFrom_append_blanks {front : List Char} (blanks : ∀ c ∈ front, isBlank c = true)
    (rest : List Char) : wordsFrom [] (front ++ rest) = wordsFrom [] rest := by
  induction front with
  | nil => rfl
  | cons c front ih =>
    rw [List.cons_append, wordsFrom, if_pos (blanks c (List.mem_cons_self ..))]
    exact ih fun d member => blanks d (List.mem_cons_of_mem _ member)

theorem wordsFrom_dropWhile (text : List Char) :
    wordsFrom [] (text.dropWhile isBlank) = wordsFrom [] text := by
  have blanks : ∀ c ∈ text.takeWhile isBlank, isBlank c = true := fun c member =>
    List.mem_takeWhile_imp member
  rw [← wordsFrom_append_blanks blanks, List.takeWhile_append_dropWhile]

theorem wordsFrom_concat_blank {c : Char} (blank : isBlank c = true) (letters text : List Char) :
    wordsFrom letters (text ++ [c]) = wordsFrom letters text := by
  induction text generalizing letters with
  | nil => simp [wordsFrom, blank, pendingWord]
  | cons d text ih => rw [List.cons_append, wordsFrom, wordsFrom, ih, ih]

theorem wordsFrom_rdropWhile (text : List Char) :
    wordsFrom [] (text.rdropWhile isBlank) = wordsFrom [] text := by
  induction text using List.reverseRecOn with
  | nil => rfl
  | append_singleton text c ih =>
    by_cases blank : isBlank c = true
    · rw [List.rdropWhile_concat_pos _ _ _ blank, ih, wordsFrom_concat_blank blank]
    · rw [List.rdropWhile_concat_neg _ _ _ blank]

theorem words_strip (text : String) : words (strip text) = words text := by
  rw [words, strip, String.toList_ofList]
  exact congrArg (List.map String.ofList)
    ((wordsFrom_rdropWhile _).trans (wordsFrom_dropWhile text.toList))

/-- A text is nothing but blanks if and only if it has no words. -/
theorem strip_eq_empty_iff {text : String} : strip text = "" ↔ words text = [] := by
  constructor
  · intro empty
    rw [← words_strip, empty]
    rfl
  · intro wordless
    have dropped : text.toList.dropWhile isBlank = [] :=
      List.dropWhile_eq_nil_iff.mpr (words_eq_nil_iff.mp wordless)
    rw [strip, trimList, dropped]
    rfl

/-! ## Lower case -/

/-- Blanks in front do not touch the words behind them. -/
theorem lowerFrom_append_blanks {front : List Char} (blanks : ∀ c ∈ front, isBlank c = true)
    (rest : List Char) : lowerFrom false (front ++ rest) = front ++ lowerFrom false rest := by
  induction front with
  | nil => rfl
  | cons c front ih =>
    have first := lowerFrom_append_blank (blanks c (List.mem_cons_self ..)) false [] (front ++ rest)
    rw [ih fun d member => blanks d (List.mem_cons_of_mem _ member)] at first
    exact first

theorem Lowers.dropWhile_of_visible {text low : List Char} {c : Char}
    (lowers : Lowers (c :: text) low) (visible : isBlank c = false) :
    low.dropWhile isBlank = low := by
  cases lowers with
  | blank blank _ => exact absurd (visible.symm.trans blank) Bool.false_ne_true
  | visible _ images _ =>
    rw [List.dropWhile_cons_of_neg (by simp [images _ (List.mem_cons_self ..)])]

theorem Lowers.ends_visible {text low : List Char} {c : Char} (lowers : Lowers (text ++ [c]) low)
    (visible : isBlank c = false) : ∃ front d, low = front ++ [d] ∧ isBlank d = false := by
  generalize whole : text ++ [c] = given at lowers
  induction lowers generalizing text with
  | nothing => simp at whole
  | @blank e given low blank _ ih =>
    cases text with
    | nil =>
      obtain ⟨rfl, rfl⟩ := List.cons.inj whole
      exact absurd (visible.symm.trans blank) Bool.false_ne_true
    | cons first text =>
      obtain ⟨front, d, rfl, shown⟩ := ih (List.cons.inj whole).2
      exact ⟨e :: front, d, rfl, shown⟩
  | @visible e d image given low _ images others ih =>
    cases text with
    | nil =>
      obtain ⟨rfl, rfl⟩ := List.cons.inj whole
      cases others
      refine ⟨(d :: image).dropLast, (d :: image).getLast (List.cons_ne_nil _ _), ?_,
        images _ (List.getLast_mem _)⟩
      rw [List.append_nil, List.dropLast_append_getLast]
    | cons first text =>
      obtain ⟨front, last, rfl, shown⟩ := ih (List.cons.inj whole).2
      exact ⟨d :: (image ++ front), last, by simp, shown⟩

theorem dropWhile_lowerFrom (text : List Char) :
    (lowerFrom false text).dropWhile isBlank = lowerFrom false (text.dropWhile isBlank) := by
  induction text with
  | nil => rfl
  | cons c text ih =>
    cases blank : isBlank c with
    | true =>
      have first := lowerFrom_append_blank blank false [] text
      rw [List.nil_append] at first
      rw [first, List.dropWhile_cons_of_pos blank, ← ih]
      exact List.dropWhile_cons_of_pos blank
    | false =>
      rw [List.dropWhile_cons_of_neg (by simp [blank])]
      exact (lowers_lowerFrom false (c :: text)).dropWhile_of_visible blank

theorem rdropWhile_lowerFrom (afterCased : Bool) (text : List Char) :
    (lowerFrom afterCased text).rdropWhile isBlank =
      lowerFrom afterCased (text.rdropWhile isBlank) := by
  induction text using List.reverseRecOn with
  | nil => rfl
  | append_singleton text c ih =>
    cases blank : isBlank c with
    | true =>
      have last := lowerFrom_append_blank blank afterCased text []
      rw [lowerFrom] at last
      rw [last, List.rdropWhile_concat_pos _ _ _ blank, List.rdropWhile_concat_pos _ _ _ blank, ih]
    | false =>
      have lowers := lowers_lowerFrom afterCased (text ++ [c])
      obtain ⟨front, d, low, shown⟩ := lowers.ends_visible blank
      rw [List.rdropWhile_concat_neg _ _ _ (by simp [blank]), low,
        List.rdropWhile_concat_neg _ _ _ (by simp [shown])]

/-- A text can be lowered before or after it is freed of the blanks at its ends. -/
theorem lower_strip (text : String) : lower (strip text) = strip (lower text) := by
  rw [lower, strip, strip, lower, String.toList_ofList, String.toList_ofList]
  refine congrArg String.ofList ?_
  have last := rdropWhile_lowerFrom false (text.toList.dropWhile isBlank)
  rw [← dropWhile_lowerFrom] at last
  exact last.symm

example : strip (lower " \tΟΔΟΣ ") = "οδος" := by decide +kernel

end Turtle.Text
