import Turtle.Text.Lowercase

/-!
# Text in lower case

A lowered text is made of characters that lowering leaves as they are, and such characters are left
as they are wherever they stand.  So lowering a text twice is the same as lowering it once.  That no
letter has a lower-case form that is lowered any further is seen from the table, run by run.
-/

set_option autoImplicit false

namespace Turtle.Text

/-- A character that lowering leaves as it is. -/
structure Lowered (c : Char) : Prop where
  sigma : c ≠ 'Σ'
  dotted : c ≠ 'İ'
  letter : lowerLetter c = c

instance (c : Char) : Decidable (Lowered c) :=
  decidable_of_iff (c ≠ 'Σ' ∧ c ≠ 'İ' ∧ lowerLetter c = c)
    ⟨fun ⟨sigma, dotted, letter⟩ => ⟨sigma, dotted, letter⟩,
      fun lowered => ⟨lowered.sigma, lowered.dotted, lowered.letter⟩⟩

theorem lowered_toLower {c : Char} (ascii : c.toNat < 0x80) : Lowered c.toLower := by
  have each : ∀ n ∈ List.range 0x80, Lowered (Char.ofNat n).toLower := by decide +kernel
  have found := each c.toNat (List.mem_range.mpr ascii)
  rwa [Char.ofNat_toNat] at found

namespace LetterRun

/-- The letters of a run have their lower-case forms outside of another run: before it, after it,
or in between its letters. -/
def clears (run other : LetterRun) : Bool :=
  run.image + (run.last - run.first) < other.first || other.last < run.image ||
    (other.step == 2 && (run.step == 2 || run.first == run.last) &&
      (run.image + other.first) % 2 == 1)

theorem clears_holds {run other : LetterRun} {n : Nat} (clears : run.clears other = true)
    (held : run.holds n = true) : other.holds (run.image + (n - run.first)) = false := by
  unfold LetterRun.clears at clears
  unfold holds at held ⊢
  simp only [Bool.or_eq_true, Bool.and_eq_true, decide_eq_true_eq, beq_iff_eq] at clears held
  obtain ⟨⟨low, high⟩, steps⟩ := held
  rw [Bool.eq_false_iff]
  simp only [ne_eq, Bool.and_eq_true, decide_eq_true_eq, beq_iff_eq]
  rintro ⟨⟨above, below⟩, inside⟩
  rcases clears with (before | after) | ⟨⟨twos, paced | single⟩, odd⟩
  · omega
  · omega
  · rw [twos] at inside
    rw [paced] at steps
    omega
  · rw [twos] at inside
    omega

/-- The lower-case forms of a run are characters.  Those that are beyond ASCII are not the dotted
capital I, and there is at most one that is not. -/
def sound (run : LetterRun) : Bool :=
  (run.image + (run.last - run.first) < 0xD800 ||
      (0xDFFF < run.image && run.image + (run.last - run.first) < 0x110000)) &&
    run.clears ⟨0x130, 0x130, 1, 0⟩ &&
    (0x80 ≤ run.image || (run.first == run.last && Lowered (Char.ofNat run.image)))

end LetterRun

theorem upperRuns_sound : ∀ run ∈ upperRuns, run.sound = true := by decide +kernel

theorem upperRuns_clear : ∀ run ∈ upperRuns, ∀ other ∈ upperRuns, run.clears other = true := by
  have all : upperRuns.all (fun run => upperRuns.all run.clears) = true := by decide +kernel
  simpa only [List.all_eq_true] using all

theorem lowerLetter_of_unheld {c : Char} (beyond : 0x80 ≤ c.toNat)
    (unheld : ∀ run ∈ upperRuns, run.holds c.toNat = false) : lowerLetter c = c := by
  have none : (upperRuns.find? fun run => run.holds c.toNat) = none := by
    simpa using unheld
  rw [lowerLetter, if_neg (Nat.not_lt.mpr beyond), none]

theorem sigma_held : ∃ run ∈ upperRuns, run.holds 'Σ'.toNat = true := by decide +kernel

theorem lowered_image {run : LetterRun} {n : Nat} (listed : run ∈ upperRuns)
    (held : run.holds n = true) : Lowered (Char.ofNat (run.image + (n - run.first))) := by
  have sound := upperRuns_sound run listed
  simp only [LetterRun.sound, Bool.and_eq_true, Bool.or_eq_true, decide_eq_true_eq,
    beq_iff_eq] at sound
  obtain ⟨⟨valid, undotted⟩, low | ⟨single, lowered⟩⟩ := sound
  · have inside : n - run.first ≤ run.last - run.first := by
      simp only [LetterRun.holds, Bool.and_eq_true, decide_eq_true_eq] at held
      omega
    have code : (Char.ofNat (run.image + (n - run.first))).toNat =
        run.image + (n - run.first) := by
      have valid : (run.image + (n - run.first)).isValidChar := by
        unfold Nat.isValidChar
        omega
      rw [Char.ofNat, dif_pos valid]
      rfl
    have unheld : ∀ other ∈ upperRuns,
        other.holds (Char.ofNat (run.image + (n - run.first))).toNat = false := by
      intro other member
      rw [code]
      exact LetterRun.clears_holds (upperRuns_clear run listed other member) held
    refine ⟨?_, ?_, lowerLetter_of_unheld (by omega) unheld⟩
    · intro sigma
      obtain ⟨other, member, holds⟩ := sigma_held
      rw [← sigma, unheld other member] at holds
      exact Bool.false_ne_true holds
    · intro dotted
      have apart := LetterRun.clears_holds undotted held
      rw [← code, dotted] at apart
      exact absurd apart (by decide)
  · have first : n - run.first = 0 := by
      simp only [LetterRun.holds, Bool.and_eq_true, decide_eq_true_eq] at held
      omega
    rw [first, Nat.add_zero]
    exact lowered

theorem lowered_lowerLetter {c : Char} (sigma : c ≠ 'Σ') (dotted : c ≠ 'İ') :
    Lowered (lowerLetter c) := by
  by_cases ascii : c.toNat < 0x80
  · rw [lowerLetter, if_pos ascii]
    exact lowered_toLower ascii
  · cases found : upperRuns.find? fun run => run.holds c.toNat with
    | none =>
      have same : lowerLetter c = c := by rw [lowerLetter, if_neg ascii, found]
      rw [same]
      exact ⟨sigma, dotted, same⟩
    | some run =>
      rw [lowerLetter, if_neg ascii, found]
      have held : run.holds c.toNat = true := by simpa using List.find?_some found
      exact lowered_image (List.mem_of_find?_eq_some found) held

theorem lowered_of_mem_lowerFrom {c : Char} {afterCased : Bool} {text : List Char}
    (member : c ∈ lowerFrom afterCased text) : Lowered c := by
  induction text generalizing afterCased with
  | nil => exact absurd member List.not_mem_nil
  | cons d text ih =>
    rw [lowerFrom] at member
    split at member
    · rcases List.mem_cons.mp member with rfl | later
      · split <;> decide +kernel
      · exact ih later
    · split at member
      · rcases List.mem_cons.mp member with rfl | more
        · decide +kernel
        · rcases List.mem_cons.mp more with rfl | later
          · decide +kernel
          · exact ih later
      · rcases List.mem_cons.mp member with rfl | later
        · exact lowered_lowerLetter ‹_› ‹_›
        · exact ih later

theorem lowerFrom_of_lowered {text : List Char} (lowered : ∀ c ∈ text, Lowered c)
    (afterCased : Bool) : lowerFrom afterCased text = text := by
  induction text generalizing afterCased with
  | nil => rfl
  | cons c text ih =>
    obtain ⟨sigma, dotted, letter⟩ := lowered c (List.mem_cons_self ..)
    rw [lowerFrom, if_neg sigma, if_neg dotted, letter]
    rw [ih fun d member => lowered d (List.mem_cons_of_mem _ member)]

theorem lower_eq_self_iff {text : String} :
    lower text = text ↔ ∀ c ∈ text.toList, Lowered c := by
  constructor
  · intro same c member
    rw [← same, lower, String.toList_ofList] at member
    exact lowered_of_mem_lowerFrom member
  · intro lowered
    rw [lower, lowerFrom_of_lowered lowered, String.ofList_toList]

end Turtle.Text
