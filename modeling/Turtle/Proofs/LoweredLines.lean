import Turtle.Program.CodeLine
import Turtle.Proofs.Lowered

/-!
# Lines of a lowered text

A text is lowered line by line: a line feed ends every word, so the rule of the final sigma never
looks beyond it.  No letter is lowered to a blank and no blank to a letter.  So the lines of a
lowered text are the lowered lines of the text, with the same indentation, and with words where the
text has words.
-/

set_option autoImplicit false

namespace Turtle.Text

/-! ## Blanks stay blanks -/

/-- Neither the letters of a run nor their lower-case forms are blanks. -/
def LetterRun.visible (run : LetterRun) : Bool :=
  blankRanges.all fun range =>
    (run.last < range.1 || range.2 < run.first) &&
      (run.image + (run.last - run.first) < range.1 || range.2 < run.image)

theorem upperRuns_visible : ∀ run ∈ upperRuns, run.visible = true := by decide +kernel

theorem isBlank_eq_false {c : Char}
    (outside : ∀ range ∈ blankRanges, c.toNat < range.1 ∨ range.2 < c.toNat) :
    isBlank c = false := by
  rw [isBlank, Bool.eq_false_iff, ne_eq, Ranges.holds_eq_true_iff]
  rintro ⟨range, listed, low, high⟩
  rcases outside range listed with below | above
  · omega
  · omega

theorem isBlank_ofNat_eq_false {n : Nat}
    (outside : ∀ range ∈ blankRanges, n < range.1 ∨ range.2 < n) :
    isBlank (Char.ofNat n) = false := by
  by_cases valid : n.isValidChar
  · have code : (Char.ofNat n).toNat = n := by
      rw [Char.ofNat, dif_pos valid]
      rfl
    exact isBlank_eq_false (by simpa only [code] using outside)
  · rw [Char.ofNat, dif_neg valid]
    decide

theorem LetterRun.visible_of_holds {run : LetterRun} {n : Nat} (listed : run ∈ upperRuns)
    (held : run.holds n = true) :
    ∀ range ∈ blankRanges, (n < range.1 ∨ range.2 < n) ∧
      (run.image + (n - run.first) < range.1 ∨ range.2 < run.image + (n - run.first)) := by
  intro range blank
  have apart := List.all_eq_true.mp (upperRuns_visible run listed) range blank
  simp only [Bool.and_eq_true, Bool.or_eq_true, decide_eq_true_eq] at apart
  simp only [LetterRun.holds, Bool.and_eq_true, decide_eq_true_eq] at held
  omega

/-- A blank has no lower-case form but itself, and a letter none that is a blank. -/
theorem lowerLetter_blank (c : Char) :
    isBlank (lowerLetter c) = isBlank c ∧ (isBlank c = true → lowerLetter c = c) := by
  by_cases ascii : c.toNat < 0x80
  · have each : ∀ n ∈ List.range 0x80, isBlank (Char.ofNat n).toLower = isBlank (Char.ofNat n) ∧
        (isBlank (Char.ofNat n) = true → (Char.ofNat n).toLower = Char.ofNat n) := by
      decide +kernel
    have found := each c.toNat (List.mem_range.mpr ascii)
    rw [Char.ofNat_toNat] at found
    rwa [lowerLetter, if_pos ascii]
  · cases found : upperRuns.find? fun run => run.holds c.toNat with
    | none =>
      have same : lowerLetter c = c := by rw [lowerLetter, if_neg ascii, found]
      rw [same]
      exact ⟨rfl, fun _ => rfl⟩
    | some run =>
      have held : run.holds c.toNat = true := by simpa using List.find?_some found
      have apart := LetterRun.visible_of_holds (List.mem_of_find?_eq_some found) held
      have visible : isBlank c = false :=
        isBlank_eq_false fun range listed => (apart range listed).1
      have image : isBlank (Char.ofNat (run.image + (c.toNat - run.first))) = false :=
        isBlank_ofNat_eq_false fun range listed => (apart range listed).2
      rw [lowerLetter, if_neg ascii, found, visible]
      exact ⟨image, fun blank => absurd blank Bool.false_ne_true⟩

/-- A text and its lower-case form, character by character: blanks stay as they are, and whatever
is visible becomes something visible. -/
inductive Lowers : List Char → List Char → Prop where
  | nothing : Lowers [] []
  | blank {c : Char} {text low : List Char} :
    isBlank c = true → Lowers text low → Lowers (c :: text) (c :: low)
  | visible {c d : Char} {image text low : List Char} :
    isBlank c = false → (∀ e ∈ d :: image, isBlank e = false) → Lowers text low →
      Lowers (c :: text) (d :: (image ++ low))

theorem lowers_lowerFrom (afterCased : Bool) (text : List Char) :
    Lowers text (lowerFrom afterCased text) := by
  induction text generalizing afterCased with
  | nil => exact .nothing
  | cons c text ih =>
    rw [lowerFrom]
    split
    · rename_i sigma
      subst sigma
      refine @Lowers.visible _ _ [] _ _ (by decide) ?_ (ih _)
      split <;> simp [isBlank, blankRanges, Ranges.holds]
    · split
      · rename_i dotted
        subst dotted
        refine @Lowers.visible _ _ ['\u0307'] _ _ (by decide) ?_ (ih _)
        simp [isBlank, blankRanges, Ranges.holds]
      · obtain ⟨same, fixed⟩ := lowerLetter_blank c
        cases blank : isBlank c with
        | true =>
          rw [fixed blank]
          exact .blank blank (ih _)
        | false => exact @Lowers.visible _ _ [] _ _ blank (by simp [same, blank]) (ih _)

section Lowers

variable {text low : List Char} {c : Char}

theorem Lowers.mem_blank (lowers : Lowers text low) (blank : isBlank c = true) :
    c ∈ low ↔ c ∈ text := by
  induction lowers with
  | nothing => exact Iff.rfl
  | blank _ _ ih => rw [List.mem_cons, List.mem_cons, ih]
  | @visible d e image text low shown images _ ih =>
    have other : c ≠ d := by
      rintro rfl
      rw [shown] at blank
      exact Bool.false_ne_true blank
    have outside : c ∉ e :: image := fun member =>
      Bool.false_ne_true ((images c member).symm.trans blank)
    rw [← List.cons_append, List.mem_append, or_iff_right outside, List.mem_cons,
      or_iff_right other, ih]

theorem Lowers.all_blank (lowers : Lowers text low) :
    (∀ c ∈ low, isBlank c = true) ↔ ∀ c ∈ text, isBlank c = true := by
  induction lowers with
  | nothing => exact Iff.rfl
  | blank _ _ ih => rw [List.forall_mem_cons, List.forall_mem_cons, ih]
  | @visible c d image _ _ shown images =>
    have first := images d (List.mem_cons_self ..)
    rw [List.forall_mem_cons, List.forall_mem_cons, shown, first]
    simp

theorem isBlank_of_isIndent (indents : isIndent c = true) : isBlank c = true := by
  simp only [isIndent, Bool.or_eq_true, decide_eq_true_eq] at indents
  rcases indents with rfl | rfl <;> decide

theorem Lowers.takeWhile_isIndent (lowers : Lowers text low) :
    low.takeWhile isIndent = text.takeWhile isIndent := by
  have unindented : ∀ {c}, isBlank c = false → isIndent c = false := by
    intro c shown
    rw [Bool.eq_false_iff]
    intro indents
    rw [isBlank_of_isIndent indents] at shown
    exact Bool.false_ne_true shown.symm
  induction lowers with
  | nothing => rfl
  | blank _ _ ih => rw [List.takeWhile_cons, List.takeWhile_cons, ih]
  | @visible c d image _ _ shown images =>
    have first := images d (List.mem_cons_self ..)
    rw [List.takeWhile_cons, List.takeWhile_cons, unindented shown, unindented first]
    simp

end Lowers

theorem wordsFrom_eq_nil_iff {letters text : List Char} :
    wordsFrom letters text = [] ↔ letters = [] ∧ ∀ c ∈ text, isBlank c = true := by
  induction text generalizing letters with
  | nil => cases letters <;> simp [wordsFrom, pendingWord]
  | cons c text ih =>
    rw [wordsFrom, List.forall_mem_cons]
    cases blank : isBlank c with
    | true =>
      rw [if_pos rfl, List.append_eq_nil_iff, ih]
      cases letters <;> simp [pendingWord]
    | false =>
      rw [if_neg Bool.false_ne_true, ih]
      simp

theorem words_eq_nil_iff {line : String} :
    words line = [] ↔ ∀ c ∈ line.toList, isBlank c = true := by
  rw [words, List.map_eq_nil_iff, wordsFrom_eq_nil_iff, and_iff_right rfl]

/-- A line has words if and only if it has words when it is lowered. -/
theorem words_lower_eq_nil_iff {line : String} : words (lower line) = [] ↔ words line = [] := by
  rw [words_eq_nil_iff, words_eq_nil_iff, lower, String.toList_ofList]
  exact (lowers_lowerFrom false _).all_blank

theorem takeWhile_isIndent_lower (line : String) :
    (lower line).toList.takeWhile isIndent = line.toList.takeWhile isIndent := by
  rw [lower, String.toList_ofList]
  exact (lowers_lowerFrom false _).takeWhile_isIndent

/-! ## Line by line -/

theorem unbroken_lowerFrom {line : List Char} (unbroken : '\n' ∉ line) (afterCased : Bool) :
    '\n' ∉ lowerFrom afterCased line := by
  rwa [(lowers_lowerFrom afterCased line).mem_blank (by decide)]

/-- The blanks, one by one. -/
def blanks : List Char :=
  blankRanges.flatMap fun range =>
    (List.range' range.1 (range.2 + 1 - range.1)).map Char.ofNat

theorem mem_blanks {c : Char} (blank : isBlank c = true) : c ∈ blanks := by
  obtain ⟨range, listed, low, high⟩ := (Ranges.holds_eq_true_iff _ _).mp blank
  refine List.mem_flatMap.mpr ⟨range, listed, List.mem_map.mpr ⟨c.toNat, ?_, Char.ofNat_toNat c⟩⟩
  rw [List.mem_range'_1]
  omega

/-- The rule of the final sigma stops at a blank. -/
theorem unlettered_of_blank {c : Char} (blank : isBlank c = true) :
    isCaseIgnorable c = false ∧ isCased c = false ∧ lowerLetter c = c ∧ c ≠ 'Σ' ∧ c ≠ 'İ' := by
  have each : blanks.all (fun c => decide (isCaseIgnorable c = false ∧ isCased c = false ∧
      lowerLetter c = c ∧ c ≠ 'Σ' ∧ c ≠ 'İ')) = true := by
    decide +kernel
  exact of_decide_eq_true (List.all_eq_true.mp each c (mem_blanks blank))

/-- A word never goes on beyond a blank. -/
theorem continuesWord_append_blank {blank : Char} (isBlank : isBlank blank = true)
    (line rest : List Char) : continuesWord (line ++ blank :: rest) = continuesWord line := by
  induction line with
  | nil =>
    obtain ⟨unignored, uncased, _⟩ := unlettered_of_blank isBlank
    simp [continuesWord, unignored, uncased]
  | cons c line ih => rw [List.cons_append, continuesWord, continuesWord, ih]

/-- What stands before a blank and what stands behind it are lowered by themselves. -/
theorem lowerFrom_append_blank {blank : Char} (isBlank : isBlank blank = true) (afterCased : Bool)
    (line rest : List Char) : lowerFrom afterCased (line ++ blank :: rest) =
      lowerFrom afterCased line ++ blank :: lowerFrom false rest := by
  induction line generalizing afterCased with
  | nil =>
    obtain ⟨unignored, uncased, fixed, plain, undotted⟩ := unlettered_of_blank isBlank
    simp [lowerFrom, unignored, uncased, fixed, plain, undotted]
  | cons c line ih =>
    rw [List.cons_append, lowerFrom, lowerFrom, continuesWord_append_blank isBlank, ih]
    split
    · rfl
    · split <;> rfl

theorem lowerFrom_intercalate (lines : List (List Char)) :
    lowerFrom false (['\n'].intercalate lines) =
      ['\n'].intercalate (lines.map (lowerFrom false)) := by
  induction lines with
  | nil => rfl
  | cons line rest ih =>
    cases rest with
    | nil => simp
    | cons next others =>
      simp only [List.map_cons] at ih ⊢
      rw [List.intercalate_cons_cons, List.append_assoc, List.singleton_append,
        lowerFrom_append_blank (by decide), ih, List.intercalate_cons_cons, List.append_assoc,
        List.singleton_append]

theorem intercalate_linesFrom (line text : List Char) :
    ['\n'].intercalate (linesFrom line text) = line.reverse ++ text := by
  induction text generalizing line with
  | nil => simp [linesFrom]
  | cons c text ih =>
    rw [linesFrom]
    split
    · rename_i feed
      have first := ih []
      cases following : linesFrom [] text with
      | nil => exact absurd following (linesFrom_ne_nil [] text)
      | cons next others =>
        rw [following] at first
        rw [List.intercalate_cons_cons, first, feed]
        simp
    · rw [ih, List.reverse_cons, List.append_assoc, List.singleton_append]

theorem unbroken_linesFrom {line text : List Char} (unbroken : '\n' ∉ line) :
    ∀ found ∈ linesFrom line text, '\n' ∉ found := by
  induction text generalizing line with
  | nil => simpa [linesFrom] using unbroken
  | cons c text ih =>
    rw [linesFrom]
    split
    · rw [List.forall_mem_cons]
      exact ⟨by simpa using unbroken, ih List.not_mem_nil⟩
    · rename_i other
      refine ih fun member => ?_
      rcases List.mem_cons.mp member with feed | inside
      · exact other feed.symm
      · exact unbroken inside

theorem unbroken_lines {text line : String} (member : line ∈ lines text) : '\n' ∉ line.toList := by
  obtain ⟨letters, found, rfl⟩ := List.mem_map.mp member
  rw [String.toList_ofList]
  exact unbroken_linesFrom List.not_mem_nil letters found

theorem linesFrom_intercalate {lines : List (List Char)} (nonempty : lines ≠ [])
    (unbroken : ∀ line ∈ lines, '\n' ∉ line) :
    linesFrom [] (['\n'].intercalate lines) = lines := by
  induction lines with
  | nil => exact absurd rfl nonempty
  | cons line rest ih =>
    have line_unbroken := unbroken line (List.mem_cons_self ..)
    cases rest with
    | nil =>
      have taken := linesFrom_append line_unbroken [] []
      rw [List.append_nil, List.append_nil] at taken
      rw [List.intercalate_singleton, taken, linesFrom, List.reverse_reverse]
    | cons next others =>
      have later := ih (List.cons_ne_nil _ _)
        (fun other member => unbroken other (List.mem_cons_of_mem _ member))
      rw [List.intercalate_cons_cons, List.append_assoc, linesFrom_append line_unbroken,
        List.singleton_append, linesFrom, if_pos rfl, List.append_nil, List.reverse_reverse, later]

/-- Lines that are put together are read again as they were. -/
theorem lines_intercalate {given : List String} (nonempty : given ≠ [])
    (unbroken : ∀ line ∈ given, '\n' ∉ line.toList) :
    lines (String.intercalate "\n" given) = given := by
  have found : linesFrom [] (['\n'].intercalate (given.map String.toList)) =
      given.map String.toList := by
    refine linesFrom_intercalate (by simpa using nonempty) fun line listed => ?_
    obtain ⟨text, member, rfl⟩ := List.mem_map.mp listed
    exact unbroken text member
  rw [lines, String.toList_intercalate]
  refine (congrArg (List.map String.ofList) found).trans ?_
  simp [Function.comp_def]

/-- The lines of a lowered text are the lowered lines of the text. -/
theorem lines_lower (text : String) : lines (lower text) = (lines text).map lower := by
  have cut := intercalate_linesFrom [] text.toList
  have lowered : lowerFrom false text.toList =
      ['\n'].intercalate ((linesFrom [] text.toList).map (lowerFrom false)) := by
    rw [← lowerFrom_intercalate, cut]
    rfl
  have unbroken : ∀ line ∈ (linesFrom [] text.toList).map (lowerFrom false), '\n' ∉ line := by
    intro line member
    obtain ⟨letters, found, rfl⟩ := List.mem_map.mp member
    exact unbroken_lowerFrom (unbroken_linesFrom List.not_mem_nil letters found) false
  have nonempty : (linesFrom [] text.toList).map (lowerFrom false) ≠ [] := by
    simpa using linesFrom_ne_nil [] text.toList
  rw [lines, lower, String.toList_ofList, lowered, linesFrom_intercalate nonempty unbroken, lines,
    List.map_map, List.map_map]
  refine List.map_congr_left fun line _ => ?_
  simp [lower]

example : lines (lower "ΑΣ\nΑ") = ["ας", "α"] := by decide +kernel

end Turtle.Text
