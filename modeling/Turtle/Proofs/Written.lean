import Turtle.Proofs.Grammar
import Turtle.Proofs.LoweredLines

/-!
# Programs as text

A program is written with one command a line, each command before those of its body, and two spaces
of indentation for every block around it.  Read line by line the text gives back the words of each
command and its depth.
-/

set_option autoImplicit false

namespace Turtle

namespace Text

variable {word text letters : List Char} {c : Char}

theorem pendingWord_reverse (nonempty : word ≠ []) : pendingWord word.reverse = [word] := by
  cases reversed : word.reverse with
  | nil => exact absurd (List.reverse_eq_nil_iff.mp reversed) nonempty
  | cons c letters =>
    rw [pendingWord, ← reversed, List.reverse_reverse]
    exact List.cons_ne_nil c letters

theorem wordsFrom_spaces (count : Nat) (rest : List Char) :
    wordsFrom [] (List.replicate count ' ' ++ rest) = wordsFrom [] rest := by
  induction count with
  | zero => rfl
  | succ count ih =>
    rw [List.replicate_succ, List.cons_append, wordsFrom, if_pos (by decide), ih]
    rfl

theorem wordsFrom_intercalate {words : List (List Char)} (nonempty : ∀ word ∈ words, word ≠ [])
    (visible : ∀ word ∈ words, ∀ c ∈ word, isBlank c = false) :
    wordsFrom [] ([' '].intercalate words) = words := by
  induction words with
  | nil => rfl
  | cons word rest ih =>
    have word_nonempty := nonempty word (List.mem_cons_self ..)
    have word_visible := visible word (List.mem_cons_self ..)
    have later := ih (fun other member => nonempty other (List.mem_cons_of_mem _ member))
      (fun other member => visible other (List.mem_cons_of_mem _ member))
    cases rest with
    | nil =>
      have taken := wordsFrom_append word_visible [] []
      rw [List.append_nil, List.append_nil] at taken
      rw [List.intercalate_singleton, taken, wordsFrom, pendingWord_reverse word_nonempty]
    | cons next others =>
      rw [List.intercalate_cons_cons, List.append_assoc, wordsFrom_append word_visible,
        List.singleton_append, wordsFrom, if_pos (by decide), List.append_nil,
        pendingWord_reverse word_nonempty, later, List.singleton_append]

theorem mem_of_mem_wordsFrom (member : word ∈ wordsFrom letters text) (inside : c ∈ word) :
    c ∈ letters ∨ c ∈ text := by
  induction text generalizing letters with
  | nil =>
    obtain ⟨_, rfl⟩ := mem_pendingWord.mp member
    exact Or.inl (List.mem_reverse.mp inside)
  | cons d text ih =>
    rw [wordsFrom] at member
    split at member
    · rcases List.mem_append.mp member with pending | later
      · obtain ⟨_, rfl⟩ := mem_pendingWord.mp pending
        exact Or.inl (List.mem_reverse.mp inside)
      · rcases ih later with earlier | found
        · exact absurd earlier List.not_mem_nil
        · exact Or.inr (List.mem_cons_of_mem _ found)
    · rcases ih member with earlier | found
      · rcases List.mem_cons.mp earlier with rfl | before
        · exact Or.inr (List.mem_cons_self ..)
        · exact Or.inl before
      · exact Or.inr (List.mem_cons_of_mem _ found)

theorem mem_of_mem_linesFrom {line : List Char} (member : line ∈ linesFrom letters text)
    (inside : c ∈ line) : c ∈ letters ∨ c ∈ text := by
  induction text generalizing letters with
  | nil =>
    obtain rfl := List.mem_singleton.mp member
    exact Or.inl (List.mem_reverse.mp inside)
  | cons d text ih =>
    rw [linesFrom] at member
    split at member
    · rcases List.mem_cons.mp member with rfl | later
      · exact Or.inl (List.mem_reverse.mp inside)
      · rcases ih later with earlier | found
        · exact absurd earlier List.not_mem_nil
        · exact Or.inr (List.mem_cons_of_mem _ found)
    · rcases ih member with earlier | found
      · rcases List.mem_cons.mp earlier with rfl | before
        · exact Or.inr (List.mem_cons_self ..)
        · exact Or.inl before
      · exact Or.inr (List.mem_cons_of_mem _ found)

theorem mem_intercalate {separator : List Char} {pieces : List (List Char)}
    (member : c ∈ separator.intercalate pieces) :
    c ∈ separator ∨ ∃ piece ∈ pieces, c ∈ piece := by
  induction pieces with
  | nil => exact absurd member List.not_mem_nil
  | cons piece rest ih =>
    cases rest with
    | nil =>
      rw [List.intercalate_singleton] at member
      exact Or.inr ⟨piece, List.mem_cons_self .., member⟩
    | cons next others =>
      rw [List.intercalate_cons_cons, List.append_assoc, List.mem_append, List.mem_append] at member
      rcases member with here | between | later
      · exact Or.inr ⟨piece, List.mem_cons_self .., here⟩
      · exact Or.inl between
      · rcases ih later with between | ⟨other, listed, held⟩
        · exact Or.inl between
        · exact Or.inr ⟨other, List.mem_cons_of_mem _ listed, held⟩

/-- The words of a lowered line are tokens. -/
theorem isToken_of_mem_words {line word : String} (lowered : ∀ c ∈ line.toList, Lowered c)
    (member : word ∈ words line) : IsToken word := by
  obtain ⟨letters, found, rfl⟩ := List.mem_map.mp member
  obtain ⟨nonempty, visible⟩ := mem_wordsFrom (fun _ inside => absurd inside List.not_mem_nil) found
  refine ⟨?_, by simpa using visible, lower_eq_self_iff.mpr ?_⟩
  · intro empty
    exact nonempty (by simpa using congrArg String.toList empty)
  · intro c inside
    rw [String.toList_ofList] at inside
    rcases mem_of_mem_wordsFrom found inside with earlier | held
    · exact absurd earlier List.not_mem_nil
    · exact lowered c held

end Text

theorem CodeLine.tokens_of_ofLines {file : String} {number : Nat} {lines : List String}
    {code : List CodeLine} (lowered : ∀ line ∈ lines, ∀ c ∈ line.toList, Text.Lowered c)
    (read : CodeLine.ofLines file number lines = .ok code) :
    ∀ line ∈ code, ∀ word ∈ line.keyword :: line.rest, IsToken word := by
  induction lines generalizing number code with
  | nil =>
    obtain rfl := Except.ok.inj read
    exact fun _ member => absurd member List.not_mem_nil
  | cons line others ih =>
    rw [CodeLine.ofLines] at read
    cases indented : indentation file number line with
    | error fault => simp [indented, bind, Except.bind] at read
    | ok indent =>
      cases following : CodeLine.ofLines file (number + 1) others with
      | error fault => simp [indented, following, bind, Except.bind] at read
      | ok later =>
        have rest :=
          ih (fun other member => lowered other (List.mem_cons_of_mem _ member)) following
        simp only [indented, following, bind, Except.bind, pure, Except.pure] at read
        split at read
        · obtain rfl := Except.ok.inj read
          exact rest
        · rename_i keyword words split
          obtain rfl := Except.ok.inj read
          intro other member
          rcases List.mem_cons.mp member with rfl | after
          · intro word inside
            exact Text.isToken_of_mem_words (lowered line (List.mem_cons_self ..)) (split ▸ inside)
          · exact rest other after

theorem CodeLine.tokens_of_ofText {file source : String} {code : List CodeLine}
    (read : CodeLine.ofText file (Text.lower source) = .ok code) :
    ∀ line ∈ code, ∀ word ∈ line.keyword :: line.rest, IsToken word := by
  refine CodeLine.tokens_of_ofLines ?_ read
  intro line member c inside
  obtain ⟨letters, found, rfl⟩ := List.mem_map.mp member
  rw [String.toList_ofList] at inside
  rcases Text.mem_of_mem_linesFrom found inside with earlier | held
  · exact absurd earlier List.not_mem_nil
  · rw [Text.lower, String.toList_ofList] at held
    exact Text.lowered_of_mem_lowerFrom held

/-- Every program that is read from a text is one that a text can write. -/
theorem representable_of_parse {file source : String} {program : List Command}
    (read : parse file source = .ok program) : Command.Representable program := by
  unfold parse at read
  cases coded : CodeLine.ofText file (Text.lower source) with
  | error fault => simp [coded, bind, Except.bind] at read
  | ok code =>
    cases followed : Reading.start.lines file (statements source) code with
    | error fault => simp [coded, followed, bind, Except.bind] at read
    | ok reading =>
      simp only [coded, followed, bind, Except.bind, pure, Except.pure] at read
      obtain rfl := Except.ok.inj read
      have start : Reading.start.Fits :=
        ⟨trivial, Command.level_nil, fun _ ends => absurd ends (by simp [Reading.start])⟩
      exact (start.lines (CodeLine.tokens_of_ofText coded) followed).finish

namespace Command

/-- The words of the line of a command: the first one and the others. -/
def opening : Command → String × List String
  | leaf op args _ => (op, args)
  | loop count _ _ => (loopKeyword, [toString count])
  | define name params _ _ => (definitionKeyword, name :: params)
  | stray shown? => (shown?.getD "", [])

def spaces (depth : Nat) : String :=
  String.ofList (List.replicate (2 * depth) ' ')

/-- The line of a command at a depth. -/
def writtenLine (entry : Nat × Command) : String :=
  spaces entry.1 ++ String.intercalate " " (entry.2.opening.1 :: entry.2.opening.2)

/-- The text of a program. -/
def written (program : List Command) : String :=
  String.intercalate "\n" ((outline program).map writtenLine)

/-- The lines of code that the lines of commands are, numbered from `number` on. -/
def codeOf : (number : Nat) → List (Nat × Command) → List CodeLine
  | _, [] => []
  | number, (depth, command) :: rest =>
    ⟨spaces depth, command.opening.1, command.opening.2, number⟩ :: codeOf (number + 1) rest

theorem codeOf_append (number : Nat) (first second : List (Nat × Command)) :
    codeOf number (first ++ second) =
      codeOf number first ++ codeOf (number + first.length) second := by
  induction first generalizing number with
  | nil => rfl
  | cons entry first ih =>
    have shift : number + (first.length + 1) = number + 1 + first.length := by omega
    simp only [List.cons_append, codeOf, ih, List.length_cons, shift]

theorem toList_writtenLine (entry : Nat × Command) :
    (writtenLine entry).toList = List.replicate (2 * entry.1) ' ' ++
      [' '].intercalate ((entry.2.opening.1 :: entry.2.opening.2).map String.toList) := by
  rw [writtenLine, spaces, String.toList_append, String.toList_ofList, String.toList_intercalate]
  rfl

section Line

variable {entry : Nat × Command}
  (tokens : ∀ word ∈ entry.2.opening.1 :: entry.2.opening.2, IsToken word)
include tokens

theorem words_writtenLine :
    Text.words (writtenLine entry) = entry.2.opening.1 :: entry.2.opening.2 := by
  generalize same : entry.2.opening.1 :: entry.2.opening.2 = words at tokens
  have found : Text.wordsFrom [] (writtenLine entry).toList = words.map String.toList := by
    rw [toList_writtenLine, same, Text.wordsFrom_spaces]
    apply Text.wordsFrom_intercalate
    · rintro _ member empty
      obtain ⟨word, inside, rfl⟩ := List.mem_map.mp member
      exact (tokens word inside).nonempty (String.toList_eq_nil_iff.mp empty)
    · rintro _ member
      obtain ⟨word, inside, rfl⟩ := List.mem_map.mp member
      exact (tokens word inside).visible
  rw [Text.words, found, List.map_map]
  refine (List.map_congr_left fun word _ => ?_).trans (List.map_id _)
  exact String.ofList_toList

theorem indentation_writtenLine (file : String) (number : Int) :
    indentation file number (writtenLine entry) = .ok (spaces entry.1) := by
  have first := tokens entry.2.opening.1 (List.mem_cons_self ..)
  have front : (writtenLine entry).toList.takeWhile isIndent =
      List.replicate (2 * entry.1) ' ' := by
    have indents : ∀ c ∈ List.replicate (2 * entry.1) ' ', isIndent c = true := by
      intro c member
      rw [List.eq_of_mem_replicate member]
      rfl
    rw [toList_writtenLine, List.takeWhile_append_of_pos indents, List.map_cons]
    cases letters : entry.2.opening.1.toList with
    | nil => exact absurd (String.toList_eq_nil_iff.mp letters) first.nonempty
    | cons c rest =>
      have visible := first.visible c (letters ▸ List.mem_cons_self ..)
      have unindented : isIndent c = false := by
        rw [Bool.eq_false_iff]
        intro indents
        simp only [isIndent, Bool.or_eq_true, decide_eq_true_eq] at indents
        rcases indents with rfl | rfl <;> exact absurd visible (by decide)
      cases entry.2.opening.2 <;> simp [List.intercalate_cons_cons, unindented]
  have untabbed : (List.replicate (2 * entry.1) ' ').contains '\t' = false := by
    simp
  rw [indentation, indentation?, front, untabbed]
  simp [spaces]

/-- The characters of a line are spaces, or they are visible and need no lowering. -/
theorem mem_writtenLine {c : Char} (member : c ∈ (writtenLine entry).toList) :
    c = ' ' ∨ Text.isBlank c = false ∧ Text.Lowered c := by
  rw [toList_writtenLine, List.mem_append] at member
  rcases member with space | inside
  · exact Or.inl (List.eq_of_mem_replicate space)
  · rcases Text.mem_intercalate inside with space | ⟨letters, held, found⟩
    · exact Or.inl (List.mem_singleton.mp space)
    · obtain ⟨word, listed, rfl⟩ := List.mem_map.mp held
      have token := tokens word listed
      exact Or.inr ⟨token.visible c found, Text.lower_eq_self_iff.mp token.lowered c found⟩

theorem unbroken_writtenLine : '\n' ∉ (writtenLine entry).toList := by
  intro member
  rcases mem_writtenLine tokens member with space | ⟨visible, _⟩
  · exact absurd space (by decide)
  · exact absurd visible (by decide)

end Line

section Program

variable {entries : List (Nat × Command)}
  (tokens : ∀ entry ∈ entries, ∀ word ∈ entry.2.opening.1 :: entry.2.opening.2, IsToken word)
include tokens

theorem ofLines_writtenLines (file : String) (number : Nat) :
    CodeLine.ofLines file number (entries.map writtenLine) = .ok (codeOf number entries) := by
  induction entries generalizing number with
  | nil => rfl
  | cons entry rest ih =>
    have here := tokens entry (List.mem_cons_self ..)
    have later := ih (fun other member => tokens other (List.mem_cons_of_mem _ member)) (number + 1)
    rw [List.map_cons, CodeLine.ofLines, indentation_writtenLine here, later,
      words_writtenLine here]
    rfl

theorem lower_writtenLines :
    Text.lower (String.intercalate "\n" (entries.map writtenLine)) =
      String.intercalate "\n" (entries.map writtenLine) := by
  rw [Text.lower_eq_self_iff]
  intro c member
  rw [String.toList_intercalate] at member
  rcases Text.mem_intercalate member with feed | ⟨_, listed, held⟩
  · rw [List.mem_singleton.mp feed]
    decide +kernel
  · rw [List.map_map] at listed
    obtain ⟨entry, found, rfl⟩ := List.mem_map.mp listed
    rcases mem_writtenLine (tokens entry found) held with rfl | ⟨_, lowered⟩
    · decide +kernel
    · exact lowered

theorem ofText_writtenLines (file : String) :
    CodeLine.ofText file (String.intercalate "\n" (entries.map writtenLine)) =
      .ok (codeOf 1 entries) := by
  cases entries with
  | nil => rfl
  | cons entry rest =>
    have unbroken : ∀ line ∈ (entry :: rest).map writtenLine, '\n' ∉ line.toList := by
      intro line listed
      obtain ⟨other, found, rfl⟩ := List.mem_map.mp listed
      exact unbroken_writtenLine (tokens other found)
    have cut := Text.lines_intercalate (by simp) unbroken
    rw [CodeLine.ofText, cut]
    exact ofLines_writtenLines tokens file 1

end Program

/-! ## The lines of a program -/

theorem outlineAt_eq (depth : Nat) (command : Command) :
    outlineAt depth command = (depth, command) :: outlineFrom (depth + 1) command.body := by
  cases command <;> simp [outlineAt, body, outlineFrom]

theorem Fits.level_body {inside : Bool} {command : Command} (fits : command.Fits inside) :
    ∃ within, Level within command.body := by
  cases fits with
  | leaf => exact ⟨false, level_nil⟩
  | loop _ chain fits => exact ⟨inside, chain, fits⟩
  | define _ chain fits => exact ⟨true, chain, fits⟩

theorem fits_of_mem_outlineFrom {inside : Bool} {commands : List Command} {depth : Nat}
    {entry : Nat × Command} (fits : ∀ command ∈ commands, command.Fits inside)
    (listed : entry ∈ outlineFrom depth commands) : ∃ within, entry.2.Fits within := by
  induction commands using induction_on_bodies generalizing inside depth with
  | nil => exact absurd listed List.not_mem_nil
  | cons command rest ih_body ih_rest =>
    have here := fits command (List.mem_cons_self ..)
    rw [outlineFrom, outlineAt_eq, List.cons_append, List.mem_cons, List.mem_append] at listed
    rcases listed with rfl | below | later
    · exact ⟨inside, here⟩
    · obtain ⟨within, level⟩ := here.level_body
      exact ih_body level.fits below
    · exact ih_rest (fun other member => fits other (List.mem_cons_of_mem _ member)) later

theorem isToken_toString {count : Int} (positive : 0 ≤ count) : IsToken (toString count) := by
  obtain ⟨n, rfl⟩ := Int.eq_ofNat_of_zero_le positive
  have digits : (toString (n : Int)).toList = Nat.toDigits 10 n := by
    have same : toString (n : Int) = toString n := rfl
    rw [same, Nat.toString_eq_ofList_toDigits, String.toList_ofList]
  refine ⟨?_, ?_, Text.lower_eq_self_iff.mpr ?_⟩
  · intro empty
    rw [empty] at digits
    exact Nat.toDigits_ne_nil digits.symm
  · intro c member
    exact (Number.plain_of_mem_toDigits (digits ▸ member)).visible
  · intro c member
    exact (Number.plain_of_mem_toDigits (digits ▸ member)).lowered

theorem Fits.tokens {inside : Bool} {command : Command} (fits : command.Fits inside) :
    ∀ word ∈ command.opening.1 :: command.opening.2, IsToken word := by
  -- Not by deciding it for every character of the keyword: characters are finitely many.
  have visible : definitionKeyword.toList.any Text.isBlank = false ∧
      loopKeyword.toList.any Text.isBlank = false := by
    decide
  have definition : IsToken definitionKeyword :=
    ⟨by decide, by simpa using visible.1, by decide +kernel⟩
  have loop : IsToken loopKeyword := ⟨by decide, by simpa using visible.2, by decide +kernel⟩
  cases fits with
  | leaf _ _ tokens => exact tokens
  | loop isCount =>
    intro word member
    rcases List.mem_cons.mp member with rfl | count
    · exact loop
    · rw [List.mem_singleton.mp count]
      exact isToken_toString isCount.nonneg
  | define tokens =>
    intro word member
    rcases List.mem_cons.mp member with rfl | header
    · exact definition
    · exact tokens word header

/-- The text of a program is read as the lines of its commands. -/
theorem ofText_written {program : List Command} (represented : Representable program)
    (file : String) :
    CodeLine.ofText file (Text.lower (written program)) = .ok (codeOf 1 (outline program)) := by
  have tokens : ∀ entry ∈ outline program,
      ∀ word ∈ entry.2.opening.1 :: entry.2.opening.2, IsToken word := by
    intro entry listed
    obtain ⟨within, fits⟩ := fits_of_mem_outlineFrom represented.fits listed
    exact fits.tokens
  rw [written, lower_writtenLines tokens, ofText_writtenLines tokens]

end Command

end Turtle
