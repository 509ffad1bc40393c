import Turtle.Text.Ranges

/-!
# Blanks, words and lines

A text is cut into lines at the line feeds alone, and a line into words at its blanks.  Blanks are
the separators of every script: a no-break space parts two words just as a tab does.
-/

set_option autoImplicit false

namespace Turtle.Text

/-- The blanks: the ASCII controls that separate, the space, and the separators of Unicode. -/
def blankRanges : Ranges :=
  [(0x09, 0x0D), (0x1C, 0x20), (0x85, 0x85), (0xA0, 0xA0), (0x1680, 0x1680), (0x2000, 0x200A),
   (0x2028, 0x2029), (0x202F, 0x202F), (0x205F, 0x205F), (0x3000, 0x3000)]

def isBlank (c : Char) : Bool :=
  blankRanges.holds c

/-- The word that is being read, if it has a letter yet; its letters are kept last first. -/
def pendingWord : List Char → List (List Char)
  | [] => []
  | letters => [letters.reverse]

/-- The words of a text, after the letters of a word that has begun, last letter first. -/
def wordsFrom (letters : List Char) : List Char → List (List Char)
  | [] => pendingWord letters
  | c :: rest =>
    if isBlank c then pendingWord letters ++ wordsFrom [] rest
    else wordsFrom (c :: letters) rest

/-- A piece without a blank is taken up whole into the word that has begun. -/
theorem wordsFrom_append {word : List Char} (visible : ∀ c ∈ word, isBlank c = false)
    (letters rest : List Char) :
    wordsFrom letters (word ++ rest) = wordsFrom (word.reverse ++ letters) rest := by
  induction word generalizing letters with
  | nil => rfl
  | cons c word ih =>
    have shown : isBlank c = false := visible c (List.mem_cons_self ..)
    have others : ∀ d ∈ word, isBlank d = false := fun d member =>
      visible d (List.mem_cons_of_mem _ member)
    rw [List.cons_append, wordsFrom, shown]
    simp only [Bool.false_eq_true, if_false]
    rw [ih others, List.reverse_cons, List.append_assoc, List.singleton_append]

theorem mem_pendingWord {letters word : List Char} :
    word ∈ pendingWord letters ↔ letters ≠ [] ∧ word = letters.reverse := by
  cases letters with
  | nil => simp [pendingWord]
  | cons c letters => simp [pendingWord]

theorem mem_wordsFrom {letters text word : List Char}
    (visible : ∀ c ∈ letters, isBlank c = false) (member : word ∈ wordsFrom letters text) :
    word ≠ [] ∧ ∀ c ∈ word, isBlank c = false := by
  induction text generalizing letters with
  | nil =>
    obtain ⟨nonempty, rfl⟩ := mem_pendingWord.mp member
    refine ⟨by simpa using nonempty, ?_⟩
    intro c inWord
    exact visible c (List.mem_reverse.mp inWord)
  | cons d text ih =>
    rw [wordsFrom] at member
    cases blank : isBlank d with
    | true =>
      rw [blank, if_pos rfl, List.mem_append] at member
      rcases member with pending | later
      · obtain ⟨nonempty, rfl⟩ := mem_pendingWord.mp pending
        refine ⟨by simpa using nonempty, ?_⟩
        intro c inWord
        exact visible c (List.mem_reverse.mp inWord)
      · exact ih (by simp) later
    | false =>
      rw [blank, if_neg Bool.false_ne_true] at member
      apply ih _ member
      intro c inLetters
      rcases List.mem_cons.mp inLetters with rfl | earlier
      · exact blank
      · exact visible c earlier

def words (text : String) : List String :=
  (wordsFrom [] text.toList).map String.ofList

/-- A text without the characters of a kind at either end. -/
def trimList (drop : Char → Bool) (text : List Char) : List Char :=
  ((text.dropWhile drop).reverse.dropWhile drop).reverse

def strip (text : String) : String :=
  String.ofList (trimList isBlank text.toList)

/-- The lines of a text, after the characters of a line that has begun, last character first. -/
def linesFrom (line : List Char) : List Char → List (List Char)
  | [] => [line.reverse]
  | c :: rest => if c = '\n' then line.reverse :: linesFrom [] rest else linesFrom (c :: line) rest

/-- The lines of a text, without their line feeds.  A text always has a last line, which may be
empty. -/
def lines (text : String) : List String :=
  (linesFrom [] text.toList).map String.ofList

/-- A piece without a line feed is taken up whole into the line that has begun. -/
theorem linesFrom_append {word : List Char} (unbroken : '\n' ∉ word) (line rest : List Char) :
    linesFrom line (word ++ rest) = linesFrom (word.reverse ++ line) rest := by
  induction word generalizing line with
  | nil => rfl
  | cons c word ih =>
    have first : c ≠ '\n' := fun same => unbroken (same ▸ List.mem_cons_self ..)
    have others : '\n' ∉ word := fun member => unbroken (List.mem_cons_of_mem _ member)
    rw [List.cons_append, linesFrom, if_neg first]
    rw [ih others, List.reverse_cons, List.append_assoc, List.singleton_append]

theorem linesFrom_ne_nil (line text : List Char) : linesFrom line text ≠ [] := by
  induction text generalizing line with
  | nil => simp [linesFrom]
  | cons c text ih =>
    rw [linesFrom]
    split
    · exact List.cons_ne_nil _ _
    · exact ih _

/-- A text in which every line ending of another convention is a line feed: a carriage return
counts as one, and so does a carriage return with the line feed after it. -/
def withLineFeeds : List Char → List Char
  | [] => []
  | '\r' :: '\n' :: rest => '\n' :: withLineFeeds rest
  | c :: rest => (if c = '\r' then '\n' else c) :: withLineFeeds rest

example : words " fd\t10\u00a0rt 90 " = ["fd", "10", "rt", "90"] := by decide +kernel

example : lines "a\n\nb\n" = ["a", "", "b", ""] := by decide +kernel

end Turtle.Text
