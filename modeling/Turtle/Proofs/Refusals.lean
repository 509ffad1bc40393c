import Turtle.Proofs.RoundTrip

/-!
# Refused texts

A text is refused for its first line that mixes tabs and spaces in front, wherever that is.  If no
line does, it is refused for the first line that offends: one that opens a definition inside of
another one, a definition without a name, or a loop without a count that can be read.  Which blocks
are open at a line is a matter of the lines before it alone, and so nothing that comes after the
first offence can change the refusal.
-/

set_option autoImplicit false

namespace Turtle

namespace Text

/-- The words of a line in lower case. -/
def tokens (line : String) : List String :=
  words (lower line)

/-- The tabs and spaces in front of a line. -/
def front (line : String) : List Char :=
  line.toList.takeWhile isIndent

/-- There are both tabs and spaces in front of a line. -/
def IsMixed (line : String) : Prop :=
  ' ' ∈ front line ∧ '\t' ∈ front line

end Text

/-- A block as later lines see it: its keyword, and the width of the indentation of its line. -/
structure Opening where
  keyword : String
  width : Nat
deriving DecidableEq

namespace Opening

/-- The open blocks after a line, innermost first.  A line that begins with a keyword opens a block;
any other line of code closes the innermost block if it is not indented further. -/
def next (blocks : List Opening) (line : String) : List Opening :=
  match Text.tokens line with
  | [] => blocks
  | keyword :: _ =>
    if keyword = definitionKeyword ∨ keyword = loopKeyword then
      ⟨keyword, (Text.front line).length⟩ :: blocks
    else
      match blocks with
      | [] => []
      | block :: outer => if (Text.front line).length ≤ block.width then outer else block :: outer

/-- The open blocks after some lines. -/
def after (blocks : List Opening) (lines : List String) : List Opening :=
  lines.foldl next blocks

theorem after_nil (blocks : List Opening) : after blocks [] = blocks := rfl

theorem after_cons (blocks : List Opening) (line : String) (rest : List String) :
    after blocks (line :: rest) = after (next blocks line) rest := by
  rw [after, List.foldl_cons, after]

end Opening

/-- A line with these tokens offends where these blocks are open. -/
inductive Offends (blocks : List Opening) : List String → ParseDefect → Prop where
  | nested {rest : List String} : (∃ block ∈ blocks, block.keyword = definitionKeyword) →
    Offends blocks (definitionKeyword :: rest) .nestedDefinition
  | nameless : (∀ block ∈ blocks, block.keyword ≠ definitionKeyword) →
    Offends blocks [definitionKeyword] .missingName
  | uncounted : Offends blocks [loopKeyword] .missingCount
  | unreadable {word : String} {rest : List String} : Number.readInteger word = none →
    Offends blocks (loopKeyword :: word :: rest) (.badCount word)
  | negative {word : String} {count : Int} {rest : List String} :
    Number.readInteger word = some count → count < 0 →
      Offends blocks (loopKeyword :: word :: rest) .negativeCount

/-- The first of some lines that offends comes after these lines, where these blocks are open at the
beginning. -/
structure FirstOffence (blocks : List Opening) (given before : List String)
    (defect : ParseDefect) : Prop where
  sound : ∀ earlier line later, before = earlier ++ line :: later →
    ∀ other, ¬Offends (Opening.after blocks earlier) (Text.tokens line) other
  offends : ∃ line later, given = before ++ line :: later ∧
    Offends (Opening.after blocks before) (Text.tokens line) defect

/-- The line that some lines are refused for comes after these lines. -/
inductive FirstDefect (given before : List String) : ParseDefect → Prop where
  | mixed (line : String) (later : List String) : given = before ++ line :: later →
    Text.IsMixed line → (∀ earlier ∈ before, ¬Text.IsMixed earlier) →
      FirstDefect given before .mixedIndentation
  | offence {defect : ParseDefect} : (∀ line ∈ given, ¬Text.IsMixed line) →
    FirstOffence [] given before defect → FirstDefect given before defect

theorem keywords_differ : loopKeyword ≠ definitionKeyword := by decide

/-- A line that defines offends because it is inside of a definition, or because it has no name. -/
theorem Offends.of_definition {blocks : List Opening} {rest : List String} {defect : ParseDefect}
    (offends : Offends blocks (definitionKeyword :: rest) defect) :
    (∃ block ∈ blocks, block.keyword = definitionKeyword) ∧ defect = .nestedDefinition ∨
      (∀ block ∈ blocks, block.keyword ≠ definitionKeyword) ∧ rest = [] ∧
        defect = .missingName := by
  generalize same : definitionKeyword :: rest = tokens at offends
  cases offends with
  | nested nested => exact Or.inl ⟨nested, rfl⟩
  | nameless unopened => exact Or.inr ⟨unopened, (List.cons.inj same).2, rfl⟩
  | uncounted => exact absurd (List.cons.inj same).1.symm keywords_differ
  | unreadable => exact absurd (List.cons.inj same).1.symm keywords_differ
  | negative => exact absurd (List.cons.inj same).1.symm keywords_differ

/-! ## Indentation -/

namespace Text

theorem front_lower (line : String) : front (lower line) = front line :=
  takeWhile_isIndent_lower line

theorem isMixed_lower {line : String} : IsMixed (lower line) ↔ IsMixed line := by
  rw [IsMixed, front_lower, IsMixed]

end Text

theorem indentation_of_mixed {line : String} (mixed : Text.IsMixed line) (file : String)
    (number : Int) : indentation file number line = .error ⟨.mixedIndentation, file, number⟩ := by
  obtain ⟨space, tab⟩ := mixed
  unfold Text.front at space tab
  simp [indentation, indentation?, space, tab]

theorem indentation_of_unmixed {line : String} (unmixed : ¬Text.IsMixed line) (file : String)
    (number : Int) : indentation file number line = .ok (String.ofList (Text.front line)) := by
  have one : ¬(' ' ∈ line.toList.takeWhile isIndent ∧ '\t' ∈ line.toList.takeWhile isIndent) :=
    unmixed
  simp [indentation, indentation?, Text.front, one]

namespace CodeLine

variable {file : String} {number : Nat} {fault : ParseFault}

/-- Lines are refused for the first one that is mixed. -/
theorem ofLines_eq_error_iff {given : List String} :
    ofLines file number (given.map Text.lower) = .error fault ↔
      ∃ before line later, given = before ++ line :: later ∧ Text.IsMixed line ∧
        (∀ earlier ∈ before, ¬Text.IsMixed earlier) ∧
        fault = ⟨.mixedIndentation, file, (number + before.length : Nat)⟩ := by
  induction given generalizing number with
  | nil => simp [ofLines]
  | cons line others ih =>
    rw [List.map_cons, ofLines]
    by_cases mixed : Text.IsMixed line
    · rw [indentation_of_mixed (Text.isMixed_lower.mpr mixed)]
      constructor
      · rintro ⟨⟩
        exact ⟨[], line, others, rfl, mixed, fun _ member => absurd member List.not_mem_nil, rfl⟩
      · rintro ⟨before, other, later, split, _, unmixed, rfl⟩
        cases before with
        | nil => rfl
        | cons first before =>
          obtain ⟨rfl, _⟩ := List.cons.inj split
          exact absurd mixed (unmixed line (List.mem_cons_self ..))
    · rw [indentation_of_unmixed (Text.isMixed_lower.not.mpr mixed)]
      have shift : ∀ before : List String,
          number + 1 + before.length = number + (line :: before).length := by
        intro before
        rw [List.length_cons]
        omega
      trans ofLines file (number + 1) (others.map Text.lower) = .error fault
      · cases ofLines file (number + 1) (others.map Text.lower) with
        | error found => exact Iff.rfl
        | ok code =>
          cases Text.words (Text.lower line) <;> simp [bind, Except.bind, pure, Except.pure]
      rw [ih]
      constructor
      · rintro ⟨before, other, later, rfl, found, unmixed, rfl⟩
        exact ⟨line :: before, other, later, rfl, found,
          List.forall_mem_cons.mpr ⟨mixed, unmixed⟩, by rw [shift]⟩
      · rintro ⟨before, other, later, split, found, unmixed, rfl⟩
        cases before with
        | nil =>
          obtain ⟨rfl, _⟩ := List.cons.inj split
          exact absurd found mixed
        | cons first before =>
          obtain ⟨rfl, rfl⟩ := List.cons.inj split
          exact ⟨before, other, later, rfl, found, (List.forall_mem_cons.mp unmixed).2,
            by rw [shift]⟩

theorem unmixed_of_ofLines {given : List String} {code : List CodeLine}
    (coded : ofLines file number (given.map Text.lower) = .ok code) :
    ∀ line ∈ given, ¬Text.IsMixed line := by
  induction given generalizing number code with
  | nil => exact fun _ member => absurd member List.not_mem_nil
  | cons line others ih =>
    rw [List.map_cons, ofLines] at coded
    by_cases mixed : Text.IsMixed (Text.lower line)
    · simp [indentation_of_mixed mixed, bind, Except.bind] at coded
    · rw [indentation_of_unmixed mixed] at coded
      cases following : ofLines file (number + 1) (others.map Text.lower) with
      | error found => simp [following, bind, Except.bind] at coded
      | ok later =>
        exact List.forall_mem_cons.mpr ⟨Text.isMixed_lower.not.mp mixed, ih following⟩

end CodeLine

/-! ## Offences -/

theorem firstOffence_nil {blocks : List Opening} {before : List String} {defect : ParseDefect} :
    ¬FirstOffence blocks [] before defect := by
  rintro ⟨_, line, later, split, _⟩
  simp at split

theorem firstOffence_cons {blocks : List Opening} {line : String} {rest before : List String}
    {defect : ParseDefect} :
    FirstOffence blocks (line :: rest) before defect ↔
      before = [] ∧ Offends blocks (Text.tokens line) defect ∨
        ∃ others, before = line :: others ∧
          (∀ other, ¬Offends blocks (Text.tokens line) other) ∧
          FirstOffence (Opening.next blocks line) rest others defect := by
  constructor
  · rintro ⟨sound, found, later, split, offends⟩
    cases before with
    | nil =>
      obtain ⟨rfl, _⟩ := List.cons.inj split
      rw [Opening.after_nil] at offends
      exact Or.inl ⟨rfl, offends⟩
    | cons first others =>
      obtain ⟨rfl, rfl⟩ := List.cons.inj split
      have clear := sound [] line others rfl
      rw [Opening.after_nil] at clear
      rw [Opening.after_cons] at offends
      refine Or.inr ⟨others, rfl, clear, ?_, found, later, rfl, offends⟩
      intro earlier other following same
      have sound' := sound (line :: earlier) other following (congrArg (line :: ·) same)
      rwa [Opening.after_cons] at sound'
  · rintro (⟨rfl, offends⟩ | ⟨others, rfl, clear, sound, found, later, rfl, offends⟩)
    · refine ⟨fun earlier other following split => absurd split (by simp), line, rest, rfl, ?_⟩
      rwa [Opening.after_nil]
    · refine ⟨?_, found, later, rfl, by rwa [Opening.after_cons]⟩
      intro earlier other following split
      cases earlier with
      | nil =>
        obtain ⟨rfl, _⟩ := List.cons.inj split
        rwa [Opening.after_nil]
      | cons first earlier =>
        obtain ⟨rfl, same⟩ := List.cons.inj split
        rw [Opening.after_cons]
        exact sound earlier other following same

/-- Lines are refused for the same line when one that does not offend stands before them all. -/
theorem exists_firstOffence_cons {file : String} {number : Nat} {fault : ParseFault}
    {blocks : List Opening} {line : String} {rest : List String}
    (clear : ∀ other, ¬Offends blocks (Text.tokens line) other) :
    (∃ before, FirstOffence blocks (line :: rest) before fault.defect ∧
        fault = ⟨fault.defect, file, (number + before.length : Nat)⟩) ↔
      ∃ before, FirstOffence (Opening.next blocks line) rest before fault.defect ∧
        fault = ⟨fault.defect, file, (number + 1 + before.length : Nat)⟩ := by
  have shift : ∀ before : List String,
      number + 1 + before.length = number + (line :: before).length := by
    intro before
    rw [List.length_cons]
    omega
  simp only [firstOffence_cons]
  constructor
  · rintro ⟨before, ⟨_, offends⟩ | ⟨others, rfl, _, first⟩, placed⟩
    · exact absurd offends (clear _)
    · exact ⟨others, first, by rw [shift]; exact placed⟩
  · rintro ⟨before, first, placed⟩
    exact ⟨line :: before, Or.inr ⟨before, rfl, clear, first⟩, by rw [← shift]; exact placed⟩

namespace Reading

variable {file : String} {statements : Array String} {reading : Reading} {fault : ParseFault}

/-- The open blocks as later lines see them. -/
def openings (reading : Reading) : List Opening :=
  reading.blocks.map fun block => ⟨block.head.keyword, block.indent⟩

theorem isOpen_iff {keyword : String} :
    isOpen keyword reading.keywords = true ↔
      ∃ block ∈ reading.openings, block.keyword = keyword := by
  simp [isOpen, keywords, openings]

theorem count?_eq_error_iff {blocks : List Opening} {words : List String} {defect : ParseDefect} :
    count? words = .error defect ↔ Offends blocks (loopKeyword :: words) defect := by
  constructor
  · intro refused
    unfold count? at refused
    split at refused
    · obtain rfl := Except.error.inj refused
      exact .uncounted
    · split at refused
      · rename_i none
        obtain rfl := Except.error.inj refused
        exact .unreadable none
      · rename_i count read
        split at refused
        · rename_i negative
          obtain rfl := Except.error.inj refused
          exact .negative read negative
        · simp at refused
  · intro offends
    generalize same : loopKeyword :: words = tokens at offends
    cases offends with
    | nested => exact absurd (List.cons.inj same).1 keywords_differ
    | nameless => exact absurd (List.cons.inj same).1 keywords_differ
    | uncounted =>
      obtain ⟨_, rfl⟩ := List.cons.inj same
      rfl
    | unreadable none =>
      obtain ⟨_, rfl⟩ := List.cons.inj same
      simp only [count?, none]
    | negative read negative =>
      obtain ⟨_, rfl⟩ := List.cons.inj same
      simp only [count?, read, if_pos negative]

/-- A line of code is refused exactly if it offends among the blocks that are open. -/
theorem head?_eq_error_iff {line : CodeLine} {defect : ParseDefect} :
    reading.head? line = .error defect ↔
      Offends reading.openings (line.keyword :: line.rest) defect := by
  obtain ⟨indent, keyword, rest, number⟩ := line
  rw [head?]
  dsimp only
  by_cases defines : keyword = definitionKeyword
  · subst defines
    rw [if_pos rfl]
    by_cases opened : isOpen definitionKeyword reading.keywords = true
    · have nested := isOpen_iff.mp opened
      rw [if_pos opened]
      constructor
      · rintro ⟨⟩
        exact .nested nested
      · intro offends
        rcases offends.of_definition with ⟨_, rfl⟩ | ⟨unopened, _⟩
        · rfl
        · obtain ⟨block, listed, same⟩ := nested
          exact absurd same (unopened block listed)
    · have unopened : ∀ block ∈ reading.openings, block.keyword ≠ definitionKeyword :=
        fun block listed same => opened (isOpen_iff.mpr ⟨block, listed, same⟩)
      rw [if_neg opened]
      cases rest with
      | nil =>
        constructor
        · rintro ⟨⟩
          exact .nameless unopened
        · intro offends
          rcases offends.of_definition with ⟨nested, _⟩ | ⟨_, _, rfl⟩
          · exact absurd (isOpen_iff.mpr nested) opened
          · rfl
      | cons name params =>
        constructor
        · intro refused
          simp at refused
        · intro offends
          rcases offends.of_definition with ⟨nested, _⟩ | ⟨_, named, _⟩
          · exact absurd (isOpen_iff.mpr nested) opened
          · exact absurd named (List.cons_ne_nil _ _)
  · rw [if_neg defines]
    by_cases loops : keyword = loopKeyword
    · subst loops
      rw [if_pos rfl, ← count?_eq_error_iff]
      cases count? rest <;> simp [Except.map]
    · rw [if_neg loops]
      constructor
      · intro refused
        simp at refused
      · intro offends
        cases offends with
        | nested => exact absurd rfl defines
        | nameless => exact absurd rfl defines
        | uncounted => exact absurd rfl loops
        | unreadable => exact absurd rfl loops
        | negative => exact absurd rfl loops

theorem keyword_of_head?_some {line : CodeLine} {head : BlockHead}
    (read : reading.head? line = .ok (some head)) :
    line.keyword = head.keyword ∧
      (line.keyword = definitionKeyword ∨ line.keyword = loopKeyword) := by
  rw [head?] at read
  split at read
  · rename_i defines
    split at read
    · simp at read
    · split at read
      · simp at read
      · obtain rfl := Option.some.inj (Except.ok.inj read)
        exact ⟨defines, Or.inl defines⟩
  · split at read
    · rename_i loops
      cases counted : count? line.rest with
      | error defect => simp [counted, Except.map] at read
      | ok count =>
        rw [counted] at read
        obtain rfl := Option.some.inj (Except.ok.inj read)
        exact ⟨loops, Or.inr loops⟩
    · simp at read

theorem openings_add (command : Command) (reading : Reading) :
    (reading.add command).openings = reading.openings := by
  obtain ⟨blocks, program⟩ := reading
  cases blocks <;> rfl

/-- A line of code opens and closes the blocks that its words and its indentation say. -/
theorem openings_line {line : String} {code : CodeLine} {next : Reading}
    (tokens_eq : Text.tokens line = code.keyword :: code.rest)
    (indent_eq : code.indent = String.ofList (Text.front line))
    (read : reading.line file statements code = .ok next) :
    next.openings = Opening.next reading.openings line := by
  have width_eq : code.indent.length = (Text.front line).length := by simp [indent_eq]
  rw [Reading.line, width_eq] at read
  simp only [Opening.next, tokens_eq]
  cases found : reading.head? code with
  | error defect => simp [found] at read
  | ok head? =>
    rw [found] at read
    cases head? with
    | none =>
      obtain rfl := Except.ok.inj read
      rw [if_neg (not_or.mpr (keyword_of_head? found)), openings_add]
      obtain ⟨blocks, program⟩ := reading
      cases blocks with
      | nil => rfl
      | cons block outer =>
        simp only [closeFor, openings, List.map_cons]
        split
        · exact openings_add block.command ⟨outer, program⟩
        · rfl
    | some head =>
      obtain rfl := Except.ok.inj read
      obtain ⟨keyword_eq, opens⟩ := keyword_of_head?_some found
      rw [if_pos opens, keyword_eq]
      rfl

theorem line_eq_error_iff {code : CodeLine} :
    reading.line file statements code = .error fault ↔
      Offends reading.openings (code.keyword :: code.rest) fault.defect ∧
        fault = ⟨fault.defect, file, code.number⟩ := by
  rw [Reading.line, ← head?_eq_error_iff]
  cases found : reading.head? code with
  | error defect =>
    constructor
    · rintro ⟨⟩
      exact ⟨rfl, rfl⟩
    · rintro ⟨same, placed⟩
      rw [Except.error.inj same]
      exact congrArg Except.error placed.symm
  | ok head? => cases head? <;> simp

/-- Lines of code are refused for the first of the lines that offends. -/
theorem lines_eq_error_iff {given : List String} {number : Nat} {code : List CodeLine}
    (coded : CodeLine.ofLines file number (given.map Text.lower) = .ok code) :
    reading.lines file statements code = .error fault ↔
      ∃ before, FirstOffence reading.openings given before fault.defect ∧
        fault = ⟨fault.defect, file, (number + before.length : Nat)⟩ := by
  induction given generalizing number code reading with
  | nil =>
    obtain rfl := Except.ok.inj coded
    simp [Reading.lines, firstOffence_nil]
  | cons line others ih =>
    rw [List.map_cons, CodeLine.ofLines] at coded
    by_cases mixed : Text.IsMixed (Text.lower line)
    · simp [indentation_of_mixed mixed, bind, Except.bind] at coded
    rw [indentation_of_unmixed mixed, Text.front_lower] at coded
    cases following : CodeLine.ofLines file (number + 1) (others.map Text.lower) with
    | error found => simp [following, bind, Except.bind] at coded
    | ok later =>
      simp only [following, bind, Except.bind, pure, Except.pure] at coded
      split at coded
      · rename_i blank
        obtain rfl := Except.ok.inj coded
        have clear : ∀ defect, ¬Offends reading.openings (Text.tokens line) defect := by
          intro defect offends
          rw [Text.tokens, blank] at offends
          cases offends
        have same : Opening.next reading.openings line = reading.openings := by
          simp only [Opening.next, Text.tokens, blank]
        rw [ih following, exists_firstOffence_cons clear, same]
      · rename_i keyword words split
        obtain rfl := Except.ok.inj coded
        have tokens_eq : Text.tokens line = keyword :: words := split
        rw [Reading.lines]
        cases read : reading.line file statements
            ⟨String.ofList (Text.front line), keyword, words, number⟩ with
        | error found =>
          obtain ⟨offends, placed⟩ := line_eq_error_iff.mp read
          have offends : Offends reading.openings (Text.tokens line) found.defect := by
            rw [tokens_eq]
            exact offends
          simp only [firstOffence_cons]
          constructor
          · rintro ⟨⟩
            exact ⟨[], Or.inl ⟨rfl, offends⟩, placed⟩
          · rintro ⟨before, ⟨rfl, here⟩ | ⟨_, _, clear, _⟩, same⟩
            · rw [tokens_eq] at here
              exact read.symm.trans (line_eq_error_iff.mpr ⟨here, same⟩)
            · exact absurd offends (clear _)
        | ok next =>
          have clear : ∀ defect, ¬Offends reading.openings (Text.tokens line) defect := by
            intro defect offends
            rw [tokens_eq] at offends
            have refused : reading.line file statements
                ⟨String.ofList (Text.front line), keyword, words, number⟩ =
                  .error ⟨defect, file, number⟩ := line_eq_error_iff.mpr ⟨offends, rfl⟩
            exact absurd (read.symm.trans refused) (by simp)
          have opened := openings_line tokens_eq rfl read
          dsimp only
          rw [ih following, exists_firstOffence_cons clear, opened]

end Reading

/-! ## Texts -/

variable {file : String} {fault : ParseFault}

theorem Offends.unmixed {blocks : List Opening} {tokens : List String} {defect : ParseDefect}
    (offends : Offends blocks tokens defect) : defect ≠ .mixedIndentation := by
  cases offends <;> exact ParseDefect.noConfusion

/-- A text is refused for the first defect of its lines, and for nothing else. -/
theorem parse_eq_error {source : String} :
    parse file source = .error fault ↔
      ∃ before, FirstDefect (Text.lines source) before fault.defect ∧
        fault = ⟨fault.defect, file, (1 + before.length : Nat)⟩ := by
  have cut : CodeLine.ofText file (Text.lower source) =
      CodeLine.ofLines file 1 ((Text.lines source).map Text.lower) := by
    rw [CodeLine.ofText, Text.lines_lower]
  obtain ⟨defect, name, number⟩ := fault
  unfold parse
  rw [cut]
  generalize Text.lines source = given
  cases coded : CodeLine.ofLines file 1 (given.map Text.lower) with
  | error found =>
    obtain ⟨before, line, later, split, mixed, unmixed, placed⟩ :=
      CodeLine.ofLines_eq_error_iff.mp coded
    constructor
    · rintro ⟨⟩
      obtain ⟨rfl, rfl, rfl⟩ := ParseFault.mk.inj placed
      exact ⟨before, .mixed line later split mixed unmixed, rfl⟩
    · rintro ⟨other, first, same⟩
      dsimp only at first same
      cases first with
      | mixed line' later' split' mixed' unmixed' =>
        have again := CodeLine.ofLines_eq_error_iff.mpr
          ⟨other, line', later', split', mixed', unmixed', same⟩
        obtain rfl := Except.error.inj (coded.symm.trans again)
        rfl
      | offence all =>
        have member : line ∈ given := by simp [split]
        exact absurd mixed (all line member)
  | ok code =>
    have unmixed := CodeLine.unmixed_of_ofLines coded
    trans Reading.start.lines file (statements source) code = .error ⟨defect, name, number⟩
    · cases read : Reading.start.lines file (statements source) code <;>
        simp [read, bind, Except.bind, pure, Except.pure]
    refine (Reading.lines_eq_error_iff coded).trans ?_
    refine exists_congr fun before => and_congr_left fun _ => ⟨.offence unmixed, fun first => ?_⟩
    dsimp only at first
    cases first with
    | mixed line later split mixed =>
      have member : line ∈ given := by simp [split]
      exact absurd mixed (unmixed line member)
    | offence _ first => exact first

theorem FirstDefect.offence_of_ne {given before : List String} {defect : ParseDefect}
    (first : FirstDefect given before defect) (other : defect ≠ .mixedIndentation) :
    (∀ line ∈ given, ¬Text.IsMixed line) ∧ FirstOffence [] given before defect := by
  cases first with
  | mixed => exact absurd rfl other
  | offence unmixed first => exact ⟨unmixed, first⟩

/-- The lines before the first offence can be read by themselves. -/
theorem exists_parse_of_sound (source : String) {before : List String}
    (listed : ∀ line ∈ before, line ∈ Text.lines source)
    (unmixed : ∀ line ∈ before, ¬Text.IsMixed line)
    (sound : ∀ earlier line later, before = earlier ++ line :: later →
      ∀ other, ¬Offends (Opening.after [] earlier) (Text.tokens line) other) :
    ∃ program, parse file (String.intercalate "\n" before) = .ok program := by
  cases parsed : parse file (String.intercalate "\n" before) with
  | ok program => exact ⟨program, rfl⟩
  | error found =>
    obtain ⟨others, first, _⟩ := parse_eq_error.mp parsed
    cases before with
    | nil =>
      have empty : parse file "" = .ok [] := rfl
      exact absurd (empty.symm.trans parsed) (by simp)
    | cons line rest =>
      have unbroken : ∀ other ∈ line :: rest, '\n' ∉ other.toList := fun other member =>
        Text.unbroken_lines (listed other member)
      rw [Text.lines_intercalate (List.cons_ne_nil _ _) unbroken] at first
      generalize found.defect = defect at first
      cases first with
      | mixed other later split mixed =>
        have member : other ∈ line :: rest := by simp [split]
        exact absurd mixed (unmixed other member)
      | offence _ first =>
        obtain ⟨other, later, split, offends⟩ := first.offends
        exact absurd offends (sound others other later split _)

/-- A text is refused for the first of its lines that mixes tabs and spaces in front, or else for
the first one that offends, and for nothing else.  In the second case the lines before that one can
be read by themselves, and the refusal stays the same whatever comes after it, as long as no line of
that mixes tabs and spaces. -/
theorem parse_eq_error_iff (file source : String) (fault : ParseFault) :
    (parse file source = .error fault ↔
      ∃ before, FirstDefect (Text.lines source) before fault.defect ∧
        fault = ⟨fault.defect, file, (1 + before.length : Nat)⟩) ∧
      (parse file source = .error fault → fault.defect ≠ .mixedIndentation →
        ∃ before line later, Text.lines source = before ++ line :: later ∧
          fault.line = (1 + before.length : Nat) ∧
          (∃ program, parse file (String.intercalate "\n" before) = .ok program) ∧
          ∀ others : List String, (∀ other ∈ others, '\n' ∉ other.toList ∧ ¬Text.IsMixed other) →
            parse file (String.intercalate "\n" (before ++ line :: others)) = .error fault) := by
  refine ⟨parse_eq_error, fun refused other => ?_⟩
  obtain ⟨before, first, same⟩ := parse_eq_error.mp refused
  obtain ⟨unmixed, sound, line, later, split, offends⟩ := first.offence_of_ne other
  refine ⟨before, line, later, split, congrArg ParseFault.line same, ?_, fun others fresh => ?_⟩
  · apply exists_parse_of_sound source _ _ sound
    · exact fun earlier member => split ▸ List.mem_append_left _ member
    · exact fun earlier member => unmixed earlier (split ▸ List.mem_append_left _ member)
  · have kept : ∀ l ∈ before ++ [line], '\n' ∉ l.toList ∧ ¬Text.IsMixed l := by
      intro l member
      have inside : l ∈ Text.lines source := by
        rw [split, List.append_cons]
        exact List.mem_append_left _ member
      exact ⟨Text.unbroken_lines inside, unmixed l inside⟩
    have all : ∀ l ∈ before ++ line :: others, '\n' ∉ l.toList ∧ ¬Text.IsMixed l := by
      intro l member
      rw [List.append_cons, List.mem_append] at member
      exact member.elim (kept l) (fresh l)
    have cut : Text.lines (String.intercalate "\n" (before ++ line :: others)) =
        before ++ line :: others :=
      Text.lines_intercalate (by simp) fun l member => (all l member).1
    refine parse_eq_error.mpr ⟨before, ?_, same⟩
    rw [cut]
    exact .offence (fun l member => (all l member).2) ⟨sound, line, others, rfl, offends⟩

/-- A definition is opened inside of a loop inside of another one, whatever comes after that. -/
theorem nested_refused :
    parse "f" "to a\n repeat 2\nTO b\nrepeat" = .error ⟨.nestedDefinition, "f", 3⟩ ∧
      ∀ others : List String, (∀ other ∈ others, '\n' ∉ other.toList ∧ ¬Text.IsMixed other) →
        parse "f" (String.intercalate "\n" ("to a" :: " repeat 2" :: "TO b" :: others)) =
          .error ⟨.nestedDefinition, "f", 3⟩ := by
  have refused : parse "f" "to a\n repeat 2\nTO b\nrepeat" =
      .error ⟨.nestedDefinition, "f", 3⟩ := by
    have facts : (match parse "f" "to a\n repeat 2\nTO b\nrepeat" with
        | .ok _ => false
        | .error fault => decide (fault = ⟨.nestedDefinition, "f", 3⟩)) = true := by
      decide +kernel
    split at facts
    · exact absurd facts Bool.false_ne_true
    · rename_i found
      rw [found, of_decide_eq_true facts]
  have cut : Text.lines "to a\n repeat 2\nTO b\nrepeat" =
      ["to a", " repeat 2", "TO b", "repeat"] := by decide +kernel
  obtain ⟨before, line, later, split, placed, _, stays⟩ :=
    (parse_eq_error_iff "f" _ _).2 refused ParseDefect.noConfusion
  have length_eq : before.length = 2 := by
    dsimp only at placed
    omega
  have parts : ["to a", " repeat 2"] ++ ["TO b", "repeat"] = before ++ line :: later :=
    cut.symm.trans split
  obtain ⟨rfl, tail⟩ := List.append_inj parts length_eq.symm
  obtain ⟨rfl, _⟩ := List.cons.inj tail
  exact ⟨refused, stays⟩

end Turtle
