import Mathlib.Data.List.TakeWhile
import Mathlib.Order.Monotone.Basic
import Turtle.Proofs.LineByLine
import Turtle.Proofs.Refusals
import Turtle.Proofs.Trimming

/-!
# Indentation

The indentation of a line is only ever compared: a line closes a block if it is not indented further
than the line that opened it.  So a text can be indented anew, with tabs or with spaces, and it is
read as before as long as no two widths change their order.  Lines without words can be put in and
left out anywhere.
-/

set_option autoImplicit false

namespace Turtle

namespace Text

/-- A line with so many tabs or spaces in front, in the place of its own. -/
def reindented (mark : Char) (width : Nat) (line : String) : String :=
  String.ofList (List.replicate width mark ++ line.toList.dropWhile isIndent)

end Text

/-- Lines that are indented anew: a line has as many tabs, or as many spaces, in front as its old
width is to be widened to.  Lines without words may be put in or left out. -/
inductive Reindents (widen : Nat → Nat) : List String → List String → Prop where
  | nothing : Reindents widen [] []
  | line {given others : List String} (line : String) {mark : Char} : isIndent mark = true →
    Reindents widen given others →
    Reindents widen (line :: given)
      (Text.reindented mark (widen (Text.front line).length) line :: others)
  | putIn {given others : List String} {line : String} : Text.words line = [] →
    ¬Text.IsMixed line → Reindents widen given others → Reindents widen given (line :: others)
  | leftOut {given others : List String} {line : String} : Text.words line = [] →
    Reindents widen given others → Reindents widen (line :: given) others

/-- Two texts are read alike: as the same program, but for the places of its commands, or not at
all, for the same defect in the corresponding line of code. -/
inductive ReadAlike (source other : String) :
    Except ParseFault (List Command) → Except ParseFault (List Command) → Prop where
  | program {first second : List Command} :
    Command.unplacedAll first = Command.unplacedAll second →
      ReadAlike source other (.ok first) (.ok second)
  | refusal {rank : Nat} {entry entry' : String × Nat} (defect : ParseDefect) (file : String) :
    (Text.codeLines source)[rank]? = some entry → (Text.codeLines other)[rank]? = some entry' →
      ReadAlike source other (.error ⟨defect, file, entry.2⟩) (.error ⟨defect, file, entry'.2⟩)

/-! ## Lines -/

namespace Text

theorem tokens_append_indents {front : List Char} (indents : ∀ c ∈ front, isIndent c = true)
    (rest : List Char) : tokens (String.ofList (front ++ rest)) = tokens (String.ofList rest) := by
  have blanks : ∀ c ∈ front, isBlank c = true := fun c member =>
    isBlank_of_isIndent (indents c member)
  simp only [tokens, words, lower, String.toList_ofList]
  rw [lowerFrom_append_blanks blanks, wordsFrom_append_blanks blanks]

section Reindented

variable {mark : Char} (indents : isIndent mark = true) (width : Nat) (line : String)
include indents

theorem front_reindented : front (reindented mark width line) = List.replicate width mark := by
  have marks : ∀ c ∈ List.replicate width mark, isIndent c = true := fun c member =>
    List.eq_of_mem_replicate member ▸ indents
  have spent : (line.toList.dropWhile isIndent).takeWhile isIndent = [] :=
    List.takeWhile_eq_nil_iff.mpr (List.dropWhile_get_zero_not isIndent line.toList)
  rw [front, reindented, String.toList_ofList, List.takeWhile_append_of_pos marks, spent,
    List.append_nil]

theorem unmixed_reindented : ¬IsMixed (reindented mark width line) := by
  rintro ⟨space, tab⟩
  rw [front_reindented indents] at space tab
  have same := (List.eq_of_mem_replicate space).trans (List.eq_of_mem_replicate tab).symm
  exact absurd same (by decide)

theorem tokens_reindented : tokens (reindented mark width line) = tokens line := by
  have marks : ∀ c ∈ List.replicate width mark, isIndent c = true := fun c member =>
    List.eq_of_mem_replicate member ▸ indents
  have front : ∀ c ∈ line.toList.takeWhile isIndent, isIndent c = true := fun c member =>
    List.mem_takeWhile_imp member
  have whole := tokens_append_indents front (line.toList.dropWhile isIndent)
  rw [List.takeWhile_append_dropWhile, String.ofList_toList] at whole
  rw [reindented, tokens_append_indents marks, whole]

end Reindented

end Text

namespace CodeLine

/-- Two lines of code say the same, and the second is as wide in front as the first is to be. -/
structure Alike (widen : Nat → Nat) (line other : CodeLine) : Prop where
  keyword_eq : other.keyword = line.keyword
  rest_eq : other.rest = line.rest
  width_eq : other.indent.length = widen line.indent.length

/-- A line that is not mixed is a line of code if it has words. -/
theorem ofLines_cons {file : String} {number : Nat} {line : String} {others : List String}
    {later : List CodeLine} (unmixed : ¬Text.IsMixed line)
    (following : ofLines file (number + 1) (others.map Text.lower) = .ok later) :
    ofLines file number ((line :: others).map Text.lower) = .ok (match Text.tokens line with
      | [] => later
      | keyword :: rest => ⟨String.ofList (Text.front line), keyword, rest, number⟩ :: later) := by
  rw [List.map_cons, ofLines, indentation_of_unmixed (Text.isMixed_lower.not.mpr unmixed),
    following, Text.front_lower, Text.tokens]
  simp only [bind, Except.bind, pure, Except.pure]
  cases Text.words (Text.lower line) <;> rfl

/-- Lines that are indented anew give the lines of code that they gave before. -/
theorem ofLines_reindents {widen : Nat → Nat} {given others : List String}
    (reindents : Reindents widen given others) (unmixed : ∀ line ∈ given, ¬Text.IsMixed line)
    (file : String) (number number' : Nat) :
    ∃ code code', ofLines file number (given.map Text.lower) = .ok code ∧
      ofLines file number' (others.map Text.lower) = .ok code' ∧
        List.Forall₂ (Alike widen) code code' := by
  induction reindents generalizing number number' with
  | nothing => exact ⟨[], [], rfl, rfl, .nil⟩
  | @line given others line mark indents _ ih =>
    obtain ⟨here, later⟩ := List.forall_mem_cons.mp unmixed
    obtain ⟨code, code', read, read', alike⟩ := ih later (number + 1) (number' + 1)
    refine ⟨_, _, ofLines_cons here read,
      ofLines_cons (Text.unmixed_reindented indents _ line) read', ?_⟩
    rw [Text.tokens_reindented indents, Text.front_reindented indents]
    cases Text.tokens line with
    | nil => exact alike
    | cons keyword rest => exact .cons ⟨rfl, rfl, by simp⟩ alike
  | @putIn given others line wordless single _ ih =>
    obtain ⟨code, code', read, read', alike⟩ := ih unmixed number (number' + 1)
    refine ⟨code, _, read, ofLines_cons single read', ?_⟩
    rw [Text.tokens, Text.words_lower_eq_nil_iff.mpr wordless]
    exact alike
  | @leftOut given others line wordless _ ih =>
    obtain ⟨here, later⟩ := List.forall_mem_cons.mp unmixed
    obtain ⟨code, code', read, read', alike⟩ := ih later (number + 1) number'
    refine ⟨_, code', ofLines_cons here read, read', ?_⟩
    rw [Text.tokens, Text.words_lower_eq_nil_iff.mpr wordless]
    exact alike

end CodeLine

/-! ## Two readings side by side -/

open Command

/-- Two open blocks are alike: they were opened in the same way, the second as wide in front as the
first was to be, and hold the same so far. -/
structure OpenBlock.Alike (widen : Nat → Nat) (block other : OpenBlock) : Prop where
  head_eq : other.head = block.head
  width_eq : other.indent = widen block.indent
  body_eq : other.body.map unplaced = block.body.map unplaced

namespace Command

theorem unplacedAll_eq_map (commands : List Command) :
    unplacedAll commands = commands.map unplaced := by
  induction commands with
  | nil => rfl
  | cons command rest ih => rw [unplacedAll, ih, List.map_cons]

theorem unplaced_command (head : BlockHead) {body other : List Command}
    (same : other.map unplaced = body.map unplaced) (location location' : Location) :
    unplaced (head.command other location') = unplaced (head.command body location) := by
  cases head <;> simp only [BlockHead.command, unplaced, unplacedAll_eq_map, same]

end Command

theorem OpenBlock.Alike.command_eq {widen : Nat → Nat} {block other : OpenBlock}
    (alike : block.Alike widen other) : unplaced other.command = unplaced block.command := by
  rw [OpenBlock.command, OpenBlock.command, alike.head_eq]
  apply unplaced_command
  rw [List.map_reverse, List.map_reverse, alike.body_eq]

namespace Reading

/-- Two readings are alike: the same blocks are open, and the same has been read so far. -/
structure Alike (widen : Nat → Nat) (reading other : Reading) : Prop where
  blocks : List.Forall₂ (OpenBlock.Alike widen) reading.blocks other.blocks
  program_eq : other.program.map unplaced = reading.program.map unplaced

variable {widen : Nat → Nat} {reading other : Reading}

theorem Alike.keywords_eq (alike : reading.Alike widen other) :
    other.keywords = reading.keywords := by
  have same : other.blocks.map (fun block => some block.head.keyword) =
      reading.blocks.map fun block => some block.head.keyword := by
    have blocks := alike.blocks
    generalize reading.blocks = first at blocks ⊢
    generalize other.blocks = second at blocks ⊢
    induction blocks with
    | nil => rfl
    | cons block _ ih => rw [List.map_cons, List.map_cons, ih, block.head_eq]
  rw [keywords, keywords, List.map_reverse, List.map_reverse, same]

theorem Alike.add (alike : reading.Alike widen other) {command command' : Command}
    (same : unplaced command' = unplaced command) :
    (reading.add command).Alike widen (other.add command') := by
  obtain ⟨blocks, program⟩ := reading
  obtain ⟨blocks', program'⟩ := other
  obtain ⟨blocks_alike, program_eq⟩ := alike
  cases blocks_alike with
  | nil =>
    refine ⟨.nil, ?_⟩
    simp only [Reading.add, List.map_cons, same]
    exact congrArg _ program_eq
  | cons block outer =>
    refine ⟨.cons ⟨block.head_eq, block.width_eq, ?_⟩ outer, program_eq⟩
    rw [List.map_cons, List.map_cons, same, block.body_eq]

theorem Alike.closeFor (alike : reading.Alike widen other) (increasing : StrictMono widen)
    (width : Nat) : (reading.closeFor width).Alike widen (other.closeFor (widen width)) := by
  obtain ⟨blocks, program⟩ := reading
  obtain ⟨blocks', program'⟩ := other
  obtain ⟨blocks_alike, program_eq⟩ := alike
  cases blocks_alike with
  | nil => exact ⟨.nil, program_eq⟩
  | @cons block block' outer outer' first rest =>
    have closes : widen width ≤ block'.indent ↔ width ≤ block.indent := by
      rw [first.width_eq]
      exact increasing.le_iff_le
    simp only [Reading.closeFor, closes]
    split
    · have around : Alike widen ⟨outer, program⟩ ⟨outer', program'⟩ := ⟨rest, program_eq⟩
      exact around.add first.command_eq
    · exact ⟨.cons first rest, program_eq⟩

/-- How two readings of some lines of code come out alike. -/
inductive Outcomes (widen : Nat → Nat) (code code' : List CodeLine) :
    Except ParseFault Reading → Except ParseFault Reading → Prop where
  | read {reading other : Reading} : reading.Alike widen other →
    Outcomes widen code code' (.ok reading) (.ok other)
  | refused (rank : Nat) {line line' : CodeLine} (defect : ParseDefect) (file : String) :
    code[rank]? = some line → code'[rank]? = some line' →
      Outcomes widen code code' (.error ⟨defect, file, line.number⟩)
        (.error ⟨defect, file, line'.number⟩)

/-- A line does to one reading what its like does to the other: both are refused for the same
defect, or both go on. -/
theorem Alike.line (alike : reading.Alike widen other) (increasing : StrictMono widen)
    {line line' : CodeLine} (same : line.Alike widen line') (file : String)
    (statements statements' : Array String) :
    Outcomes widen [line] [line'] (reading.line file statements line)
      (other.line file statements' line') := by
  have head_eq : other.head? line' = reading.head? line := by
    unfold head?
    rw [same.keyword_eq, same.rest_eq, alike.keywords_eq]
  unfold Reading.line
  rw [head_eq, same.width_eq]
  cases reading.head? line with
  | error defect => exact .refused 0 defect file rfl rfl
  | ok head? =>
    cases head? with
    | none =>
      refine .read ((alike.closeFor increasing _).add ?_)
      rw [same.keyword_eq, same.rest_eq]
      rfl
    | some head =>
      exact .read ⟨.cons ⟨rfl, rfl, rfl⟩ alike.blocks, alike.program_eq⟩

/-- The readings of two texts stay alike line by line, up to the first line that is refused. -/
theorem Alike.lines (alike : reading.Alike widen other) (increasing : StrictMono widen)
    {code code' : List CodeLine} (same : List.Forall₂ (CodeLine.Alike widen) code code')
    (file : String) (statements statements' : Array String) :
    Outcomes widen code code' (reading.lines file statements code)
      (other.lines file statements' code') := by
  induction same generalizing reading other with
  | nil => exact .read alike
  | @cons line line' code code' first _ ih =>
    have here := alike.line increasing first file statements statements'
    unfold Reading.lines
    generalize reading.line file statements line = outcome at here ⊢
    generalize other.line file statements' line' = outcome' at here ⊢
    cases here with
    | read next =>
      have later := ih next
      dsimp only
      generalize Reading.lines file statements _ code = outcome at later ⊢
      generalize Reading.lines file statements' _ code' = outcome' at later ⊢
      cases later with
      | read last => exact .read last
      | refused rank defect file found found' =>
        exact .refused (rank + 1) defect file found found'
    | refused rank defect file found found' =>
      cases rank with
      | zero => exact .refused 0 defect file found found'
      | succ rank => simp at found

theorem Alike.closeAll {blocks blocks' : List OpenBlock}
    (alike : List.Forall₂ (OpenBlock.Alike widen) blocks blocks')
    {inner inner' program program' : List Command}
    (inner_eq : inner'.map unplaced = inner.map unplaced)
    (program_eq : program'.map unplaced = program.map unplaced) :
    (Reading.closeAll inner' program' blocks').map unplaced =
      (Reading.closeAll inner program blocks).map unplaced := by
  induction alike generalizing inner inner' with
  | nil => simp only [Reading.closeAll, List.map_append, inner_eq, program_eq]
  | @cons block block' outer outer' first _ ih =>
    refine ih ?_
    have longer : OpenBlock.Alike widen { block with body := inner ++ block.body }
        { block' with body := inner' ++ block'.body } :=
      ⟨first.head_eq, first.width_eq, by
        rw [List.map_append, List.map_append, inner_eq, first.body_eq]⟩
    simp only [List.map_cons, List.map_nil, longer.command_eq]

theorem Alike.finish (alike : reading.Alike widen other) :
    unplacedAll reading.finish = unplacedAll other.finish := by
  rw [unplacedAll_eq_map, unplacedAll_eq_map, Reading.finish, Reading.finish, List.map_reverse,
    List.map_reverse, Alike.closeAll alike.blocks rfl alike.program_eq]

end Reading

/-! ## Texts -/

/-- The line of code of a rank is the line of the text of that rank that has words. -/
theorem codeLine_of_rank {file source : String} {code : List CodeLine} {rank : Nat}
    {line : CodeLine}
    (read : CodeLine.ofLines file 1 ((Text.lines source).map Text.lower) = .ok code)
    (found : code[rank]? = some line) :
    ∃ entry, (Text.codeLines source)[rank]? = some entry ∧ entry.2 = line.number := by
  have reads : List.Forall₂ CodeLine.Reads (Text.codeLines source) code :=
    CodeLine.reads_of_ofLines read
  obtain ⟨inside, rfl⟩ := List.getElem?_eq_some_iff.mp found
  have inside' : rank < (Text.codeLines source).length := reads.length_eq ▸ inside
  exact ⟨_, List.getElem?_eq_getElem inside', (reads.get inside' inside).number_eq.symm⟩

/-- A text that mixes no tabs and spaces in front of a line can be indented anew.  As long as wider
lines stay wider it is read as before, whether tabs or spaces stand in front of any line, and
whatever lines without words are put in or left out. -/
theorem readAlike_of_reindents {widen : Nat → Nat} (increasing : StrictMono widen)
    {source other : String} (unmixed : ∀ line ∈ Text.lines source, ¬Text.IsMixed line)
    (reindents : Reindents widen (Text.lines source) (Text.lines other)) (file : String) :
    ReadAlike source other (parse file source) (parse file other) := by
  obtain ⟨code, code', coded, coded', alike⟩ :=
    CodeLine.ofLines_reindents reindents unmixed file 1 1
  have start : Reading.start.Alike widen Reading.start := ⟨.nil, rfl⟩
  have outcomes := start.lines increasing alike file (statements source) (statements other)
  unfold parse CodeLine.ofText
  rw [Text.lines_lower, Text.lines_lower, coded, coded']
  simp only [bind, Except.bind, pure, Except.pure]
  generalize Reading.start.lines file (statements source) code = outcome at outcomes ⊢
  generalize Reading.start.lines file (statements other) code' = outcome' at outcomes ⊢
  cases outcomes with
  | read last => exact .program last.finish
  | refused rank defect file found found' =>
    obtain ⟨entry, listed, number⟩ := codeLine_of_rank coded found
    obtain ⟨entry', listed', number'⟩ := codeLine_of_rank coded' found'
    rw [← number, ← number']
    exact .refusal defect file listed listed'

/-- Some spaces become tabs, a blank line goes and two others come.  One line closes the loop, but
not the definition around it, and the last line is refused in both texts. -/
theorem nested_readAlike :
    (∀ line ∈ Text.lines "to a\n repeat 2\n  fd 1\n\n lt 3\nrepeat", ¬Text.IsMixed line) ∧
      Reindents (2 * · + 1) (Text.lines "to a\n repeat 2\n  fd 1\n\n lt 3\nrepeat")
        (Text.lines "\tto a\n   repeat 2\n \n\n\t\t\t\t\tfd 1\n   lt 3\n\trepeat") ∧
      ReadAlike "to a\n repeat 2\n  fd 1\n\n lt 3\nrepeat"
        "\tto a\n   repeat 2\n \n\n\t\t\t\t\tfd 1\n   lt 3\n\trepeat"
        (parse "f" "to a\n repeat 2\n  fd 1\n\n lt 3\nrepeat")
        (parse "f" "\tto a\n   repeat 2\n \n\n\t\t\t\t\tfd 1\n   lt 3\n\trepeat") := by
  have increasing : StrictMono (2 * · + 1 : Nat → Nat) := fun m n less => by
    dsimp only
    omega
  have cut : Text.lines "to a\n repeat 2\n  fd 1\n\n lt 3\nrepeat" =
      ["to a", " repeat 2", "  fd 1", "", " lt 3", "repeat"] := by decide +kernel
  have cut' : Text.lines "\tto a\n   repeat 2\n \n\n\t\t\t\t\tfd 1\n   lt 3\n\trepeat" =
      [Text.reindented '\t' 1 "to a", Text.reindented ' ' 3 " repeat 2", " ", "",
        Text.reindented '\t' 5 "  fd 1", Text.reindented ' ' 3 " lt 3",
        Text.reindented '\t' 1 "repeat"] := by decide +kernel
  have unmixed : ∀ line ∈ Text.lines "to a\n repeat 2\n  fd 1\n\n lt 3\nrepeat",
      ¬Text.IsMixed line := by
    rw [cut]
    unfold Text.IsMixed
    decide +kernel
  have reindents : Reindents (2 * · + 1)
      (Text.lines "to a\n repeat 2\n  fd 1\n\n lt 3\nrepeat")
      (Text.lines "\tto a\n   repeat 2\n \n\n\t\t\t\t\tfd 1\n   lt 3\n\trepeat") := by
    rw [cut, cut']
    refine .line _ rfl (.line _ rfl (.putIn (by decide +kernel) ?_ (.putIn (by decide +kernel) ?_
      (.line _ rfl (.leftOut (by decide +kernel) (.line _ rfl (.line _ rfl .nothing)))))))
    · unfold Text.IsMixed
      decide +kernel
    · unfold Text.IsMixed
      decide +kernel
  exact ⟨unmixed, reindents, readAlike_of_reindents increasing unmixed reindents "f"⟩

end Turtle
