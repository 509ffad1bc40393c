import Turtle.Proofs.RoundTrip

/-!
# Programs line by line

Every line of a text that holds a word becomes one command of the program, and every command comes
from such a line.  In preorder the commands stand in the order of their lines, each with the words
of its own line, in lower case, and with the line itself as its place.

While a text is read its commands are spread over the open blocks.  The innermost block is the last
command of the block around it, so whatever is added there comes last in preorder.
-/

set_option autoImplicit false

namespace Turtle

/-- The lines of a text that hold a word, with their numbers. -/
def Text.codeLines (source : String) : List (String × Nat) :=
  ((Text.lines source).zipIdx 1).filter fun entry => !(Text.words entry.1).isEmpty

namespace Command

/-- The words of a line say what a command says, but for its body.  Whatever comes after the count
of a loop says nothing. -/
inductive Heads : List String → Command → Prop where
  | leaf {op : String} {args : List String} {at? : Option Location} :
    op ≠ definitionKeyword → op ≠ loopKeyword → Heads (op :: args) (.leaf op args at?)
  | loop {word : String} {count : Int} {body : List Command} {at? : Option Location}
    (ignored : List String) :
    Number.readInteger word = some count →
      Heads (loopKeyword :: word :: ignored) (.loop count body at?)
  | define {name : String} {params : List String} {body : List Command} {at? : Option Location} :
    Heads (definitionKeyword :: name :: params) (.define name params body at?)

/-- A command says what a numbered line of a file says, and it is placed there. -/
structure IsLine (file : String) (entry : String × Nat) (command : Command) : Prop where
  heads : Heads (Text.words (Text.lower entry.1)) command
  placed : command.location? = some ⟨file, entry.2, Text.strip entry.1⟩

/-- A command without its body. -/
def bare : Command → Command
  | loop count _ at? => loop count [] at?
  | define name params _ at? => define name params [] at?
  | command => command

/-- The commands of a program in preorder, each without its body. -/
def bares (program : List Command) : List Command :=
  (outline program).map fun entry => entry.2.bare

theorem map_snd_outlineFrom (depth : Nat) (commands : List Command) :
    (outlineFrom depth commands).map Prod.snd = (outline commands).map Prod.snd := by
  suffices same : ∀ other, (outlineFrom depth commands).map Prod.snd =
      (outlineFrom other commands).map Prod.snd from same 0
  induction commands using induction_on_bodies generalizing depth with
  | nil => exact fun _ => rfl
  | cons command rest ih_body ih_rest =>
    intro other
    simp only [outlineFrom, outlineAt_eq, List.map_append, List.map_cons]
    rw [ih_body (depth + 1) (other + 1), ih_rest depth other]

theorem bares_cons (command : Command) (rest : List Command) :
    bares (command :: rest) = command.bare :: (bares command.body ++ bares rest) := by
  have body := map_snd_outlineFrom (0 + 1) command.body
  have whole := congrArg (List.map Command.bare) body
  rw [List.map_map, List.map_map] at whole
  rw [bares, outline, outlineFrom, outlineAt_eq, List.cons_append, List.map_cons, List.map_append]
  exact congrArg (fun front => command.bare :: (front ++ bares rest)) whole

theorem bares_append (first second : List Command) :
    bares (first ++ second) = bares first ++ bares second := by
  rw [bares, outline, outlineFrom_append, List.map_append]
  rfl

theorem IsLine.of_bare {file : String} {entry : String × Nat} {command : Command}
    (isLine : IsLine file entry command.bare) : IsLine file entry command := by
  obtain ⟨heads, placed⟩ := isLine
  refine ⟨?_, by cases command <;> exact placed⟩
  generalize Text.words (Text.lower entry.1) = words at heads
  cases command with
  | leaf => exact heads
  | loop =>
    cases heads with
    | loop ignored read => exact .loop ignored read
  | define =>
    cases heads
    exact .define
  | stray => cases heads

end Command

namespace BlockHead

theorem bare_command (head : BlockHead) (body : List Command) (location : Location) :
    (head.command body location).bare = head.command [] location := by
  cases head <;> rfl

end BlockHead

namespace Reading

open Command

variable {file : String} {statements : Array String} {reading next : Reading}

/-- The commands of the open blocks and before them, in preorder and without their bodies. -/
def spine (program : List Command) : List OpenBlock → List Command
  | [] => bares program.reverse
  | block :: outer =>
    spine program outer ++ block.head.command [] block.location :: bares block.body.reverse

/-- What has been read, in preorder and without bodies. -/
def soFar (reading : Reading) : List Command :=
  spine reading.program reading.blocks

theorem bares_closeAll (inner program : List Command) (blocks : List OpenBlock) :
    bares (closeAll inner program blocks).reverse =
      spine program blocks ++ bares inner.reverse := by
  induction blocks generalizing inner with
  | nil => rw [closeAll, List.reverse_append, bares_append, spine]
  | cons block outer ih =>
    rw [closeAll, ih, spine, List.reverse_singleton, bares_cons, OpenBlock.command,
      BlockHead.bare_command, BlockHead.command_body, List.reverse_append, bares_append]
    simp [bares, outline, outlineFrom]

theorem bares_finish (reading : Reading) : bares reading.finish = reading.soFar := by
  rw [finish, bares_closeAll, soFar]
  simp [bares, outline, outlineFrom]

theorem soFar_add (command : Command) (reading : Reading) :
    (reading.add command).soFar = reading.soFar ++ bares [command] := by
  obtain ⟨blocks, program⟩ := reading
  cases blocks with
  | nil => simp [add, soFar, spine, bares_append]
  | cons block outer => simp [add, soFar, spine, bares_append]

theorem soFar_closeFor (indent : Nat) (reading : Reading) :
    (reading.closeFor indent).soFar = reading.soFar := by
  have closed : reading.close.soFar = reading.soFar := by
    rw [← bares_finish, finish_close, bares_finish]
  unfold closeFor
  split
  · rfl
  · split
    · exact closed
    · rfl

theorem soFar_openBlock (head : BlockHead) (location : Location) (indent : Nat)
    (reading : Reading) :
    (reading.openBlock head location indent).soFar =
      reading.soFar ++ [head.command [] location] := by
  simp [openBlock, soFar, spine, bares, outline, outlineFrom]

/-- The words of a line that opens a block say what the block is. -/
theorem heads_of_head? {line : CodeLine} {head : BlockHead}
    (read : reading.head? line = .ok (some head)) (location : Location) :
    Heads (line.keyword :: line.rest) (head.command [] location) := by
  rw [head?] at read
  split at read
  · rename_i keyword
    split at read
    · simp at read
    · split at read
      · simp at read
      · rename_i name params words
        obtain rfl := Option.some.inj (Except.ok.inj read)
        rw [keyword, words]
        exact .define
  · split at read
    · rename_i keyword
      cases words : line.rest with
      | nil => simp [words, count?, Except.map] at read
      | cons word ignored =>
        rw [words, count?] at read
        split at read
        · simp [Except.map] at read
        · rename_i count counted
          split at read
          · simp [Except.map] at read
          · obtain rfl := Option.some.inj (Except.ok.inj read)
            rw [keyword]
            exact .loop ignored counted
    · simp at read

/-- A line of code adds one command, which comes last in preorder. -/
theorem soFar_line {line : CodeLine} (read : reading.line file statements line = .ok next) :
    ∃ command, next.soFar = reading.soFar ++ [command] ∧
      Heads (line.keyword :: line.rest) command ∧
      command.location? =
        some ⟨file, line.number, statements.getD (line.number - 1) ""⟩ := by
  rw [Reading.line] at read
  cases found : reading.head? line with
  | error defect => simp [found] at read
  | ok head? =>
    rw [found] at read
    cases head? with
    | none =>
      obtain rfl := Except.ok.inj read
      obtain ⟨undefined, unlooped⟩ := keyword_of_head? found
      refine ⟨_, ?_, .leaf undefined unlooped, rfl⟩
      rw [soFar_add, soFar_closeFor]
      rfl
    | some head =>
      obtain rfl := Except.ok.inj read
      refine ⟨_, soFar_openBlock _ _ _ _, heads_of_head? found _, ?_⟩
      cases head <;> rfl

end Reading

/-! ## From the lines of a text to its lines of code -/

/-- A line of code is a numbered line of a text, in lower case. -/
structure CodeLine.Reads (entry : String × Nat) (line : CodeLine) : Prop where
  words_eq : Text.words (Text.lower entry.1) = line.keyword :: line.rest
  number_eq : line.number = entry.2

theorem CodeLine.reads_of_ofLines {file : String} {number : Nat} {source : List String}
    {code : List CodeLine}
    (read : CodeLine.ofLines file number (source.map Text.lower) = .ok code) :
    List.Forall₂ CodeLine.Reads
      ((source.zipIdx number).filter fun entry => !(Text.words entry.1).isEmpty) code := by
  induction source generalizing number code with
  | nil =>
    obtain rfl := Except.ok.inj read
    exact .nil
  | cons line others ih =>
    rw [List.map_cons, CodeLine.ofLines] at read
    cases indented : indentation file number (Text.lower line) with
    | error fault => simp [indented, bind, Except.bind] at read
    | ok indent =>
      cases following : CodeLine.ofLines file (number + 1) (others.map Text.lower) with
      | error fault => simp [indented, following, bind, Except.bind] at read
      | ok later =>
        have rest := ih following
        simp only [indented, following, bind, Except.bind, pure, Except.pure] at read
        rw [List.zipIdx_cons]
        split at read
        · rename_i blank
          obtain rfl := Except.ok.inj read
          have wordless := Text.words_lower_eq_nil_iff.mp blank
          rw [List.filter_cons_of_neg (by simp [wordless])]
          exact rest
        · rename_i keyword words split
          obtain rfl := Except.ok.inj read
          have worded : Text.words line ≠ [] := by
            rw [ne_eq, ← Text.words_lower_eq_nil_iff, split]
            exact List.cons_ne_nil _ _
          rw [List.filter_cons_of_pos (by simpa using worded)]
          exact .cons ⟨split, rfl⟩ rest

theorem statements_getD {source : String} {entry : String × Nat}
    (listed : entry ∈ Text.codeLines source) :
    (statements source).getD (entry.2 - 1) "" = Text.strip entry.1 := by
  obtain ⟨line, number⟩ := entry
  have inside := (List.mem_filter.mp listed).1
  have found := List.mk_mem_zipIdx_iff_le_and_getElem?_sub.mp inside
  simp [statements, Array.getD_eq_getD_getElem?, found.2]

namespace Reading

open Command

/-- Lines of code add one command each, in their order. -/
theorem soFar_lines {file source : String} {reading next : Reading} {code : List CodeLine}
    {entries : List (String × Nat)} (reads : List.Forall₂ CodeLine.Reads entries code)
    (listed : ∀ entry ∈ entries, entry ∈ Text.codeLines source)
    (read : reading.lines file (statements source) code = .ok next) :
    ∃ commands, next.soFar = reading.soFar ++ commands ∧
      List.Forall₂ (IsLine file) entries commands := by
  induction reads generalizing reading with
  | nil =>
    obtain rfl := Except.ok.inj read
    exact ⟨[], (List.append_nil _).symm, .nil⟩
  | @cons entry line entries code reads_line _ ih =>
    rw [Reading.lines] at read
    split at read
    · contradiction
    · rename_i middle first
      obtain ⟨command, added, heads, placed⟩ := soFar_line first
      obtain ⟨commands, following, isLines⟩ :=
        ih (fun other member => listed other (List.mem_cons_of_mem _ member)) read
      have statement := statements_getD (listed entry (List.mem_cons_self ..))
      refine ⟨command :: commands, by rw [following, added]; simp, .cons ⟨?_, ?_⟩ isLines⟩
      · rw [reads_line.words_eq]
        exact heads
      · rw [placed, reads_line.number_eq, statement]

end Reading

open Command

/-- The places of commands are the lines that they say. -/
theorem locations_of_isLine {file : String} {entries : List (String × Nat)}
    {commands : List Command} (isLines : List.Forall₂ (IsLine file) entries commands) :
    commands.filterMap location? =
      entries.map fun entry => ⟨file, entry.2, Text.strip entry.1⟩ := by
  induction isLines with
  | nil => rfl
  | cons first _ ih => rw [List.filterMap_cons_some first.placed, ih, List.map_cons]

theorem codeLines_increasing (source : String) :
    (Text.codeLines source).Pairwise fun earlier later => earlier.2 < later.2 := by
  have numbers : (((Text.lines source).zipIdx 1).map Prod.snd).Pairwise (· < ·) := by
    rw [List.zipIdx_map_snd]
    exact List.pairwise_lt_range'
  exact (List.pairwise_map.mp numbers).sublist List.filter_sublist

/-- In preorder the commands of a program are the lines of its text that hold a word, one by one and
in their order: each says what its line says, and is placed there. -/
theorem isLine_outline {file source : String} {program : List Command}
    (parsed : parse file source = .ok program) :
    List.Forall₂ (IsLine file) (Text.codeLines source) ((outline program).map Prod.snd) ∧
      (((outline program).filterMap fun entry => entry.2.location?).map Location.line).Pairwise
        (· < ·) := by
  have isLines : List.Forall₂ (IsLine file) (Text.codeLines source)
      ((outline program).map Prod.snd) := by
    unfold parse at parsed
    cases coded : CodeLine.ofText file (Text.lower source) with
    | error fault => simp [coded, bind, Except.bind] at parsed
    | ok code =>
      cases followed : Reading.start.lines file (statements source) code with
      | error fault => simp [coded, followed, bind, Except.bind] at parsed
      | ok reading =>
        simp only [coded, followed, bind, Except.bind, pure, Except.pure] at parsed
        obtain rfl := Except.ok.inj parsed
        rw [CodeLine.ofText, Text.lines_lower] at coded
        obtain ⟨commands, all, isLines⟩ :=
          Reading.soFar_lines (CodeLine.reads_of_ofLines coded) (fun _ listed => listed) followed
        have bared : commands = ((outline reading.finish).map Prod.snd).map bare := by
          rw [List.map_map, ← show bares reading.finish = commands from
            (Reading.bares_finish reading).trans all]
          rfl
        rw [bared, List.forall₂_map_right_iff] at isLines
        exact isLines.imp fun _ _ isLine => isLine.of_bare
  refine ⟨isLines, ?_⟩
  have places := locations_of_isLine isLines
  rw [List.filterMap_map] at places
  rw [show ((outline program).filterMap fun entry => entry.2.location?) = _ from places,
    List.map_map, List.pairwise_map]
  exact (codeLines_increasing source).imp fun less => Int.ofNat_lt.mpr less

/-- A definition with a loop in it, and blank lines in between. -/
theorem spiral_isLine :
    ∃ program, parse "spiral" "TO Spiral Side\n\n  Repeat 2 x\n\tFD Side \n \nbk 1" = .ok program ∧
      Text.codeLines "TO Spiral Side\n\n  Repeat 2 x\n\tFD Side \n \nbk 1" =
        [("TO Spiral Side", 1), ("  Repeat 2 x", 3), ("\tFD Side ", 4), ("bk 1", 6)] ∧
      List.Forall₂ (IsLine "spiral")
        [("TO Spiral Side", 1), ("  Repeat 2 x", 3), ("\tFD Side ", 4), ("bk 1", 6)]
        ((outline program).map Prod.snd) := by
  have facts : (match parse "spiral" "TO Spiral Side\n\n  Repeat 2 x\n\tFD Side \n \nbk 1" with
      | .ok _ => decide (Text.codeLines "TO Spiral Side\n\n  Repeat 2 x\n\tFD Side \n \nbk 1" =
          [("TO Spiral Side", 1), ("  Repeat 2 x", 3), ("\tFD Side ", 4), ("bk 1", 6)])
      | .error _ => false) = true := by
    decide +kernel
  split at facts
  · rename_i program parsed
    have lines := of_decide_eq_true facts
    have isLines := (isLine_outline parsed).1
    rw [lines] at isLines
    exact ⟨program, parsed, lines, isLines⟩
  · exact absurd facts Bool.false_ne_true

end Turtle
