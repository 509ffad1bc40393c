import Turtle.Proofs.Written

/-!
# Programs read back

A program that fits the grammar is read back from its text, command by command and with all that is
in them, only with the places of that text.
-/

set_option autoImplicit false

namespace Turtle

namespace Command

mutual

/-- A command without its place, and without those of the commands in it. -/
def unplaced : Command → Command
  | leaf op args _ => leaf op args none
  | loop count body _ => loop count (unplacedAll body) none
  | define name params body _ => define name params (unplacedAll body) none
  | stray shown => stray shown

def unplacedAll : List Command → List Command
  | [] => []
  | command :: rest => unplaced command :: unplacedAll rest

end

/-- The block that a command opens, if it opens one. -/
def head? : Command → Option BlockHead
  | loop count _ _ => some (.loop count)
  | define name params _ _ => some (.define name params)
  | _ => none

theorem Fits.leaf_of_head? {inside : Bool} {command : Command} (fits : command.Fits inside)
    (unheaded : command.head? = none) : command.isLeaf = true ∧ command.body = [] := by
  cases fits with
  | leaf => exact ⟨rfl, rfl⟩
  | loop => simp [head?] at unheaded
  | define => simp [head?] at unheaded

theorem Fits.level_of_head? {inside : Bool} {command : Command} {head : BlockHead}
    (fits : command.Fits inside) (opens : command.head? = some head) :
    Level (head.defines || inside) command.body := by
  cases fits with
  | leaf => simp [head?] at opens
  | loop _ chain fits =>
    obtain rfl := Option.some.inj opens
    exact ⟨chain, fits⟩
  | define _ chain fits =>
    obtain rfl := Option.some.inj opens
    exact ⟨chain, fits⟩

theorem MayPrecede.flat_of_head? {command next : Command} {head : BlockHead}
    (may : command.MayPrecede next) (opens : command.head? = some head) :
    next.isLeaf = true ∧ EndsFlat command.body := by
  refine may.resolve_left fun leaf => ?_
  cases command <;> simp [head?, isLeaf] at opens leaf

theorem unplaced_block {command : Command} {head : BlockHead} {body : List Command}
    {location : Location} (opens : command.head? = some head)
    (same : unplacedAll body = unplacedAll command.body) :
    unplaced (head.command body location) = unplaced command := by
  cases command <;> simp only [Command.head?, Option.some.injEq, reduceCtorEq] at opens
  all_goals
    subst opens
    simp only [BlockHead.command, unplaced, same]
    rfl

end Command

namespace Reading

open Command

variable {file : String} {statements : Array String} {reading middle : Reading}

theorem lines_append {first second : List CodeLine}
    (read : reading.lines file statements first = .ok middle) :
    reading.lines file statements (first ++ second) = middle.lines file statements second := by
  induction first generalizing reading with
  | nil =>
    obtain rfl := Except.ok.inj read
    rfl
  | cons line first ih =>
    rw [Reading.lines] at read
    rw [List.cons_append, Reading.lines]
    cases followed : reading.line file statements line with
    | error fault => simp [followed] at read
    | ok next =>
      rw [followed] at read
      exact ih read

theorem finish_close (reading : Reading) : reading.close.finish = reading.finish := by
  obtain ⟨blocks, program⟩ := reading
  cases blocks with
  | nil => rfl
  | cons block outer => cases outer <;> rfl

theorem finish_iterate_close (count : Nat) (reading : Reading) :
    (close^[count] reading).finish = reading.finish := by
  induction count generalizing reading with
  | zero => rfl
  | succ count ih => rw [Function.iterate_succ_apply, ih, finish_close]

/-- A count is read back as it was written. -/
theorem count?_toString {count : Int} (isCount : IsCount count) (rest : List String) :
    count? (toString count :: rest) = .ok count := by
  obtain ⟨n, rfl⟩ := Int.eq_ofNat_of_zero_le isCount.nonneg
  have read : Number.readInteger (toString (n : Int)) = some (n : Int) :=
    Number.readInteger_toString isCount.few
  rw [count?, read]
  exact if_neg (Int.not_lt.mpr isCount.nonneg)

/-- The line of a command opens the block of the command again. -/
theorem head?_opening {inside : Bool} {command : Command} (fits : command.Fits inside)
    (outside : inside = false → insideOf reading.blocks = false) (indent : String)
    (number : Nat) :
    reading.head? ⟨indent, command.opening.1, command.opening.2, number⟩ =
      .ok command.head? := by
  cases fits with
  | leaf undefined unlooped =>
    dsimp only [Reading.head?, opening]
    rw [if_neg undefined, if_neg unlooped]
    rfl
  | loop isCount =>
    have read := count?_toString isCount []
    have undefined : loopKeyword ≠ definitionKeyword := by decide
    dsimp only [Reading.head?, opening]
    rw [if_neg undefined, if_pos rfl, read]
    rfl
  | define =>
    have unopened : isOpen definitionKeyword reading.keywords = false := by
      rw [isOpen_definition, outside rfl]
    dsimp only [Reading.head?, opening]
    rw [if_pos rfl, unopened]
    rfl

/-- The innermost block was opened further out than a depth. -/
def Clear (depth : Nat) (reading : Reading) : Prop :=
  ∀ block ∈ reading.blocks.head?, block.indent < 2 * depth

theorem closeFor_clear {depth : Nat} (clear : reading.Clear depth) :
    reading.closeFor (2 * depth) = reading := by
  unfold closeFor
  split
  · rfl
  · rename_i block outer same
    have bound := clear block (by rw [same]; rfl)
    exact if_neg (by omega)

theorem Clear.addAll {depth : Nat} (clear : reading.Clear depth) (commands : List Command) :
    (reading.addAll commands).Clear depth := by
  obtain ⟨blocks, program⟩ := reading
  cases blocks with
  | nil => exact clear
  | cons block outer =>
    intro other first
    obtain rfl := Option.some.inj first
    exact clear block rfl

theorem insideOf_addAll (commands : List Command) (reading : Reading) :
    insideOf (reading.addAll commands).blocks = insideOf reading.blocks := by
  obtain ⟨blocks, program⟩ := reading
  cases blocks <;> rfl

theorem addAll_nil (reading : Reading) : reading.addAll [] = reading := by
  obtain ⟨blocks, program⟩ := reading
  cases blocks <;> rfl

theorem close_addAll_openBlock (head : BlockHead) (location : Location) (indent : Nat)
    (body : List Command) (reading : Reading) :
    ((reading.openBlock head location indent).addAll body).close =
      reading.addAll [head.command body location] := by
  rw [Reading.openBlock, Reading.addAll, close_cons]
  simp [OpenBlock.command]

theorem closeFor_addAll_openBlock (head : BlockHead) (location : Location) (indent : Nat)
    (body : List Command) (reading : Reading) :
    ((reading.openBlock head location indent).addAll body).closeFor indent =
      ((reading.openBlock head location indent).addAll body).close :=
  if_pos (Nat.le_refl indent)

/-- What has been read of a text is some commands, except that blocks at the end of the text may
still be open. -/
def Reads (reading next : Reading) (commands : List Command) : Prop :=
  ∃ read count, unplacedAll read = unplacedAll commands ∧
    close^[count] next = reading.addAll read ∧ (EndsFlat commands → count = 0)

variable {next : Reading} {inside : Bool} {command : Command} {commands rest : List Command}
  {depth number : Nat}

theorem reads_nil : Reads reading reading [] :=
  ⟨[], 0, rfl, (addAll_nil reading).symm, fun _ => rfl⟩

theorem Reads.cons {read : Command} (same : unplaced read = unplaced command)
    (reads : Reads (reading.addAll [read]) next rest) : Reads reading next (command :: rest) := by
  obtain ⟨others, count, others_same, closed, flat⟩ := reads
  refine ⟨read :: others, count, ?_, ?_, fun whole => flat fun last ends => whole last ?_⟩
  · rw [unplacedAll, unplacedAll, same, others_same]
  · rw [closed, addAll_addAll, List.singleton_append]
  · rw [Option.mem_def] at ends ⊢
    rw [List.getLast?_cons, ends]
    rfl

/-- A block at the end of the commands may stay open. -/
theorem Reads.block {head : BlockHead} {location : Location} {indent : Nat}
    (opens : command.head? = some head)
    (reads : Reads (reading.openBlock head location indent) next command.body) :
    Reads reading next [command] := by
  obtain ⟨body, count, same, closed, _⟩ := reads
  refine ⟨[head.command body location], count + 1, ?_, ?_, fun flat => ?_⟩
  · simp only [unplacedAll, unplaced_block opens same]
  · rw [Function.iterate_succ_apply', closed, close_addAll_openBlock]
  · have leaf := flat command rfl
    cases command <;> simp [Command.head?, isLeaf] at opens leaf

theorem length_spaces (depth : Nat) : (spaces depth).length = 2 * depth := by
  simp [spaces]

theorem line_leaf (file : String) (statements : Array String) (depth number : Nat)
    (fits : command.Fits inside) (leaf : command.isLeaf = true) :
    ∃ read, unplaced read = unplaced command ∧
      ∀ reading : Reading, reading.line file statements
          ⟨spaces depth, command.opening.1, command.opening.2, number⟩ =
        .ok ((reading.closeFor (2 * depth)).addAll [read]) := by
  cases fits with
  | leaf undefined unlooped tokens =>
    rename_i op args at?
    refine ⟨.leaf op args (some ⟨file, number, statements.getD (number - 1) ""⟩), rfl, ?_⟩
    intro reading
    have fits : Command.Fits true (.leaf op args at?) := .leaf undefined unlooped tokens
    have unheaded : reading.head? ⟨spaces depth, op, args, number⟩ = .ok none :=
      head?_opening fits (fun wrong => absurd wrong (by decide)) _ _
    dsimp only [opening]
    rw [Reading.line, unheaded, length_spaces]
    exact congrArg Except.ok (add_eq_addAll _ _)
  | loop => simp [isLeaf] at leaf
  | define => simp [isLeaf] at leaf

theorem line_block {head : BlockHead} (fits : command.Fits inside)
    (outside : inside = false → insideOf reading.blocks = false)
    (opens : command.head? = some head) :
    ∃ location, reading.line file statements
        ⟨spaces depth, command.opening.1, command.opening.2, number⟩ =
      .ok (reading.openBlock head location (2 * depth)) := by
  have headed := head?_opening fits outside (spaces depth) number
  rw [opens] at headed
  exact ⟨_, by rw [Reading.line, headed, length_spaces]⟩

/-- A leaf that comes after a block closes the block. -/
theorem lines_leaf_close (fits : command.Fits inside) (leaf : command.isLeaf = true)
    (closes : reading.closeFor (2 * depth) = reading.close)
    (clear : reading.close.Clear depth) :
    reading.lines file statements (codeOf number (outlineFrom depth (command :: rest))) =
      reading.close.lines file statements
        (codeOf number (outlineFrom depth (command :: rest))) := by
  obtain ⟨read, _, line_eq⟩ := line_leaf file statements depth number fits leaf
  rw [outlineFrom, outlineAt_eq, List.cons_append, codeOf, Reading.lines, Reading.lines, line_eq,
    line_eq, closes, closeFor_clear clear]

/-- The text of commands is read back as these commands.  The induction is on the commands and on
their bodies; the blocks that are open around them do not matter, as long as they were opened
further out. -/
theorem lines_outlineFrom (level : Level inside commands)
    (outside : inside = false → insideOf reading.blocks = false) (clear : reading.Clear depth) :
    ∃ next, reading.lines file statements (codeOf number (outlineFrom depth commands)) = .ok next ∧
      Reads reading next commands := by
  induction commands using induction_on_bodies generalizing inside depth number reading with
  | nil => exact ⟨reading, rfl, reads_nil⟩
  | cons command rest ih_body ih_rest =>
    have here := level.fits command (List.mem_cons_self ..)
    have rest_level : Level inside rest :=
      ⟨level.chain.tail, fun other member => level.fits other (List.mem_cons_of_mem _ member)⟩
    rw [outlineFrom, outlineAt_eq, List.cons_append, codeOf, codeOf_append, Reading.lines]
    cases opens : command.head? with
    | none =>
      have leaf : command.isLeaf = true ∧ command.body = [] := here.leaf_of_head? opens
      obtain ⟨read, same, line_eq⟩ := line_leaf file statements depth number here leaf.1
      have outside' : inside = false → insideOf (reading.addAll [read]).blocks = false := by
        rw [insideOf_addAll]
        exact outside
      obtain ⟨next, followed, reads⟩ := ih_rest rest_level outside' (clear.addAll [read])
      refine ⟨next, ?_, reads.cons same⟩
      rw [line_eq, closeFor_clear clear, leaf.2]
      exact followed
    | some head =>
      obtain ⟨location, line_eq⟩ := line_block here outside opens
      rw [line_eq]
      dsimp only
      have outside' : (head.defines || inside) = false →
          insideOf (reading.openBlock head location (2 * depth)).blocks = false := by
        intro neither
        rw [Bool.or_eq_false_iff] at neither
        simp [Reading.openBlock, insideOf, neither.1]
        simpa [insideOf] using outside neither.2
      have clear' : (reading.openBlock head location (2 * depth)).Clear (depth + 1) := by
        intro block first
        obtain rfl := Option.some.inj first
        dsimp only
        omega
      obtain ⟨middle, followed, reads⟩ := ih_body (here.level_of_head? opens) outside' clear'
      rw [lines_append followed]
      cases rest with
      | nil => exact ⟨middle, rfl, reads.block opens⟩
      | cons follower others =>
        -- The follower is a leaf, which closes the block, and nothing is open in the body by then.
        obtain ⟨leaf, flat⟩ := (List.isChain_cons_cons.mp level.chain).1.flat_of_head? opens
        obtain ⟨body, count, same, closed, settled⟩ := reads
        rw [settled flat, Function.iterate_zero_apply] at closed
        subst closed
        have closes := closeFor_addAll_openBlock head location (2 * depth) body reading
        have after := close_addAll_openBlock head location (2 * depth) body reading
        have clear_after := clear.addAll [head.command body location]
        have outside_after : inside = false →
            insideOf (reading.addAll [head.command body location]).blocks = false := by
          rw [insideOf_addAll]
          exact outside
        obtain ⟨next, followed', reads'⟩ :=
          ih_rest rest_level outside_after clear_after
        refine ⟨next, ?_, reads'.cons (unplaced_block opens same)⟩
        have follower_fits := rest_level.fits follower (List.mem_cons_self ..)
        rw [lines_leaf_close follower_fits leaf closes (after ▸ clear_after), after]
        exact followed'

end Reading

open Command

/-- A program that fits the grammar is read back from its own text. -/
theorem parse_written {program : List Command} (represented : Representable program)
    (file : String) :
    ∃ read, parse file (written program) = .ok read ∧ unplacedAll read = unplacedAll program := by
  have outside : false = false → insideOf Reading.start.blocks = false := fun _ => rfl
  have clear : Reading.start.Clear 0 := fun _ first => absurd first (by simp [Reading.start])
  obtain ⟨next, followed, read, count, same, closed, _⟩ :
      ∃ next, Reading.start.lines file (statements (written program))
          (codeOf 1 (outline program)) = .ok next ∧ Reading.Reads Reading.start next program :=
    Reading.lines_outlineFrom represented outside clear
  refine ⟨read, ?_, same⟩
  have finished : next.finish = read := by
    rw [← Reading.finish_iterate_close count, closed]
    simp [Reading.addAll, Reading.start, Reading.finish, Reading.closeAll]
  unfold parse
  rw [ofText_written represented]
  simp only [bind, Except.bind, followed, finished]
  rfl

/-- The programs that texts write are those that fit the grammar: what is read from a text always
fits it, and what fits it is read back from its own text, only with the places of that text. -/
theorem parses_representable :
    (∀ file source program, parse file source = .ok program → Representable program) ∧
      ∀ file program, Representable program →
        ∃ read, parse file (written program) = .ok read ∧
          unplacedAll read = unplacedAll program :=
  ⟨fun _ _ _ => representable_of_parse, fun file _ represented => parse_written represented file⟩

/-- Two loops, the inner one with nothing in it, with a leaf after each. -/
theorem nested_parses :
    ∃ program, parse "" "REPEAT 2\n\trepeat 3\n\tFD 10\nPU" = .ok program ∧
      (outline program).map Prod.fst = [0, 1, 1, 0] ∧ Representable program ∧
      ∃ read, parse "" (written program) = .ok read ∧
        unplacedAll read = unplacedAll program := by
  have facts : (match parse "" "REPEAT 2\n\trepeat 3\n\tFD 10\nPU" with
      | .ok program => decide ((outline program).map Prod.fst = [0, 1, 1, 0])
      | .error _ => false) = true := by
    decide +kernel
  split at facts
  · rename_i program parsed
    have represented := parses_representable.1 "" _ program parsed
    exact ⟨program, parsed, of_decide_eq_true facts, represented,
      parses_representable.2 "" program represented⟩
  · exact absurd facts Bool.false_ne_true

end Turtle
