import Mathlib.Data.List.Chain
import Turtle.Program.Parse
import Turtle.Proofs.Numerals

/-!
# The grammar of programs

Which programs a text can write.  A block that is opened inside another one is closed by the line of
a leaf only, and such a line closes no more than one block.  So what comes after a block in a body
has to be a leaf, and by then nothing may be open inside of that block.
-/

set_option autoImplicit false

namespace Turtle

/-- A word of a line of code: it is not empty, it has no blank and it is in lower case. -/
structure IsToken (word : String) : Prop where
  nonempty : word ≠ ""
  visible : ∀ c ∈ word.toList, Text.isBlank c = false
  lowered : Text.lower word = word

namespace Command

def isLeaf : Command → Bool
  | leaf _ _ _ => true
  | _ => false

def body : Command → List Command
  | loop _ body _ => body
  | define _ _ body _ => body
  | _ => []

theorem sizeOf_body_le (command : Command) : sizeOf command.body ≤ sizeOf command := by
  cases command <;> simp [body] <;> omega

/-- What holds of no commands, and of a command with others if it holds of its body and of the
others, holds of all commands. -/
@[elab_as_elim]
theorem induction_on_bodies {motive : List Command → Prop} (nil : motive [])
    (cons : ∀ command rest, motive command.body → motive rest → motive (command :: rest)) :
    ∀ commands, motive commands
  | [] => nil
  | command :: rest =>
    cons command rest (induction_on_bodies nil cons command.body)
      (induction_on_bodies nil cons rest)
termination_by commands => sizeOf commands
decreasing_by
  · have smaller := sizeOf_body_le command
    simp only [List.cons.sizeOf_spec]
    omega
  · simp only [List.cons.sizeOf_spec]
    omega

/-- Nothing is open at the end of a body: it is empty, or it ends in a leaf. -/
def EndsFlat (body : List Command) : Prop :=
  ∀ last ∈ body.getLast?, last.isLeaf = true

/-- A command may stand right before another one in a body. -/
def MayPrecede (command next : Command) : Prop :=
  command.isLeaf = true ∨ next.isLeaf = true ∧ EndsFlat command.body

/-- A text can write a count: it is not negative, and it does not have too many digits. -/
structure IsCount (count : Int) : Prop where
  nonneg : 0 ≤ count
  few : count.toNat < 10 ^ Number.maxIntegerDigits

/-- A text can write a command, inside of a definition or outside of all. -/
inductive Fits : (inside : Bool) → Command → Prop where
  | leaf {inside : Bool} {op : String} {args : List String} {at? : Option Location} :
    op ≠ definitionKeyword → op ≠ loopKeyword → (∀ word ∈ op :: args, IsToken word) →
      Fits inside (.leaf op args at?)
  | loop {inside : Bool} {count : Int} {body : List Command} {at? : Option Location} :
    IsCount count → body.IsChain MayPrecede → (∀ command ∈ body, Fits inside command) →
      Fits inside (.loop count body at?)
  | define {name : String} {params : List String} {body : List Command}
    {at? : Option Location} :
    (∀ word ∈ name :: params, IsToken word) → body.IsChain MayPrecede →
      (∀ command ∈ body, Fits true command) → Fits false (.define name params body at?)

/-- The commands fit, and they may stand one after another. -/
structure Level (inside : Bool) (body : List Command) : Prop where
  chain : body.IsChain MayPrecede
  fits : ∀ command ∈ body, command.Fits inside

/-- A text can write the program. -/
def Representable (program : List Command) : Prop :=
  Level false program

variable {inside : Bool} {body more : List Command} {command : Command}

theorem endsFlat_append (first : EndsFlat body) (second : EndsFlat more) :
    EndsFlat (body ++ more) := by
  intro last ends
  rw [Option.mem_def, List.getLast?_append] at ends
  cases found : more.getLast? with
  | none =>
    rw [found] at ends
    exact first last ends
  | some other =>
    rw [found] at ends
    exact second last (found.trans ends)

theorem level_nil : Level inside [] :=
  ⟨.nil, fun _ member => absurd member List.not_mem_nil⟩

theorem level_singleton (fits : command.Fits inside) : Level inside [command] := by
  refine ⟨.singleton command, fun other member => ?_⟩
  rwa [List.mem_singleton.mp member]

/-- Anything may come after commands that end in a leaf. -/
theorem Level.append (first : Level inside body) (flat : EndsFlat body)
    (second : Level inside more) : Level inside (body ++ more) := by
  refine ⟨List.isChain_append.mpr ⟨first.chain, second.chain, ?_⟩, ?_⟩
  · exact fun last ends _ _ => Or.inl (flat last ends)
  · intro command member
    rcases List.mem_append.mp member with earlier | later
    · exact first.fits command earlier
    · exact second.fits command later

end Command

namespace BlockHead

open Command

def defines : BlockHead → Bool
  | define _ _ => true
  | loop _ => false

/-- A line can open a block, inside of a definition or outside of all. -/
inductive Fits : (inside : Bool) → BlockHead → Prop where
  | loop {inside : Bool} {count : Int} : IsCount count → Fits inside (.loop count)
  | define {name : String} {params : List String} :
    (∀ word ∈ name :: params, IsToken word) → Fits false (.define name params)

variable {head : BlockHead} {inside : Bool} {body : List Command} {location : Location}

theorem keyword_eq_definition : head.keyword = definitionKeyword ↔ head.defines = true := by
  cases head <;> simp [keyword, definitionKeyword, loopKeyword, defines]

theorem Fits.command (fits : head.Fits inside) (level : Level (head.defines || inside) body) :
    (head.command body location).Fits inside := by
  cases fits with
  | loop isCount => exact .loop isCount level.chain level.fits
  | define tokens => exact .define tokens level.chain level.fits

@[simp] theorem command_body : (head.command body location).body = body := by
  cases head <;> rfl

end BlockHead

/-- A body inside of these blocks is inside of a definition. -/
def insideOf (blocks : List OpenBlock) : Bool :=
  blocks.any fun block => block.head.defines

/-- The blocks have been opened where they fit, and so have the commands that they hold so far,
which end in a leaf each time. -/
def BlocksFit : List OpenBlock → Prop
  | [] => True
  | block :: outer =>
    block.head.Fits (insideOf outer) ∧
      Command.Level (insideOf (block :: outer)) block.body.reverse ∧
      Command.EndsFlat block.body.reverse ∧ BlocksFit outer

namespace Reading

open Command

variable {file : String} {statements : Array String} {reading next : Reading}

/-- Adds commands one after another. -/
def addAll (commands : List Command) (reading : Reading) : Reading :=
  match reading.blocks with
  | [] => { reading with program := commands.reverse ++ reading.program }
  | block :: outer =>
    { reading with blocks := { block with body := commands.reverse ++ block.body } :: outer }

theorem add_eq_addAll (command : Command) (reading : Reading) :
    reading.add command = reading.addAll [command] := by
  obtain ⟨blocks, program⟩ := reading
  cases blocks <;> rfl

theorem addAll_addAll (first second : List Command) (reading : Reading) :
    (reading.addAll first).addAll second = reading.addAll (first ++ second) := by
  obtain ⟨blocks, program⟩ := reading
  cases blocks <;> simp [addAll]

theorem close_cons (block : OpenBlock) (outer : List OpenBlock) (program : List Command) :
    close ⟨block :: outer, program⟩ = addAll [block.command] ⟨outer, program⟩ :=
  add_eq_addAll _ _

/-- What has been read so far fits, and it ends in a leaf wherever something may be added. -/
structure Fits (reading : Reading) : Prop where
  blocks : BlocksFit reading.blocks
  level : Level false reading.program.reverse
  flat : EndsFlat reading.program.reverse

theorem isOpen_definition :
    isOpen definitionKeyword reading.keywords = insideOf reading.blocks := by
  rw [Bool.eq_iff_iff]
  simp [isOpen, keywords, insideOf, BlockHead.keyword_eq_definition]

theorem Fits.addAll (fits : reading.Fits) {commands : List Command}
    (level : Level (insideOf reading.blocks) commands) (flat : EndsFlat commands) :
    (reading.addAll commands).Fits := by
  obtain ⟨blocks, program⟩ := reading
  obtain ⟨blocks_fit, outer_level, outer_flat⟩ := fits
  cases blocks with
  | nil =>
    refine ⟨blocks_fit, ?_, ?_⟩
    · simpa [Reading.addAll] using outer_level.append outer_flat level
    · simpa [Reading.addAll] using endsFlat_append outer_flat flat
  | cons block outer =>
    obtain ⟨head_fits, block_level, block_flat, outer_fit⟩ := blocks_fit
    refine ⟨⟨head_fits, ?_, ?_, outer_fit⟩, outer_level, outer_flat⟩
    · change Level (insideOf (block :: outer)) (commands.reverse ++ block.body).reverse
      simpa using block_level.append block_flat level
    · simpa using endsFlat_append block_flat flat

theorem Fits.openBlock (fits : reading.Fits) {head : BlockHead}
    (head_fits : head.Fits (insideOf reading.blocks)) (location : Location) (indent : Nat) :
    (reading.openBlock head location indent).Fits :=
  ⟨⟨head_fits, level_nil, fun _ ends => absurd ends (by simp), fits.blocks⟩, fits.level, fits.flat⟩

/-- The line of a leaf adds the leaf, after the block that it has closed, if it has closed one. -/
theorem Fits.leaf (fits : reading.Fits) {leaf : Command}
    (leaf_fits : ∀ inside, leaf.Fits inside) (isLeaf : leaf.isLeaf = true) (indent : Nat) :
    ((reading.closeFor indent).add leaf).Fits := by
  have flat : EndsFlat [leaf] := by simpa [EndsFlat] using isLeaf
  obtain ⟨blocks, program⟩ := reading
  cases blocks with
  | nil =>
    rw [closeFor, add_eq_addAll]
    exact fits.addAll (level_singleton (leaf_fits _)) flat
  | cons block outer =>
    simp only [closeFor]
    split
    · obtain ⟨⟨head_fits, block_level, block_flat, outer_fit⟩, level, flat_program⟩ := fits
      have outside : Fits ⟨outer, program⟩ := ⟨outer_fit, level, flat_program⟩
      have block_fits : block.command.Fits (insideOf outer) := head_fits.command block_level
      have both : Level (insideOf outer) [block.command, leaf] := by
        refine ⟨.cons_cons (Or.inr ⟨isLeaf, ?_⟩) (.singleton leaf), ?_⟩
        · rw [OpenBlock.command, BlockHead.command_body]
          exact block_flat
        · simpa using ⟨block_fits, leaf_fits _⟩
      rw [close_cons, add_eq_addAll, addAll_addAll]
      exact outside.addAll both (by simpa [EndsFlat] using isLeaf)
    · rw [add_eq_addAll]
      exact fits.addAll (level_singleton (leaf_fits _)) flat

theorem isCount_of_count? {words : List String} {count : Int} (read : count? words = .ok count) :
    Command.IsCount count := by
  cases words with
  | nil => simp [count?] at read
  | cons word rest =>
    rw [count?] at read
    split at read
    · simp at read
    · rename_i readable
      split at read
      · simp at read
      · rename_i positive
        obtain rfl := Except.ok.inj read
        have few := Number.natAbs_of_readInteger readable
        exact ⟨Int.not_lt.mp positive, by omega⟩

theorem keyword_of_head? {line : CodeLine} (read : reading.head? line = .ok none) :
    line.keyword ≠ definitionKeyword ∧ line.keyword ≠ loopKeyword := by
  rw [head?] at read
  split at read
  · split at read
    · simp at read
    · split at read <;> simp at read
  · rename_i undefined
    split at read
    · cases counted : count? line.rest <;> simp [counted, Except.map] at read
    · rename_i unlooped
      exact ⟨undefined, unlooped⟩

theorem fits_of_head? {line : CodeLine} {head : BlockHead}
    (tokens : ∀ word ∈ line.keyword :: line.rest, IsToken word)
    (read : reading.head? line = .ok (some head)) : head.Fits (insideOf reading.blocks) := by
  rw [head?] at read
  split at read
  · split at read
    · simp at read
    · rename_i unopened
      rw [isOpen_definition, Bool.not_eq_true] at unopened
      split at read
      · simp at read
      · rename_i name params words
        obtain rfl := Option.some.inj (Except.ok.inj read)
        rw [unopened]
        exact .define fun word member => tokens word (words ▸ List.mem_cons_of_mem _ member)
  · split at read
    · cases counted : count? line.rest with
      | error defect => simp [counted, Except.map] at read
      | ok count =>
        rw [counted] at read
        obtain rfl := Option.some.inj (Except.ok.inj read)
        exact .loop (isCount_of_count? counted)
    · simp at read

theorem Fits.line (fits : reading.Fits) {line : CodeLine}
    (tokens : ∀ word ∈ line.keyword :: line.rest, IsToken word)
    (read : reading.line file statements line = .ok next) : next.Fits := by
  rw [Reading.line] at read
  cases found : reading.head? line with
  | error defect => simp [found] at read
  | ok head? =>
    rw [found] at read
    cases head? with
    | none =>
      obtain rfl := Except.ok.inj read
      obtain ⟨undefined, unlooped⟩ := keyword_of_head? found
      exact fits.leaf (fun _ => .leaf undefined unlooped tokens) rfl _
    | some head =>
      obtain rfl := Except.ok.inj read
      exact fits.openBlock (fits_of_head? tokens found) _ _

theorem Fits.lines (fits : reading.Fits) {code : List CodeLine}
    (tokens : ∀ line ∈ code, ∀ word ∈ line.keyword :: line.rest, IsToken word)
    (read : reading.lines file statements code = .ok next) : next.Fits := by
  induction code generalizing reading with
  | nil =>
    obtain rfl := Except.ok.inj read
    exact fits
  | cons line code ih =>
    rw [Reading.lines] at read
    split at read
    · contradiction
    · rename_i middle first
      have middle_fits := fits.line (tokens line (List.mem_cons_self ..)) first
      exact ih middle_fits (fun line member => tokens line (List.mem_cons_of_mem _ member)) read

theorem level_closeAll {inner program : List Command} {blocks : List OpenBlock}
    (fits : BlocksFit blocks) (level : Level false program.reverse)
    (flat : EndsFlat program.reverse) (inner_level : Level (insideOf blocks) inner.reverse) :
    Level false (closeAll inner program blocks).reverse := by
  induction blocks generalizing inner with
  | nil => simpa [closeAll] using level.append flat inner_level
  | cons block outer ih =>
    obtain ⟨head_fits, block_level, block_flat, outer_fit⟩ := fits
    have whole := block_level.append block_flat inner_level
    rw [← List.reverse_append] at whole
    exact ih outer_fit (level_singleton (head_fits.command whole))

theorem Fits.finish (fits : reading.Fits) : Representable reading.finish :=
  level_closeAll fits.blocks fits.level fits.flat level_nil

end Reading

end Turtle
