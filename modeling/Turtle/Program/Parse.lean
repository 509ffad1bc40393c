import Turtle.Number.Integer
import Turtle.Program.CodeLine
import Turtle.Program.Command

/-!
# Programs from text

A program is read from its lines of code with a stack of open blocks, innermost first.  A line that
opens a block always opens it inside the innermost one; only the line of a leaf closes a block, the
innermost, and one at most, when it is not indented further than the line that opened that block.
Blocks that no line closes end with the text.
-/

set_option autoImplicit false

namespace Turtle

def definitionKeyword : String := "to"

def loopKeyword : String := "repeat"

inductive BlockHead where
  | loop (count : Int)
  | define (name : String) (params : List String)
deriving Repr, DecidableEq

def BlockHead.keyword : BlockHead → String
  | loop _ => loopKeyword
  | define _ _ => definitionKeyword

def BlockHead.command (body : List Command) (location : Location) : BlockHead → Command
  | loop count => .loop count body (some location)
  | define name params => .define name params body (some location)

/-- An open block: how it was opened, the width of the indentation there, and the commands of its
body so far, last first. -/
structure OpenBlock where
  head : BlockHead
  location : Location
  indent : Nat
  body : List Command
deriving Repr

def OpenBlock.command (block : OpenBlock) : Command :=
  block.head.command block.body.reverse block.location

/-- Whether a block with a keyword is open, among the keywords of the open blocks. The program
itself is a block without a keyword. -/
def isOpen (keyword : String) (keywords : List (Option String)) : Bool :=
  keywords.contains (some keyword)

/-- The keyword of the innermost of the open blocks, which are listed from the outside in. -/
def innermost? (keywords : List (Option String)) : Option (Option String) :=
  keywords.getLast?

/-- A program that is being read: the open blocks, innermost first, and the commands outside all
blocks, last first. -/
structure Reading where
  blocks : List OpenBlock
  program : List Command
deriving Repr

namespace Reading

def start : Reading := ⟨[], []⟩

/-- The keywords of the open blocks, from the program itself inwards. -/
def keywords (reading : Reading) : List (Option String) :=
  none :: reading.blocks.reverse.map fun block => some block.head.keyword

def add (command : Command) (reading : Reading) : Reading :=
  match reading.blocks with
  | [] => { reading with program := command :: reading.program }
  | block :: outer =>
    { reading with blocks := { block with body := command :: block.body } :: outer }

def close (reading : Reading) : Reading :=
  match reading.blocks with
  | [] => reading
  | block :: outer => ({ reading with blocks := outer } : Reading).add block.command

/-- Ends the innermost block before a leaf that is not indented further than its first line. -/
def closeFor (indent : Nat) (reading : Reading) : Reading :=
  match reading.blocks with
  | [] => reading
  | block :: _ => if indent ≤ block.indent then reading.close else reading

def openBlock (head : BlockHead) (location : Location) (indent : Nat) (reading : Reading) :
    Reading :=
  { reading with blocks := ⟨head, location, indent, []⟩ :: reading.blocks }

def count? : List String → Except ParseDefect Int
  | [] => .error .missingCount
  | word :: _ =>
    match Number.readInteger word with
    | none => .error (.badCount word)
    | some count => if count < 0 then .error .negativeCount else .ok count

/-- What a line opens, if its first word opens a block. -/
def head? (reading : Reading) (line : CodeLine) : Except ParseDefect (Option BlockHead) :=
  if line.keyword = definitionKeyword then
    if isOpen definitionKeyword reading.keywords then .error .nestedDefinition
    else
      match line.rest with
      | [] => .error .missingName
      | name :: params => .ok (some (.define name params))
  else if line.keyword = loopKeyword then
    (count? line.rest).map fun count => some (.loop count)
  else .ok none

/-- Reads one line of code. The statements are the lines of the text. -/
def line (file : String) (statements : Array String) (reading : Reading) (line : CodeLine) :
    Except ParseFault Reading :=
  let location : Location := ⟨file, line.number, statements.getD (line.number - 1) ""⟩
  match reading.head? line with
  | .error defect => .error ⟨defect, file, line.number⟩
  | .ok (some head) => .ok (reading.openBlock head location line.indent.length)
  | .ok none =>
    .ok ((reading.closeFor line.indent.length).add (.leaf line.keyword line.rest (some location)))

def lines (file : String) (statements : Array String) (reading : Reading) :
    List CodeLine → Except ParseFault Reading
  | [] => .ok reading
  | line :: rest =>
    match reading.line file statements line with
    | .error fault => .error fault
    | .ok next => next.lines file statements rest

/-- Ends blocks from the innermost out, and puts each at the end of the one around it.  What ended
last is given first. -/
def closeAll (inner program : List Command) : List OpenBlock → List Command
  | [] => inner ++ program
  | block :: outer =>
    closeAll [{ block with body := inner ++ block.body : OpenBlock }.command] program outer

def finish (reading : Reading) : List Command :=
  (closeAll [] reading.program reading.blocks).reverse

end Reading

def statements (source : String) : Array String :=
  ((Text.lines source).map Text.strip).toArray

/-- The program that a text writes.  Keywords, operators and arguments are lowered, and a command
keeps its line as it was written. -/
def parse (file source : String) : Except ParseFault (List Command) := do
  let code ← CodeLine.ofText file (Text.lower source)
  let reading ← Reading.start.lines file (statements source) code
  return reading.finish

end Turtle
