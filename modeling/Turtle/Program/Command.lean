import Turtle.Number.Integer
import Turtle.Text.Quoted

/-!
# Commands

A program is a list of commands.  A leaf is an operator with its arguments, still as they were
written; a loop runs its body a number of times; a definition gives a body a name and parameters.
A body that was put together by hand may also hold something that is no command, of which only the
printed form is kept, if it has one.  What holds a number of too many digits has none.

The outline of a list of commands shows it flat: every command once, before those of its body, with
its depth.
-/

set_option autoImplicit false

namespace Turtle

/-- The place of a command in a source text, and its line as it was written. -/
structure Location where
  file : String
  line : Int
  statement : String
deriving Repr, DecidableEq

/-- A command of a program. -/
inductive Command where
  | leaf (op : String) (args : List String) (at? : Option Location)
  | loop (count : Int) (body : List Command) (at? : Option Location)
  | define (name : String) (params : List String) (body : List Command) (at? : Option Location)
  | stray (shown? : Option String)
deriving Repr, Inhabited

namespace Command

/-- The place of a command, if it is known. -/
def location? : Command → Option Location
  | leaf _ _ at? => at?
  | loop _ _ at? => at?
  | define _ _ _ at? => at?
  | stray _ => none

/-- The printed form of nothing at all. -/
def absentText : String := "None"

/-- Nothing at all was put in the place of a command. -/
def isAbsent : Command → Bool
  | stray shown? => shown? = some absentText
  | _ => false

/-- A command that defines a procedure. -/
def isDefinition : Command → Bool
  | define _ _ _ _ => true
  | _ => false

/-- Items between two marks, with commas between them. -/
def enclosed (first last : String) (items : List String) : String :=
  first ++ String.intercalate ", " items ++ last

def shownTexts (texts : List String) : String :=
  enclosed "[" "]" (texts.map Text.quoted)

mutual

/-- A command in full, as a message shows it. -/
def shown? : Command → Option String
  | leaf op args _ => some ("Leaf(op=" ++ Text.quoted op ++ ", args=" ++ shownTexts args ++ ")")
  | loop count body _ => do
    let number ← Number.writeInteger count
    let items ← shownAll? body
    return "Repeat(count=" ++ number ++ ", body=" ++ enclosed "[" "]" items ++ ")"
  | define name params body _ => do
    let items ← shownAll? body
    return "ProcedureDef(name=" ++ Text.quoted name ++ ", params=" ++ shownTexts params ++
      ", body=" ++ enclosed "[" "]" items ++ ")"
  | stray shown? => shown?

def shownAll? : List Command → Option (List String)
  | [] => some []
  | command :: rest => do return (← shown? command) :: (← shownAll? rest)

end

/-- A command in short, as a trace or a stack shows it: a leaf is a line of program, and a command
with a body is the line that opens it, without parameters. -/
def describe? : Command → Option String
  | leaf op args _ => some (String.intercalate " " (op :: args))
  | loop count _ _ => (Number.writeInteger count).map ("repeat " ++ ·)
  | define name _ _ _ => some ("to " ++ name)
  | stray shown? => shown?

mutual

/-- The outline of a command at a depth. -/
def outlineAt (depth : Nat) : Command → List (Nat × Command)
  | leaf op args at? => [(depth, leaf op args at?)]
  | loop count body at? => (depth, loop count body at?) :: outlineFrom (depth + 1) body
  | define name params body at? =>
    (depth, define name params body at?) :: outlineFrom (depth + 1) body
  | stray shown? => [(depth, stray shown?)]

def outlineFrom (depth : Nat) : List Command → List (Nat × Command)
  | [] => []
  | command :: rest => outlineAt depth command ++ outlineFrom depth rest

end

def outline (program : List Command) : List (Nat × Command) :=
  outlineFrom 0 program

theorem outlineFrom_append (depth : Nat) (first second : List Command) :
    outlineFrom depth (first ++ second) =
      outlineFrom depth first ++ outlineFrom depth second := by
  induction first with
  | nil => rfl
  | cons command rest ih =>
    rw [List.cons_append, outlineFrom, outlineFrom, ih, List.append_assoc]

end Command

end Turtle
