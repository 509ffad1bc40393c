import Turtle.Text.Blank
import Turtle.Text.Lowercase

/-!
# Lines of code

A source text is read line by line.  A line without a word says nothing; any other line is code,
with the number of its line, its indentation and its words.  A line that mixes tabs and spaces in
front is refused, even where it says nothing.
-/

set_option autoImplicit false

namespace Turtle

/-- What makes a program unreadable. -/
inductive ParseDefect where
  | mixedIndentation
  | nestedDefinition
  | missingName
  | missingCount
  | badCount (found : String)
  | negativeCount
deriving Repr, DecidableEq

/-- A defect with its place. -/
structure ParseFault where
  defect : ParseDefect
  file : String
  line : Int
deriving Repr, DecidableEq

def ParseDefect.message : ParseDefect → String
  | mixedIndentation => "Inconsistent indentation: both tabs and spaces found"
  | nestedDefinition => "Already defining a procedure"
  | missingName => "Procedure definition has no name"
  | missingCount => "Repeat expects a number as its first argument"
  | badCount found => "Repeat expects a number as its first argument but found '" ++ found ++ "'"
  | negativeCount => "Repeat count must not be negative"

def ParseFault.message (fault : ParseFault) : String :=
  fault.defect.message ++ " at " ++ fault.file ++ ":" ++ toString fault.line

/-- A character that indents. -/
def isIndent (c : Char) : Bool :=
  c = ' ' || c = '\t'

/-- The tabs or spaces in front of a line, unless it has both. -/
def indentation? (line : List Char) : Option (List Char) :=
  let front := line.takeWhile isIndent
  if front.contains ' ' && front.contains '\t' then none else some front

/-- The indentation of a line with a number. -/
def indentation (file : String) (number : Int) (line : String) : Except ParseFault String :=
  match indentation? line.toList with
  | some front => .ok (String.ofList front)
  | none => .error ⟨.mixedIndentation, file, number⟩

/-- A line of code: its indentation, its first word and the others, and its number. -/
structure CodeLine where
  indent : String
  keyword : String
  rest : List String
  number : Nat
deriving Repr, DecidableEq

/-- The lines of code among the lines of a text, which are numbered from `number` on. -/
def CodeLine.ofLines (file : String) (number : Nat) :
    List String → Except ParseFault (List CodeLine)
  | [] => .ok []
  | line :: others => do
    let indent ← indentation file number line
    let code ← CodeLine.ofLines file (number + 1) others
    match Text.words line with
    | [] => return code
    | keyword :: rest => return ⟨indent, keyword, rest, number⟩ :: code

/-- The lines of code of a text. -/
def CodeLine.ofText (file text : String) : Except ParseFault (List CodeLine) :=
  CodeLine.ofLines file 1 (Text.lines text)

end Turtle
