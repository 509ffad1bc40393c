import Turtle.Text.Quoted

/-!
# JSON documents

JSON written in ASCII over several lines: each item of a list and each member of an object on a
line of its own, two blanks further in than what holds it, and an empty list or object in one piece.
-/

set_option autoImplicit false

namespace Turtle.Text

/-- A JSON document of the kinds that are written here. -/
inductive Json where
  | null
  | number (n : Int)
  | text (s : String)
  | list (items : List Json)
  | object (members : List (String × Json))
deriving Inhabited

namespace Json

/-- The escape of a unit of sixteen bits. -/
def unitEscape (unit : Nat) : List Char :=
  backslash :: 'u' :: hexDigits 4 unit

/-- The form of a character in a string.  Beyond the printed ASCII it is escaped, as a pair of
surrogates where one unit is not enough. -/
def escaped (c : Char) : List Char :=
  if c = doubleQuote || c = backslash then [backslash, c]
  else if c = '\n' then [backslash, 'n']
  else if c = '\r' then [backslash, 'r']
  else if c = '\t' then [backslash, 't']
  else if c.toNat = 0x08 then [backslash, 'b']
  else if c.toNat = 0x0C then [backslash, 'f']
  else if c.toNat < 0x20 then unitEscape c.toNat
  else if c.toNat < 0x7F then [c]
  else if c.toNat < 0x10000 then unitEscape c.toNat
  else
    let above := c.toNat - 0x10000
    unitEscape (0xD800 + above / 0x400) ++ unitEscape (0xDC00 + above % 0x400)

def string (s : String) : String :=
  String.ofList (doubleQuote :: s.toList.flatMap escaped ++ [doubleQuote])

/-- A line break with an indentation after it. -/
def newline (depth : Nat) : String :=
  String.ofList ('\n' :: List.replicate (2 * depth) ' ')

/-- Parts between marks, each part on a line of its own at a depth. -/
def block (first last : String) (depth : Nat) : List String → String
  | [] => first ++ last
  | parts =>
    first ++ newline (depth + 1) ++ String.intercalate ("," ++ newline (depth + 1)) parts ++
      newline depth ++ last

mutual

def writeAt (depth : Nat) : Json → String
  | null => "null"
  | number n => toString n
  | text s => string s
  | list items => block "[" "]" depth (writeItems (depth + 1) items)
  | object members => block "\x7b" "\x7d" depth (writeMembers (depth + 1) members)

def writeItems (depth : Nat) : List Json → List String
  | [] => []
  | item :: rest => writeAt depth item :: writeItems depth rest

def writeMembers (depth : Nat) : List (String × Json) → List String
  | [] => []
  | (name, value) :: rest => (string name ++ ": " ++ writeAt depth value) :: writeMembers depth rest

end

def write (document : Json) : String :=
  document.writeAt 0

end Json

end Turtle.Text
