import Turtle.Number.Shortest
import Turtle.Program.Command
import Turtle.Text.Blank
import Turtle.Text.Lowercase

/-!
# Values

What a program is cued with may be commands, or loose lists of an operator and its arguments; the
arguments of a call may be of any kind.  A value has a printed form, in which texts are quoted, and
a written form, which is the token it becomes in a command; but it has neither if it holds a whole
number of too many digits.
-/

set_option autoImplicit false

namespace Turtle

/-- A value that is handed to the turtle from outside. -/
inductive Value where
  | text (s : String)
  | whole (n : Int)
  | real (x : Float)
  | truth (b : Bool)
  | absent
  | list (items : List Value)
  | tuple (items : List Value)
  | pairs (entries : List (Value × Value))
  | command (c : Command)
deriving Inhabited

namespace Value

/-- The printed form of a tuple; a single item is followed by a comma. -/
def tupleShown : List String → String
  | [item] => "(" ++ item ++ ",)"
  | items => Command.enclosed "(" ")" items

mutual

def shown? : Value → Option String
  | text s => some (Text.quoted s)
  | whole n => Number.writeInteger n
  | real x => some (Number.shortestText x)
  | truth b => some (if b then "True" else "False")
  | absent => some Command.absentText
  | list items => (shownAll? items).map (Command.enclosed "[" "]")
  | tuple items => (shownAll? items).map tupleShown
  | pairs entries => (shownEntries? entries).map (Command.enclosed "\x7b" "\x7d")
  | command c => c.shown?

def shownAll? : List Value → Option (List String)
  | [] => some []
  | value :: rest => do return (← shown? value) :: (← shownAll? rest)

def shownEntries? : List (Value × Value) → Option (List String)
  | [] => some []
  | (key, value) :: rest => do
    return ((← shown? key) ++ ": " ++ (← shown? value)) :: (← shownEntries? rest)

end

/-- The written form of a value: a text is itself, and anything else its printed form. -/
def written? : Value → Option String
  | text s => some s
  | value => value.shown?

/-- The written forms of some values, if all of them have one. -/
def tokens? : List Value → Option (List String)
  | [] => some []
  | value :: rest => do return (← written? value) :: (← tokens? rest)

theorem tokens?_eq_none_iff (values : List Value) :
    tokens? values = none ↔ ∃ value ∈ values, value.written? = none := by
  induction values with
  | nil => simp [tokens?]
  | cons value rest ih =>
    cases first : value.written? with
    | none => simp [tokens?, first]
    | some token => cases others : tokens? rest <;> simp_all [tokens?]

theorem tokens?_cons_eq_some {value : Value} {rest : List Value} {tokens : List String}
    (written : tokens? (value :: rest) = some tokens) :
    ∃ token others, value.written? = some token ∧ tokens? rest = some others ∧
      tokens = token :: others := by
  rw [tokens?] at written
  obtain ⟨token, first, written⟩ := Option.bind_eq_some_iff.mp written
  obtain ⟨others, later, same⟩ := Option.bind_eq_some_iff.mp written
  exact ⟨token, others, first, later, (Option.some.inj same).symm⟩

/-- The tokens of some values are their written forms, one by one. -/
theorem getElem?_of_tokens? {values : List Value} {tokens : List String}
    (written : tokens? values = some tokens) (position : Nat) :
    tokens[position]? = values[position]?.bind written? := by
  induction values generalizing tokens position with
  | nil =>
    obtain rfl := Option.some.inj written
    simp
  | cons value rest ih =>
    obtain ⟨token, others, first, later, rfl⟩ := tokens?_cons_eq_some written
    cases position with
    | zero => simp [first]
    | succ position => simp [ih later]

theorem length_of_tokens? {values : List Value} {tokens : List String}
    (written : tokens? values = some tokens) : tokens.length = values.length := by
  induction values generalizing tokens with
  | nil =>
    obtain rfl := Option.some.inj written
    rfl
  | cons value rest ih =>
    obtain ⟨token, others, _, later, rfl⟩ := tokens?_cons_eq_some written
    rw [List.length_cons, List.length_cons, ih later]

theorem tokens?_map_text (tokens : List String) : tokens? (tokens.map text) = some tokens := by
  induction tokens with
  | nil => rfl
  | cons token rest ih => simp [tokens?, written?, ih]

/-- An argument of a loose command is a text or a number.  Truth values are not numbers here. -/
def isArgument : Value → Bool
  | text _ => true
  | whole _ => true
  | real _ => true
  | _ => false

/-- A loose command: a list or a tuple of a text that is not blank and of arguments. -/
def looseCommand? : List Value → Option Command
  | text op :: args =>
    if Text.strip op = "" then none
    else if args.all isArgument then
      (tokens? args).map fun tokens => .leaf (Text.lower (Text.strip op)) tokens none
    else none
  | _ => none

/-- The command that a value stands for.  A command stands for itself. -/
def command? : Value → Option Command
  | command (.stray _) => none
  | command c => some c
  | list items => looseCommand? items
  | tuple items => looseCommand? items
  | _ => none

end Value

end Turtle
