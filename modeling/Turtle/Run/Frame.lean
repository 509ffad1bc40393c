import Turtle.Program.Command

/-!
# Frames

Commands that are being carried out lie on a stack of frames.  The frame of a loop keeps the number
of rounds that have begun and the body that each of them runs; other frames have neither.
-/

set_option autoImplicit false

namespace Turtle

/-- A command on the stack.  Only a loop has a number of rounds and a body to run. -/
structure Frame where
  command : Command
  iteration? : Option Nat
  pending? : Option (List Command)
deriving Repr

namespace Frame

def ofCommand (command : Command) : Frame :=
  match command with
  | .loop _ body _ => ⟨command, some 0, some body⟩
  | _ => ⟨command, none, none⟩

@[simp] theorem command_ofCommand (command : Command) : (ofCommand command).command = command := by
  cases command <;> rfl

/-- The commands of some frames in short, if all of them can be described. -/
def describeAll? : List Frame → Option (List String)
  | [] => some []
  | frame :: rest => do return (← frame.command.describe?) :: (← describeAll? rest)

/-- The frames of a body on top of a stack, the first command of the body topmost. -/
def load (body : List Command) (stack : List Frame) : List Frame :=
  body.map ofCommand ++ stack

theorem mem_load {command : Command} {body : List Command} (member : command ∈ body)
    (stack : List Frame) : ofCommand command ∈ load body stack :=
  List.mem_append_left _ (List.mem_map_of_mem member)

end Frame

end Turtle
