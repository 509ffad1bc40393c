import Turtle.Program.Command

/-!
# The queue of commands

The commands that wait for their turn, first in first out, and how many have had it.
-/

set_option autoImplicit false

namespace Turtle

/-- A queue of commands, and the number of commands that have been taken out of it. -/
structure CommandQueue where
  pending : List Command
  cursor : Nat
deriving Repr

namespace CommandQueue

def empty : CommandQueue := ⟨[], 0⟩

def size (queue : CommandQueue) : Nat :=
  queue.pending.length

def append (queue : CommandQueue) (commands : List Command) : CommandQueue :=
  { queue with pending := queue.pending ++ commands }

def next? (queue : CommandQueue) : Option (Command × CommandQueue) :=
  match queue.pending with
  | [] => none
  | command :: rest => some (command, ⟨rest, queue.cursor + 1⟩)

def clear (queue : CommandQueue) : CommandQueue :=
  { queue with pending := [] }

theorem next?_eq_none_iff (queue : CommandQueue) :
    queue.next? = none ↔ queue.size = 0 := by
  cases queue with
  | mk pending cursor => cases pending <;> simp [next?, size]

/-- What is put at the end does not change what comes next. -/
theorem next?_append {queue rest : CommandQueue} {command : Command}
    (taken : queue.next? = some (command, rest)) (commands : List Command) :
    (queue.append commands).next? = some (command, rest.append commands) := by
  cases queue with
  | mk pending cursor =>
    cases pending with
    | nil => simp [next?] at taken
    | cons first others =>
      simp only [next?, Option.some.injEq, Prod.mk.injEq] at taken
      obtain ⟨rfl, rfl⟩ := taken
      rfl

end CommandQueue

end Turtle
