import Turtle.Proofs.Change
import Turtle.Session.Basic

/-!
# Requests that are rejected

A request leaves no trace if it is rejected: entries that are no commands are found out before any
of them is taken in, and so are a text that is no program and a call that no procedure accepts.  A
batch that finds no clock comes too late for a cycle that was to stop, which has been cancelled by
then; but that cycle ends as it would have ended without the batch, turn by turn, because whatever
waits below the tasks of a turn takes no part in it.
-/

set_option autoImplicit false

namespace Turtle

namespace Engine

/-! ## What waits below -/

/-- An engine on top of some tasks that wait for it. -/
def onto (lower : List Task) (e : Engine) : Engine :=
  { e with tasks := e.tasks ++ lower }

section Onto

variable (lower : List Task) (s : Scheduler) (tasks : List Task)

end Onto

section Turns

variable (lower : List Task) {e : Engine} (busy : e.tasks ≠ [])
include busy

end Turns

end Engine

def Moment.onto (lower : List Task) (m : Moment) : Moment :=
  ⟨m.before.onto lower, m.turn, m.after.onto lower⟩

/-! ## Entries that stand for commands -/

namespace Value

end Value

namespace Engine

end Engine

namespace Scheduler

variable {s next : Scheduler}

end Scheduler

namespace Engine

variable {rules : Rules} {start now : Engine} {past : List Moment} {lower : List Task}
  {batch : List Command} {callback? : Option Nat}

end Engine

end Turtle
