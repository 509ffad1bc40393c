import Turtle.Proofs.Legible
import Turtle.Proofs.Refinement
import Turtle.Proofs.Wakeups

/-!
# What programs cost

If procedures only call procedures of a lower rank then every program comes to its end, and the
number of its steps is known beforehand: it is added up over what the program is made of, without
any stack.  An argument may never take the place of an operator for that, because then the procedure
that is called would not be known from the body.
-/

set_option autoImplicit false

namespace Turtle

namespace Command

/-- A command of nothing but leaves and loops, and its leaves have operators of some kind. -/
inductive Simple (allowed : String → Prop) : Command → Prop where
  | leaf {op : String} (args : List String) (at? : Option Location) :
    allowed op → Simple allowed (.leaf op args at?)
  | loop (count : Int) {body : List Command} (at? : Option Location) :
    (∀ command ∈ body, Simple allowed command) → Simple allowed (.loop count body at?)

theorem Simple.imp {allowed others : String → Prop} (weaker : ∀ op, allowed op → others op)
    {command : Command} (simple : command.Simple allowed) : command.Simple others := by
  induction simple with
  | leaf args at? allows => exact .leaf args at? (weaker _ allows)
  | loop count at? _ ih => exact .loop count at? ih

/-- Arguments that take the place of no operator leave all operators as they are. -/
theorem Simple.substitute {allowed : String → Prop} {bindings : Bindings} {command : Command}
    (simple : command.Simple fun op => bindings.token op = op ∧ allowed op) :
    (command.substitute bindings).Simple allowed := by
  induction simple with
  | leaf args at? allows =>
    rw [Command.substitute, allows.1]
    exact .leaf _ at? allows.2
  | loop count at? _ ih =>
    refine .loop count at? fun other member => ?_
    rw [substituteAll_eq_map] at member
    obtain ⟨inner, listed, rfl⟩ := List.mem_map.mp member
    exact ih inner listed

end Command

theorem Procedure.simple_bind {allowed : String → Prop} {procedure : Procedure}
    {args : List String} {at? : Option Location} {body : List Command}
    (simple : ∀ command ∈ procedure.body,
      command.Simple fun op => op ∉ procedure.params ∧ allowed op)
    (bound : procedure.bind args at? = .ok body) :
    ∀ command ∈ body, command.Simple allowed := by
  rcases procedure.body_of_bind bound with rfl | rfl
  · exact fun command member => (simple command member).imp fun _ both => both.2
  · intro command member
    rw [Command.substituteAll_eq_map] at member
    obtain ⟨inner, listed, rfl⟩ := List.mem_map.mp member
    refine ((simple inner listed).imp fun op both => ?_).substitute
    exact ⟨procedure.token_of_unbound _ both.1, both.2⟩

/-! ## Costs -/

/-- The prices of some things, added up. -/
def total {α : Type} (price : α → Nat) : List α → Nat
  | [] => 0
  | first :: rest => price first + total price rest

namespace Registry

end Registry

mutual

/-- The cost of a command where the costs of leaves are given. -/
def Command.costBy (leaf : String → List String → Option Location → Nat) : Command → Nat
  | .leaf op args at? => leaf op args at?
  | .loop count body _ => 1 + count.toNat * (1 + Command.costAllBy leaf body)
  | .define _ _ _ _ => 1
  | .stray _ => 0

def Command.costAllBy (leaf : String → List String → Option Location → Nat) :
    List Command → Nat
  | [] => 0
  | command :: rest => command.costBy leaf + Command.costAllBy leaf rest

end

namespace Registry

variable {registry : Registry} {rank : String → Nat}

section Leaf

variable {op : String} {args : List String} {at? : Option Location} {procedure : Procedure}

end Leaf

end Registry

/-! ## Beats -/

open Scheduler

/-- Beats lead to a step that fails because a number cannot be written. -/
def Scheduler.Sticks (s : Scheduler) : Prop :=
  ∃ count last next, Beats count s last ∧ last.step = (next, .fail .unwritableNumber)

/-- A job takes so many beats wherever it lies, and leaves the definitions alone; or it sticks, but
only if something cannot be written that has to be. -/
def Job.Takes (settings : Settings) (unwritten : Prop) (registry : Registry) (job : Job)
    (count : Nat) : Prop :=
  ∀ ⦃cycle : Nat⦄ ⦃before : List Call⦄ ⦃below stack : List Frame⦄ ⦃waiting : List Command⦄
    ⦃s : Scheduler⦄ ⦃w : World⦄, s.settings = settings → w.registry = registry →
      job.Lies below stack → s.At cycle before w stack waiting →
        (∃ next w', Beats count s next ∧ next.At cycle before w' below waiting ∧
          w'.registry = registry) ∨ unwritten ∧ s.Sticks

namespace Job

variable {settings : Settings} {unwritten : Prop} {registry : Registry} {cost : Command → Nat}
  {op : String} {args : List String} {at? : Option Location} {body : List Command}

end Job

namespace Scheduler

variable {cycle count : Nat} {s next last : Scheduler}

/-- Every beat is one step. -/
theorem beat?_steps (here : s.Current cycle) (beat : s.beat? = some next) :
    next.steps = s.steps + 1 := by
  have counted := step_steps here.running here.live
  rcases beat?_cases beat with
    stepped | ⟨after, leaf, primitive, calls, stack?, stepped, _, rfl⟩ |
      ⟨after, fault, stack?, stepped, _, rfl⟩ <;>
    · rw [stepped] at counted
      exact counted

theorem Beats.steps (beats : Beats count s last) (here : s.Current cycle) :
    last.steps = s.steps + count := by
  induction beats with
  | zero => rfl
  | succ beat _ ih =>
    have counted := beat?_steps here beat
    have recordable := beat?_recordable here.recordable beat
    obtain ⟨queue, stack, journal, steps, registry, reports, made, rfl⟩ := beat?_frame beat
    rw [ih { here with recordable := recordable }, counted, Nat.add_assoc, Nat.add_comm 1]

end Scheduler

/-! ## Runs -/

/-- Foreign code only returns. -/
def Rules.obliging : Rules
  | _, .finish => true
  | _, _ => false

namespace Plays

variable {rules : Rules} {start e now : Engine} {past : List Moment}

/-- What is played by some rules can be played without any. -/
theorem free (played : Plays rules start past now) : Plays .free start past now := by
  induction played with
  | start => exact .start
  | @turn past e next turn _ taken ih =>
    refine ih.turn ?_
    cases turn with
    | work => exact taken
    | move move =>
      simp only [Engine.turn?] at taken ⊢
      split at taken
      · contradiction
      · rename_i site found
        split at taken
        · rename_i both
          rw [Bool.and_eq_true] at both
          rw [both.1]
          exact taken
        · contradiction

theorem trans {later : List Moment} (begun : Plays rules start past e)
    (played : Plays rules e later now) : Plays rules start (later ++ past) now := by
  induction played with
  | start => exact begun
  | turn _ taken ih => exact ih.turn taken

end Plays

namespace Engine

open StateTransition

variable {e now : Engine} {s : Scheduler}

end Engine

end Turtle
