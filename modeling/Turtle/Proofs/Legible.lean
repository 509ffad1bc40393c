import Turtle.Proofs.Makeup
import Turtle.Proofs.Meaning
import Turtle.Proofs.Recordable

/-!
# Legible commands

Commands that hold no number of too many digits can be written down, and so can everything that
comes of them.  Where all commands are legible, it makes no difference to the meaning of a program
whether stacks are recorded, and every stack can be recorded.
-/

set_option autoImplicit false

namespace Turtle

/-- A command and all the commands in it can be written down in short. -/
def Command.isLegible (command : Command) : Bool :=
  command.every fun inner => inner.describe?.isSome

def Command.areLegible (commands : List Command) : Bool :=
  Command.everyOf (fun inner => inner.describe?.isSome) commands

def Registry.isLegible (registry : Registry) : Bool :=
  registry.every fun inner => inner.describe?.isSome

/-- Everything that a scheduler can still come to is legible. -/
abbrev Scheduler.Legible (s : Scheduler) : Prop :=
  s.Every fun inner => inner.describe?.isSome

/-- Whatever commands come with a move are legible. -/
def Engine.Move.isLegible (move : Engine.Move) : Bool :=
  move.every fun inner => inner.describe?.isSome

theorem Command.steadfast_describe? : Steadfast fun inner => inner.describe?.isSome := by
  intro bindings command
  cases command <;> rfl

theorem Settings.writes_of_legible (settings : Settings) {command : Command}
    (legible : command.isLegible = true) : settings.Writes command :=
  fun _ =>
    have described : command.describe?.isSome = true := Command.fits_of_every legible
    Option.isSome_iff_ne_none.mp described

theorem Scheduler.Every.recordable {s : Scheduler} (legible : s.Legible) : s.Recordable :=
  s.recordable_iff.mpr fun frame member =>
    s.settings.writes_of_legible (legible.stack frame member).command

/-- All commands of a job are legible. -/
def Job.isLegible : Job → Bool
  | .one command => command.isLegible
  | .all commands => Command.areLegible commands
  | .rounds _ body => Command.areLegible body

/-- What legible commands mean does not depend on whether stacks are recorded, and the definitions
that they make are legible. -/
theorem Executes.recorded {job : Job} {w w' : World} (executes : Executes false job w w')
    (legible : job.isLegible = true) (known : w.registry.isLegible = true) (verbose : Bool) :
    Executes verbose job w w' ∧ w'.registry.isLegible = true := by
  induction executes with
  | define w name params body at? =>
    rw [Job.isLegible, Command.isLegible, Command.every, Bool.and_eq_true] at legible
    exact ⟨.define w name params body at?, Registry.every_define known name params legible.2⟩
  | @loop w w' count body at? _ _ ih =>
    rw [Job.isLegible, Command.isLegible, Command.every, Bool.and_eq_true] at legible
    obtain ⟨carried, known'⟩ := ih legible.2 known
    refine ⟨.loop at? (fun _ unwritten => ?_) carried, known'⟩
    rw [Command.describe?, unwritten] at legible
    exact Bool.false_ne_true legible.1
  | call found bound _ ih =>
    have inside := (Procedure.everyOf_bind Command.steadfast_describe? bound).trans
      (Registry.everyOf_get? known found)
    obtain ⟨carried, known'⟩ := ih inside known
    exact ⟨.call found bound carried, known'⟩
  | refused found refused => exact ⟨.refused found refused, known⟩
  | unknown undefined unknown => exact ⟨.unknown undefined unknown, known⟩
  | unfit undefined meant unfit => exact ⟨.unfit undefined meant unfit, known⟩
  | draw undefined meant fit => exact ⟨.draw undefined meant fit, known⟩
  | nothing w => exact ⟨.nothing w, known⟩
  | next _ _ ihOne ihRest =>
    rw [Job.isLegible, Command.areLegible, Command.everyOf, Bool.and_eq_true] at legible
    obtain ⟨one, known'⟩ := ihOne legible.1 known
    obtain ⟨rest, known''⟩ := ihRest legible.2 known'
    exact ⟨.next one rest, known''⟩
  | idle w body => exact ⟨.idle w body, known⟩
  | round _ _ ihBody ihRounds =>
    obtain ⟨one, known'⟩ := ihBody legible known
    obtain ⟨rest, known''⟩ := ihRounds legible known'
    exact ⟨.round one rest, known''⟩

theorem Executes.Batch.recorded {batch : List Command} {w w' : World}
    (executes : Executes.Batch false batch w w') (legible : Command.areLegible batch = true)
    (known : w.registry.isLegible = true) (verbose : Bool) :
    Executes.Batch verbose batch w w' ∧ w'.registry.isLegible = true := by
  have queued : Command.areLegible (batch.filter fun command => !command.isDefinition) = true := by
    rw [Command.areLegible, Command.everyOf_eq_true_iff] at legible ⊢
    exact fun command member => legible command (List.mem_filter.mp member).1
  exact Executes.recorded executes queued (Registry.every_defineAll known legible) verbose

end Turtle
