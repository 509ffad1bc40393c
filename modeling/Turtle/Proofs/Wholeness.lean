import Turtle.Proofs.Makeup
import Turtle.Proofs.Recordable

/-!
# Whole commands

Only a body that was put together by hand may hold something that is no command.  Without that the
commands stay whole while they are carried out, and so do the frames of loops, and then a step fails
only if it leaves a stack that cannot be recorded.
-/

set_option autoImplicit false

namespace Turtle

def Command.isStray : Command → Bool
  | .stray _ => true
  | _ => false

/-- A command is made of nothing but commands. -/
def Command.isWhole (command : Command) : Bool :=
  command.every fun inner => !inner.isStray

def Command.areWhole (commands : List Command) : Bool :=
  Command.everyOf (fun inner => !inner.isStray) commands

def Registry.isWhole (registry : Registry) : Bool :=
  registry.every fun inner => !inner.isStray

theorem Command.steadfast_isStray : Steadfast fun inner => !inner.isStray := by
  intro bindings command
  cases command <;> rfl

/-- The frame of a loop has a number of rounds and a body. -/
def Frame.Ready (frame : Frame) : Prop :=
  ∀ count body at?, frame.command = .loop count body at? →
    frame.iteration?.isSome ∧ frame.pending?.isSome

theorem Frame.ready_ofCommand (command : Command) : (ofCommand command).Ready := by
  cases command with
  | loop => exact fun _ _ _ _ => ⟨rfl, rfl⟩
  | _ => exact fun _ _ _ same => Command.noConfusion same

theorem Frame.ready_load (body : List Command) {stack : List Frame}
    (below : ∀ frame ∈ stack, frame.Ready) : ∀ frame ∈ load body stack, frame.Ready := by
  intro frame member
  rcases List.mem_append.mp member with loaded | later
  · obtain ⟨command, _, rfl⟩ := List.mem_map.mp loaded
    exact ready_ofCommand command
  · exact below frame later

namespace Scheduler

/-- Everything that a scheduler can still come to is whole. -/
structure Whole (s : Scheduler) : Prop
    extends Every (fun inner => !inner.isStray) s where
  ready : ∀ frame ∈ s.stack, frame.Ready

variable {s : Scheduler}

theorem Whole.define (whole : s.Whole) (name : String) (params : List String)
    {body : List Command} (new : Command.areWhole body = true) :
    (s.define name params body).Whole :=
  ⟨whole.toEvery.define name params new, whole.ready⟩

theorem Whole.accept (whole : s.Whole) {batch : List Command}
    (new : Command.areWhole batch = true) (callback? : Option Nat) :
    (s.accept batch callback?).Whole :=
  ⟨whole.toEvery.accept new callback?, whole.ready⟩

theorem Whole.endCycle (whole : s.Whole) (phase : Phase) : (s.endCycle phase).1.Whole :=
  ⟨whole.toEvery.endCycle phase, fun _ member => absurd member List.not_mem_nil⟩

/-- A step leaves frames that are ready, and if it fails the stack cannot be recorded. -/
structure Soundly (outcome : Scheduler × Work) : Prop where
  ready : ∀ frame ∈ outcome.1.stack, frame.Ready
  fails : ∀ failure, outcome.2 = .fail failure → ¬outcome.1.Recordable

theorem soundly_complete (ready : ∀ frame ∈ s.stack, frame.Ready) (event : StepEvent)
    (at? : Option Location) : Soundly (s.complete event at?) := by
  rcases s.complete_cases event at? with ⟨_, _, completed⟩ | ⟨unrecordable, completed⟩ <;>
    rw [completed]
  · exact ⟨ready, fun _ => Work.noConfusion⟩
  · exact ⟨ready, fun _ _ => unrecordable⟩

theorem soundly_operate (ready : ∀ frame ∈ s.stack, frame.Ready) (op : String)
    (args : List String) (at? : Option Location) : Soundly (s.operate op args at?) := by
  unfold operate
  split
  · split
    · exact ⟨ready, fun _ => Work.noConfusion⟩
    · exact soundly_complete (Frame.ready_load _ ready) _ _
  · split
    · exact ⟨ready, fun _ => Work.noConfusion⟩
    · split <;> exact ⟨ready, fun _ => Work.noConfusion⟩

theorem soundly_advance {frame : Frame} {below : List Frame} (top : frame.Ready)
    (proper : frame.command.isStray = false) (rest : ∀ other ∈ below, other.Ready) :
    Soundly (s.advance frame below) := by
  unfold advance
  split
  · rename_i count body at? same
    obtain ⟨rounds, pending⟩ := top count body at? same
    split
    · rename_i iteration _ _ _
      split
      · have again : Frame.Ready { frame with iteration? := some (iteration + 1) } :=
          fun _ _ _ _ => ⟨rfl, pending⟩
        exact soundly_complete
          (Frame.ready_load _ (List.forall_mem_cons.mpr ⟨again, rest⟩)) _ _
      · exact soundly_complete rest _ _
    · rename_i absent
      obtain ⟨iteration, some_rounds⟩ := Option.isSome_iff_exists.mp rounds
      obtain ⟨inner, some_body⟩ := Option.isSome_iff_exists.mp pending
      exact absurd some_body (absent iteration inner some_rounds)
  · exact soundly_complete rest _ _
  · rename_i same
    rw [same] at proper
    exact absurd proper Bool.noConfusion
  · exact soundly_operate rest _ _ _

/-- While everything is whole a step fails only if the stack that it leaves cannot be recorded. -/
theorem soundly_step (whole : s.Whole) : Soundly s.step := by
  unfold step
  split
  · exact ⟨whole.ready, fun _ => Work.noConfusion⟩
  split
  · exact ⟨whole.ready, fun _ => Work.noConfusion⟩
  dsimp only
  split
  · rename_i frame below stacked
    have frames := whole.stack
    have ready := whole.ready
    rw [stacked] at frames ready
    obtain ⟨top, rest⟩ := List.forall_mem_cons.mp ready
    have proper := Command.fits_of_every (frames frame (List.mem_cons_self ..)).command
    exact soundly_advance top (by simpa using proper) rest
  · split
    · exact ⟨whole.ready, fun _ => Work.noConfusion⟩
    · exact soundly_complete (List.forall_mem_singleton.mpr (Frame.ready_ofCommand _)) _ _

theorem Whole.step (whole : s.Whole) : s.step.1.Whole :=
  ⟨whole.toEvery.step Command.steadfast_isStray, (soundly_step whole).ready⟩

end Scheduler

end Turtle
