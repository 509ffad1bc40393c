import Turtle.Run.Scheduler

/-!
# Steps

A step is one unit of work on the topmost frame, or the move of a command from the queue to the
stack.  Loops and calls put frames on the stack, so that nesting is a matter of the stack alone.
What a step cannot finish by itself, because foreign code has a part in it, is left as work.
-/

set_option autoImplicit false

namespace Turtle

/-- What a step leaves to be done. -/
inductive Work where
  /-- Nothing; the answer tells whether the caller should keep stepping. -/
  | answer (more : Bool)
  /-- A primitive is to be drawn with these calls. -/
  | draw (leaf : Command) (primitive : Primitive) (calls : List Call)
  | report (fault : Fault)
  | halt (phase : Phase)
  | fail (failure : Failure)

namespace Scheduler

/-- A step is over when it is in the journal; it fails if the stack that it leaves cannot be
recorded. -/
def complete (s : Scheduler) (event : StepEvent) (at? : Option Location) : Scheduler × Work :=
  match s.log event at? with
  | .ok logged => (logged, .answer true)
  | .error failure => (s, .fail failure)

theorem complete_of_snapshot {s : Scheduler} {stack? : Option (List String)}
    (recorded : s.snapshot = .ok stack?) (event : StepEvent) (at? : Option Location) :
    s.complete event at? = (s.enter event at? stack?, .answer true) := by
  rw [complete, log, recorded]
  rfl

theorem complete_of_unrecordable {s : Scheduler} (unrecordable : ¬s.Recordable)
    (event : StepEvent) (at? : Option Location) :
    s.complete event at? = (s, .fail .unwritableNumber) := by
  rw [complete, log, snapshot_of_unrecordable unrecordable]
  rfl

theorem complete_cases (s : Scheduler) (event : StepEvent) (at? : Option Location) :
    (∃ stack?, s.snapshot = .ok stack? ∧
        s.complete event at? = (s.enter event at? stack?, .answer true)) ∨
      ¬s.Recordable ∧ s.complete event at? = (s, .fail .unwritableNumber) := by
  by_cases recordable : s.Recordable
  · obtain ⟨stack?, recorded⟩ := recordable
    exact Or.inl ⟨stack?, recorded, complete_of_snapshot recorded event at?⟩
  · exact Or.inr ⟨recordable, complete_of_unrecordable recordable event at?⟩

/-- Carries out a leaf that has been taken from the stack: a defined procedure comes before a
primitive of the same name. -/
def operate (s : Scheduler) (op : String) (args : List String) (at? : Option Location) :
    Scheduler × Work :=
  match s.registry.get? op with
  | some procedure =>
    match procedure.bind args at? with
    | .error fault => (s, .report fault)
    | .ok body =>
      ({ s with stack := Frame.load body s.stack } : Scheduler).complete (.call procedure.name) at?
  | none =>
    match Primitive.ofWord? op with
    | none => (s, .report ⟨.unknownOperator op, at?, none⟩)
    | some primitive =>
      match primitive.calls args with
      | .error cause => (s, .report ⟨cause, at?, none⟩)
      | .ok calls => (s, .draw (.leaf op args at?) primitive calls)

/-- One unit of work on the topmost frame, which lies on the frames below. -/
def advance (s : Scheduler) (frame : Frame) (below : List Frame) : Scheduler × Work :=
  match frame.command with
  | .loop count _ at? =>
    match frame.iteration?, frame.pending? with
    | some iteration, some body =>
      if (iteration : Int) < count then
        let stack := Frame.load body ({ frame with iteration? := some (iteration + 1) } :: below)
        ({ s with stack := stack } : Scheduler).complete (.round (iteration + 1)) at?
      else ({ s with stack := below } : Scheduler).complete .roundsOver at?
    | _, _ => (s, .fail .incompleteFrame)
  | .define name params body at? =>
    (({ s with stack := below } : Scheduler).define name params body).complete (.define name) at?
  | .stray shown? =>
    ({ s with stack := below }, .fail (shown?.elim .unwritableNumber Failure.strayCommand))
  | .leaf op args at? => ({ s with stack := below } : Scheduler).operate op args at?

/-- One step.  A cycle that has been asked to stop ends as cancelled, and one with nothing left to
do as exhausted. -/
def step (s : Scheduler) : Scheduler × Work :=
  if s.phase ≠ .running then (s, .answer false)
  else if !s.live then (s, .halt .cancelled)
  else
    let counted := { s with steps := s.steps + 1 }
    match s.stack with
    | frame :: below => counted.advance frame below
    | [] =>
      match s.queue.next? with
      | none => (counted, .halt .exhausted)
      | some (command, rest) =>
        ({ counted with queue := rest, stack := [Frame.ofCommand command] } : Scheduler).complete
          .dequeue command.location?

end Scheduler

end Turtle
