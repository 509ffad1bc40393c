import Turtle.Proofs.Frames

/-!
# Activations

What lies on the stack is carried out like a tree: a frame is done with when the frames that were
put in its place are, and only then comes the turn of the one below it.  For a loop this means that
its rounds come one after another, each with the whole body, whatever the body calls or repeats.
-/

set_option autoImplicit false

namespace Turtle

namespace Frame

/-- The frame of a loop with so many rounds, none of which has begun. -/
def unbegun (frame : Frame) (count : Int) : Bool :=
  match frame.command, frame.iteration? with
  | .loop rounds _ _, some 0 => rounds = count
  | _, _ => false

end Frame

/-- The steps carry out the frames from the topmost one on, each to its end: a frame is done with
when the frames that were put in its place are. -/
inductive CarriedOut : List Frame → List Moment → Prop where
  | nothing : CarriedOut [] []
  | next {m : Moment} {frame : Frame} {frames rest : List Frame} {inner later : List Moment} :
    m.takes? = some frame → m.Replaces frame frames → CarriedOut frames inner →
      CarriedOut rest later → CarriedOut (frame :: rest) (m :: (inner ++ later))

/-- The steps of a cycle lead from one stack to another. -/
inductive Passage : List Frame → List Moment → List Frame → Prop where
  | stay (stack : List Frame) : Passage stack [] stack
  | fetch {m : Moment} {command : Command} {steps : List Moment} {last : List Frame} :
    m.before.sched.stack = [] → Passage [.ofCommand command] steps last →
      Passage [] (m :: steps) last
  | replace {m : Moment} {frame : Frame} {frames below : List Frame} {steps : List Moment}
    {last : List Frame} : m.takes? = some frame → m.before.sched.stack = frame :: below →
      m.Replaces frame frames → m.after.sched.stack = frames ++ below →
      Passage (frames ++ below) steps last → Passage (frame :: below) (m :: steps) last

namespace Passage

variable {steps : List Moment} {first last above buried : List Frame}

theorem before_eq {m : Moment} (passage : Passage first (m :: steps) last) :
    m.before.sched.stack = first := by
  cases passage with
  | fetch empty => exact empty
  | replace _ split => exact split

theorem snoc (passage : Passage first steps last) {m : Moment}
    (before_eq : m.before.sched.stack = last) (handles : m.Handles) :
    Passage first (steps ++ [m]) m.after.sched.stack := by
  induction passage with
  | stay stack =>
    cases handles with
    | fetch command empty _ after_eq =>
      obtain rfl : [] = stack := empty.symm.trans before_eq
      rw [after_eq]
      exact .fetch empty (.stay _)
    | replace taken split replaces after_eq =>
      obtain rfl := split.symm.trans before_eq
      rw [after_eq]
      exact .replace taken split replaces after_eq (.stay _)
  | fetch empty _ ih => exact .fetch empty (ih before_eq)
  | replace taken split replaces after_eq _ ih =>
    exact .replace taken split replaces after_eq (ih before_eq)

/-- What lies above some frames is carried out, and then it is their turn as they have been; or some
of it is left. -/
theorem split (passage : Passage (above ++ buried) steps last) :
    (∃ done rest, steps = done ++ rest ∧ CarriedOut above done ∧ Passage buried rest last) ∨
      ∃ left, left ≠ [] ∧ last = left ++ buried := by
  -- The frames that replace the topmost one come first, and then the others: both take fewer steps.
  induction size : steps.length using Nat.strongRecOn generalizing above buried steps with
  | ind size ih =>
    subst size
    cases above with
    | nil => exact Or.inl ⟨[], steps, rfl, .nothing, passage⟩
    | cons frame above =>
      cases passage with
      | stay => exact Or.inr ⟨frame :: above, List.cons_ne_nil _ _, rfl⟩
      | @replace m _ frames _ steps _ taken before_eq replaces after_eq passage =>
        rcases ih _ (by simp) passage rfl with
          ⟨inner, rest, rfl, carried, passage⟩ | ⟨left, some, rfl⟩
        · have fewer : rest.length < (m :: (inner ++ rest)).length := by
            simp only [List.length_cons, List.length_append]
            omega
          rcases ih _ fewer passage rfl with ⟨done, rest, rfl, others, passage⟩ | unfinished
          · have carried := CarriedOut.next taken replaces carried others
            exact Or.inl ⟨m :: (inner ++ done), rest, by simp, carried, passage⟩
          · exact Or.inr unfinished
        · refine Or.inr ⟨left ++ above, ?_, (List.append_assoc ..).symm⟩
          simp [some]

end Passage

/-- Steps that carry out what lies above some frames come to these frames, and before that there was
always more on the stack. -/
theorem CarriedOut.passage {above buried last : List Frame} {done rest : List Moment}
    (carried : CarriedOut above done) (passage : Passage (above ++ buried) (done ++ rest) last) :
    Passage buried rest last ∧ ∀ m ∈ done, buried.length < m.before.sched.stack.length := by
  induction carried generalizing buried rest with
  | nothing => exact ⟨passage, by simp⟩
  | @next m frame frames others inner later taken replaces _ _ ihInner ihLater =>
    rw [List.cons_append, List.cons_append, List.append_assoc] at passage
    cases passage with
    | @replace _ _ frames' _ _ _ _ before_eq replaces' _ passage =>
      obtain rfl := replaces.unique replaces'
      obtain ⟨passage, inner_high⟩ := ihInner passage
      obtain ⟨passage, later_high⟩ := ihLater passage
      refine ⟨passage, fun other member => ?_⟩
      rcases List.mem_cons.mp member with rfl | member
      · rw [before_eq, List.length_cons, List.length_append]
        omega
      · rcases List.mem_append.mp member with inside | after
        · have high := inner_high other inside
          rw [List.length_append] at high
          omega
        · exact later_high other after

namespace Passage

variable {steps : List Moment} {last above buried : List Frame}

section Loop

variable {count : Int} {body : List Command} {at? : Option Location} {below : List Frame}

end Loop

end Passage

/-! ## Plays -/

namespace Plays

open Engine

variable {rules : Rules} {settings : Settings} {journal : Journal StepEvent}
  {registry : Registry} {past later earlier : List Moment} {since now : Engine}

/-- The steps that were taken, in their order. -/
def stepsOf (later : List Moment) : List Moment :=
  later.reverse.filter Moment.steps

theorem cycle_le_since {start : Engine} (begun : Plays rules start earlier since)
    (played : Plays rules start (later ++ earlier) now) : since.sched.cycle ≤ now.sched.cycle := by
  induction later generalizing now with
  | nil => rw [begun.unique played]
  | cons m later ih =>
    obtain ⟨before, taken, rfl⟩ := played.last
    exact Nat.le_trans (ih before) (turn?_cycle_le taken)

/-- Between two moments of a cycle that is running at the later one, it has been running. -/
theorem running_since {m : Moment}
    (begun : Plays rules (.atRest (.fresh settings journal registry)) earlier since)
    (played : Plays rules (.atRest (.fresh settings journal registry))
      (m :: later ++ earlier) now)
    (goes : m.after.sched.phase = .running) (same : m.after.sched.cycle = since.sched.cycle) :
    m.before.sched.phase = .running ∧ m.before.sched.cycle = since.sched.cycle := by
  obtain ⟨before, taken, rfl⟩ := played.last
  have earlier_le := begun.cycle_le_since before
  have acts := turn?_acts before.shaped taken
  rcases shifts_of_traffic acts.traffic with
    ⟨phase_eq, cycle_eq⟩ | ⟨batch, _, _, _, cycle_eq⟩ | ⟨_, ended, _⟩
  · exact ⟨phase_eq.symm.trans goes, cycle_eq.symm.trans same⟩
  · dsimp only at cycle_eq
    omega
  · exact absurd goes (rests_of_ended ended)

/-- The steps of a cycle since some moment of it lead from the stack of that moment to that of
now. -/
theorem passage (begun : Plays rules (.atRest (.fresh settings journal registry)) earlier since)
    (played : Plays rules (.atRest (.fresh settings journal registry)) (later ++ earlier) now)
    (goes : now.sched.phase = .running) (same : now.sched.cycle = since.sched.cycle) :
    Passage since.sched.stack (stepsOf later) now.sched.stack := by
  induction later generalizing now with
  | nil =>
    rw [begun.unique played]
    exact .stay _
  | cons m later ih =>
    have handles : m.after.sched.phase = .running → _ := played.handles
    obtain ⟨before, taken, rfl⟩ := played.last
    obtain ⟨running, same'⟩ := running_since begun played goes same
    have passage := ih before running same'
    rw [stepsOf, List.reverse_cons, List.filter_append]
    cases steps : m.steps with
    | true =>
      rw [List.filter_cons_of_pos steps, List.filter_nil]
      exact passage.snoc rfl ((handles goes).1 steps)
    | false =>
      rw [List.filter_cons_of_neg (by simp [steps]), List.filter_nil, List.append_nil,
        (handles goes).2 steps]
      exact passage

end Plays

end Turtle
