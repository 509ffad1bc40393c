import Turtle.Proofs.Attribution
import Turtle.Proofs.Beat
import Turtle.Proofs.Layers
import Turtle.Proofs.Likeness
import Turtle.Proofs.Recording

/-!
# Frames in the place of others

A step puts frames in the place of the topmost one and leaves those below it alone: a loop is
replaced by its body and itself, a call by the body of the procedure, and anything else by nothing.
All the frames that come to lie on a stack in this way are sound: those of loops have a body and a
number of rounds, and others have neither.
-/

set_option autoImplicit false

namespace Turtle

namespace Frame

/-- Only a loop has rounds and a body to run.  The body is its own, and no more rounds have begun
than it asks for. -/
def Sound (frame : Frame) : Prop :=
  match frame.command with
  | .loop count body _ =>
    ∃ begun : Nat, frame.iteration? = some begun ∧ frame.pending? = some body ∧
      (begun : Int) ≤ max count 0
  | _ => frame.iteration? = none ∧ frame.pending? = none

theorem sound_ofCommand (command : Command) : (ofCommand command).Sound := by
  cases command with
  | loop count body at? => exact ⟨0, rfl, rfl, Int.le_max_right count 0⟩
  | _ => exact ⟨rfl, rfl⟩

theorem sound_ofLoop {count : Int} {begun : Nat} (within : (begun : Int) ≤ max count 0)
    (body : List Command) (at? : Option Location) : (ofLoop count body at? begun).Sound :=
  ⟨begun, rfl, rfl, within⟩

/-- The frames of a body, the first command topmost. -/
def ofBody (body : List Command) : List Frame :=
  body.map ofCommand

theorem sound_ofBody (body : List Command) : ∀ frame ∈ ofBody body, frame.Sound := by
  intro frame member
  obtain ⟨command, _, rfl⟩ := List.mem_map.mp member
  exact sound_ofCommand command

/-- A sound frame is that of a loop with some rounds begun, or a new frame of another command. -/
theorem Sound.shape {frame : Frame} (sound : frame.Sound) :
    (∃ count body at? begun, frame = ofLoop count body at? begun ∧ (begun : Int) ≤ max count 0) ∨
      frame = ofCommand frame.command ∧ ∀ count body at?, frame.command ≠ .loop count body at? := by
  obtain ⟨command, iteration?, pending?⟩ := frame
  cases command with
  | loop count body at? =>
    obtain ⟨begun, rfl, rfl, within⟩ := sound
    exact Or.inl ⟨count, body, at?, begun, rfl, within⟩
  | _ =>
    obtain ⟨rfl, rfl⟩ := sound
    exact Or.inr ⟨rfl, fun _ _ _ => Command.noConfusion⟩

end Frame

/-- The body that a leaf stands for, if it calls a procedure with arguments that fit. -/
def Scheduler.called? (s : Scheduler) (op : String) (args : List String) (at? : Option Location) :
    Option (Procedure × List Command) :=
  match s.registry.get? op with
  | none => none
  | some procedure =>
    match procedure.bind args at? with
    | .error _ => none
    | .ok body => some (procedure, body)

namespace Moment

/-- A step is taken at a moment. -/
def steps (m : Moment) : Bool :=
  (m.before.stepping? m.turn).isSome

/-- The frame that a step takes from the stack. -/
def takes? (m : Moment) : Option Frame :=
  if m.steps then m.before.sched.stack.head? else none

/-- What is entered into the journal at a moment, and for which place. -/
def entered? (m : Moment) : Option (StepEvent × Option Location) :=
  (m.before.sched.logged? m.after.sched).map fun entry => (entry.event, entry.at?)

/-- A step fails because the stack that it leaves cannot be recorded, and it makes no entry. -/
structure Unwritten (m : Moment) : Prop where
  unentered : m.entered? = none
  unrecordable : ¬m.after.sched.Recordable
  fails : m.after.signal = .raised .unwritableNumber

/-- A step makes this entry, unless it fails because the stack cannot be recorded. -/
def Notes (m : Moment) (event : StepEvent) (at? : Option Location) : Prop :=
  m.entered? = some (event, at?) ∨ m.Unwritten

/-- A step of the running cycle puts frames in the place of one. -/
inductive Replaces (m : Moment) : Frame → List Frame → Prop where
  /-- A loop begins a round: its body is to be run, and then it is its turn again. -/
  | round {count : Int} {body : List Command} {at? : Option Location} {begun : Nat} :
    (begun : Int) < count → m.Notes (.round (begun + 1)) at? →
      Replaces m (.ofLoop count body at? begun)
        (Frame.ofBody body ++ [.ofLoop count body at? (begun + 1)])
  | ends {count : Int} {body : List Command} {at? : Option Location} {begun : Nat} :
    ¬(begun : Int) < count → m.Notes .roundsOver at? →
      Replaces m (.ofLoop count body at? begun) []
  | define {name : String} {params : List String} {body : List Command} {at? : Option Location} :
    m.Notes (.define name) at? →
      Replaces m (.ofCommand (.define name params body at?)) []
  | call {op : String} {args : List String} {at? : Option Location} {procedure : Procedure}
    {body : List Command} : m.before.sched.called? op args at? = some (procedure, body) →
      m.Notes (.call procedure.name) at? →
      Replaces m (.ofCommand (.leaf op args at?)) (Frame.ofBody body)
  /-- A primitive is drawn, or a fault is reported. -/
  | leaf {op : String} {args : List String} {at? : Option Location} :
    m.before.sched.called? op args at? = none → Replaces m (.ofCommand (.leaf op args at?)) []
  | stray (shown? : Option String) : Replaces m (.ofCommand (.stray shown?)) []

/-- What a step of a cycle that goes on does to the stack: it takes up a command that has waited, or
it replaces the topmost frame and leaves those below it as they are. -/
inductive Handles (m : Moment) : Prop where
  | fetch (command : Command) (empty : m.before.sched.stack = [])
    (first : m.before.sched.queue.next? = some (command, m.after.sched.queue))
    (after_eq : m.after.sched.stack = [.ofCommand command]) : Handles m
  | replace {frame : Frame} {frames below : List Frame} (taken : m.takes? = some frame)
    (before_eq : m.before.sched.stack = frame :: below) (replaces : m.Replaces frame frames)
    (after_eq : m.after.sched.stack = frames ++ below) : Handles m

variable {m : Moment} {frame : Frame} {frames others : List Frame}

theorem Replaces.unique (replaces : m.Replaces frame frames) (again : m.Replaces frame others) :
    frames = others := by
  cases replaces with
  | @round count body at? begun left notes =>
    generalize same : Frame.ofLoop count body at? begun = frame at again
    cases again with
    | round => cases same; rfl
    | ends done => cases same; exact absurd left done
    | _ => cases same
  | @ends count body at? begun done notes =>
    generalize same : Frame.ofLoop count body at? begun = frame at again
    cases again with
    | round left => cases same; exact absurd left done
    | ends => rfl
    | _ => cases same
  | @define name params body at? notes =>
    generalize same : Frame.ofCommand (.define name params body at?) = frame at again
    cases again with
    | define => rfl
    | _ => cases same
  | @call op args at? procedure body called notes =>
    generalize same : Frame.ofCommand (.leaf op args at?) = frame at again
    cases again with
    | call called' => cases same; cases called.symm.trans called'; rfl
    | leaf uncalled => cases same; cases called.symm.trans uncalled
    | _ => cases same
  | @leaf op args at? uncalled =>
    generalize same : Frame.ofCommand (.leaf op args at?) = frame at again
    cases again with
    | call called => cases same; cases uncalled.symm.trans called
    | leaf => rfl
    | _ => cases same
  | stray shown? =>
    generalize same : Frame.ofCommand (.stray shown?) = frame at again
    cases again with
    | stray => rfl
    | _ => cases same

/-- What is put in the place of a sound frame is sound. -/
theorem Replaces.sound (replaces : m.Replaces frame frames) : ∀ other ∈ frames, other.Sound := by
  cases replaces with
  | @round count body at? begun left notes =>
    intro other member
    rcases List.mem_append.mp member with inside | last
    · exact Frame.sound_ofBody body other inside
    · obtain rfl := List.mem_singleton.mp last
      refine Frame.sound_ofLoop ?_ body at?
      omega
  | call => exact Frame.sound_ofBody _
  | _ => simp

end Moment

namespace Scheduler

variable {s : Scheduler} {frame : Frame} {below : List Frame} {op : String} {args : List String}
  {at? : Option Location}

theorem operate_of_called {procedure : Procedure} {body : List Command}
    (called : s.called? op args at? = some (procedure, body)) :
    s.operate op args at? =
      ({ s with stack := Frame.ofBody body ++ s.stack } : Scheduler).complete
        (.call procedure.name) at? := by
  unfold called? at called
  split at called
  · contradiction
  · rename_i found
    split at called
    · contradiction
    · rename_i bound
      cases called
      simp only [operate, found, bound]
      rfl

/-- A leaf that calls nothing changes nothing by itself. -/
theorem operate_of_uncalled (uncalled : s.called? op args at? = none) :
    (s.operate op args at?).1 = s := by
  unfold operate
  split
  · rename_i procedure found
    cases bound : procedure.bind args at? with
    | error fault => rfl
    | ok body => simp [called?, found, bound] at uncalled
  · split
    · rfl
    · split <;> rfl

end Scheduler

namespace Engine

open Scheduler

variable {rules : Rules} {e next : Engine} {turn : Turn} {s : Scheduler} {tasks : List Task}

theorem takeStep_of_complete {after : Scheduler} {event : StepEvent} {at? : Option Location}
    (stepped : s.step = after.complete event at?) :
    (∃ stack?, takeStep s tasks = ⟨after.enter event at? stack?, tasks, .answered true⟩) ∨
      ¬after.Recordable ∧ takeStep s tasks = ⟨after, tasks, .raised .unwritableNumber⟩ := by
  rw [takeStep, stepped]
  rcases after.complete_cases event at? with ⟨stack?, _, completed⟩ | ⟨unrecordable, completed⟩ <;>
    rw [completed]
  · exact Or.inl ⟨stack?, rfl⟩
  · exact Or.inr ⟨unrecordable, rfl⟩

theorem notes_of_complete {after : Scheduler} {event : StepEvent} {at? : Option Location}
    (stepped : s.step = after.complete event at?) (journal_eq : after.journal = e.sched.journal) :
    (Moment.mk e turn (takeStep s tasks)).Notes event at? := by
  rcases takeStep_of_complete stepped with ⟨stack?, same⟩ | ⟨unrecordable, same⟩ <;> rw [same]
  · have entry : (after.enter event at? stack?).journal =
        e.sched.journal.record event at? stack? := by
      rw [← journal_eq]
      rfl
    exact Or.inl (by rw [Moment.entered?, logged?_of_record entry]; rfl)
  · exact Or.inr ⟨by rw [Moment.entered?, logged?_of_same journal_eq]; rfl, unrecordable, rfl⟩

theorem stack_of_takeStep (goes : (takeStep s tasks).sched.phase = .running) :
    (takeStep s tasks).sched.stack = s.step.1.stack := by
  rcases takeStep_noted s tasks with noted | ⟨after, phase, stepped, halts⟩
  · exact noted.abides.stack_eq
  · rw [halts] at goes
    exact absurd goes (halt_rests _ (rests_of_step_eq_halt stepped) _)

/-- A step that does not end the running cycle finds it live, and something to do. -/
theorem live_of_takeStep (running : s.phase = .running)
    (goes : (takeStep s tasks).sched.phase = .running) : s.live = true := by
  cases live : s.live with
  | true => rfl
  | false =>
    rw [takeStep, step_of_unlive running live] at goes
    exact absurd goes (halt_rests _ Phase.noConfusion _)

theorem running_of_takeStep (goes : (takeStep s tasks).sched.phase = .running) :
    s.phase = .running := by
  apply Classical.byContradiction
  intro rests
  rw [takeStep, step_of_rest rests] at goes
  exact rests goes

theorem handles_of_takeStep (stepping : e.stepping? turn = some s)
    (sound : ∀ frame ∈ e.sched.stack, frame.Sound)
    (goes : (takeStep s tasks).sched.phase = .running) :
    (Moment.mk e turn (takeStep s tasks)).Handles := by
  obtain ⟨timers, s_eq⟩ := stepping?_eq stepping
  have same : Abides e.sched s := s_eq ▸ ⟨rfl, rfl, rfl⟩
  have journal_eq : s.journal = e.sched.journal := by rw [s_eq]
  have running := running_of_takeStep goes
  have live := live_of_takeStep running goes
  have after_eq := stack_of_takeStep goes
  cases stacked : s.stack with
  | nil =>
    cases taken : s.queue.next? with
    | none =>
      rw [takeStep, step_of_nothing running live stacked taken] at goes
      exact absurd goes (halt_rests _ Phase.noConfusion _)
    | some pair =>
      obtain ⟨command, rest⟩ := pair
      have stepped := step_of_waiting running live stacked taken
      refine .fetch command (same.stack_eq.symm.trans stacked) ?_ ?_
      · rw [← same.queue_eq, taken]
        rcases takeStep_of_complete stepped with ⟨_, same⟩ | ⟨_, same⟩ <;> rw [same] <;> rfl
      · rcases takeStep_of_complete stepped with ⟨_, same⟩ | ⟨_, same⟩ <;> rw [same] <;> rfl
  | cons frame below =>
    have stepped := step_of_frame running live stacked
    have before_eq : e.sched.stack = frame :: below := same.stack_eq.symm.trans stacked
    rw [stepped] at after_eq
    have taken : (Moment.mk e turn (takeStep s tasks)).takes? = some frame := by
      simp [Moment.takes?, Moment.steps, stepping, before_eq]
    have frame_sound := sound frame (before_eq ▸ List.mem_cons_self ..)
    rcases frame_sound.shape with ⟨count, body, at?, begun, rfl, _⟩ | ⟨new, other⟩
    · by_cases left : (begun : Int) < count
      · simp only [advance, Frame.ofLoop, if_pos left] at stepped after_eq
        refine .replace taken before_eq (.round left (notes_of_complete stepped journal_eq)) ?_
        rw [after_eq, complete_stack, List.append_assoc]
        rfl
      · simp only [advance, Frame.ofLoop, if_neg left] at stepped after_eq
        rw [complete_stack] at after_eq
        exact .replace taken before_eq (.ends left (notes_of_complete stepped journal_eq)) after_eq
    · rw [new] at stepped after_eq before_eq taken
      cases command : frame.command with
      | loop count body at? => exact absurd command (other count body at?)
      | define name params body at? =>
        rw [command] at stepped after_eq before_eq taken
        exact .replace taken before_eq (.define (notes_of_complete stepped journal_eq))
          (after_eq.trans (complete_stack _ _ _))
      | stray shown? =>
        rw [command] at stepped after_eq before_eq taken
        exact .replace taken before_eq (.stray shown?) after_eq
      | leaf op args at? =>
        rw [command] at stepped after_eq before_eq taken
        change s.step = (s.count.lay below).operate op args at? at stepped
        change _ = ((s.count.lay below).operate op args at?).1.stack at after_eq
        have lookup : (s.count.lay below).called? op args at? = e.sched.called? op args at? := by
          rw [called?, called?, ← same.registry_eq]
          rfl
        cases called : e.sched.called? op args at? with
        | none =>
          rw [operate_of_uncalled (lookup.trans called)] at after_eq
          exact .replace taken before_eq (.leaf called) after_eq
        | some both =>
          obtain ⟨procedure, body⟩ := both
          rw [operate_of_called (lookup.trans called)] at stepped after_eq
          rw [complete_stack] at after_eq
          refine .replace taken before_eq (.call called ?_) after_eq
          exact notes_of_complete stepped journal_eq

end Engine

namespace Plays

open Engine

variable {rules : Rules} {settings : Settings} {journal : Journal StepEvent}
  {registry : Registry} {past : List Moment} {now : Engine}

theorem sound (played : Plays rules (.atRest (.fresh settings journal registry)) past now) :
    ∀ frame ∈ now.sched.stack, frame.Sound := by
  induction played with
  | start => simp [atRest, Scheduler.fresh, Scheduler.idle]
  | @turn past e next turn before taken ih =>
    have acts := turn?_acts before.shaped taken
    by_cases goes : next.sched.phase = .running
    · cases acts.layers with
      | keep _ _ _ same => rwa [same.stack_eq]
      | step s stepping _ _ =>
        obtain ⟨⟨tasks, rfl⟩, _⟩ := acts.eq_takeStep stepping
        cases handles_of_takeStep stepping ih goes with
        | fetch command _ _ after_eq =>
          intro frame member
          have member' : frame ∈ [Frame.ofCommand command] := after_eq ▸ member
          rw [List.mem_singleton.mp member']
          exact Frame.sound_ofCommand command
        | @replace frame frames below _ before_eq replaces after_eq =>
          intro other member
          have member' : other ∈ frames ++ below := after_eq ▸ member
          rcases List.mem_append.mp member' with new | old
          · exact replaces.sound other new
          · exact ih other (before_eq ▸ List.mem_cons_of_mem _ old)
      | accept _ _ _ stack_eq => rwa [stack_eq]
      | define _ _ _ _ made => rwa [made]
      | close _ ended => simp [ended.stack_eq]
    · simp [(before.turn taken).tidy.stack_eq goes]

/-- A step that does not end the cycle works on the top of the stack; no other turn of it does. -/
theorem handles {m : Moment}
    (played : Plays rules (.atRest (.fresh settings journal registry)) (m :: past) now)
    (goes : m.after.sched.phase = .running) :
    (m.steps = true → m.Handles) ∧
      (m.steps = false → m.after.sched.stack = m.before.sched.stack) := by
  obtain ⟨before, taken, rfl⟩ := played.last
  have acts := turn?_acts before.shaped taken
  constructor
  · intro steps
    obtain ⟨s, stepping⟩ := Option.isSome_iff_exists.mp steps
    obtain ⟨⟨tasks, after_eq⟩, _⟩ := acts.eq_takeStep stepping
    have handles := handles_of_takeStep stepping before.sound (after_eq ▸ goes)
    rwa [← after_eq] at handles
  · intro unstepped
    cases acts.layers with
    | keep _ _ _ same => exact same.stack_eq
    | step s stepping => simp [Moment.steps, stepping] at unstepped
    | accept _ _ _ stack_eq => exact stack_eq
    | define _ _ _ _ made => rw [made]; rfl
    | close _ ended => exact absurd goes ended.rests

end Plays

end Turtle
