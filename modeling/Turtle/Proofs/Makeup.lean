import Turtle.Proofs.Change
import Turtle.Proofs.Stack

/-!
# What commands are made of

What is so of a command and of all the commands in it, and does not depend on the words in their
leaves, stays so when arguments are put for parameters.  If it is so of everything that a scheduler
holds, then it is so of everything that comes on its stack, and it stays so in a play in which
nothing else is brought in.
-/

set_option autoImplicit false

namespace Turtle

mutual

/-- Something is so of a command and of all the commands in it. -/
def Command.every (fits : Command → Bool) : Command → Bool
  | .leaf op args at? => fits (.leaf op args at?)
  | .loop count body at? => fits (.loop count body at?) && Command.everyOf fits body
  | .define name params body at? =>
    fits (.define name params body at?) && Command.everyOf fits body
  | .stray shown? => fits (.stray shown?)

def Command.everyOf (fits : Command → Bool) : List Command → Bool
  | [] => true
  | command :: rest => command.every fits && Command.everyOf fits rest

end

/-- Arguments that are put for parameters make no difference. -/
def Command.Steadfast (fits : Command → Bool) : Prop :=
  ∀ bindings command, fits (Command.substitute bindings command) = fits command

variable {fits : Command → Bool}

namespace Command

theorem everyOf_eq_true_iff {commands : List Command} :
    everyOf fits commands = true ↔ ∀ command ∈ commands, command.every fits = true := by
  induction commands with
  | nil => simp [everyOf]
  | cons command rest ih => rw [everyOf, Bool.and_eq_true, ih, List.forall_mem_cons]

/-- What is so of a command and of all the commands in it is so of the command. -/
theorem fits_of_every {command : Command} (every : command.every fits = true) :
    fits command = true := by
  cases command with
  | leaf | stray => exact every
  | loop | define =>
    rw [Command.every, Bool.and_eq_true] at every
    exact every.1

mutual

theorem every_substitute (steadfast : Steadfast fits) (bindings : Bindings) :
    ∀ command : Command, (command.substitute bindings).every fits = command.every fits
  | .leaf op args at? => steadfast bindings (.leaf op args at?)
  | .loop count body at? => by
    have own := steadfast bindings (.loop count body at?)
    rw [substitute] at own ⊢
    rw [every, every, own, everyOf_substituteAll steadfast bindings body]
  | .define name params body at? => by
    have own := steadfast bindings (.define name params body at?)
    rw [substitute] at own ⊢
    rw [every, every, own, everyOf_substituteAll steadfast bindings body]
  | .stray shown? => steadfast bindings (.stray shown?)

theorem everyOf_substituteAll (steadfast : Steadfast fits) (bindings : Bindings) :
    ∀ commands : List Command,
      everyOf fits (substituteAll bindings commands) = everyOf fits commands
  | [] => rfl
  | command :: rest => by
    rw [substituteAll, everyOf, everyOf, every_substitute steadfast bindings command,
      everyOf_substituteAll steadfast bindings rest]

end

end Command

theorem Procedure.everyOf_bind (steadfast : Command.Steadfast fits) {procedure : Procedure}
    {args : List String} {at? : Option Location} {body : List Command}
    (bound : procedure.bind args at? = .ok body) :
    Command.everyOf fits body = Command.everyOf fits procedure.body := by
  rcases procedure.body_of_bind bound with rfl | rfl
  · rfl
  · exact Command.everyOf_substituteAll steadfast _ _

namespace Registry

def every (fits : Command → Bool) (registry : Registry) : Bool :=
  registry.procedures.all fun procedure => Command.everyOf fits procedure.body

variable {registry : Registry}

theorem everyOf_get? (every : registry.every fits = true) {name : String} {procedure : Procedure}
    (found : registry.get? name = some procedure) : Command.everyOf fits procedure.body = true :=
  List.all_eq_true.mp every procedure (List.mem_of_find?_eq_some found)

theorem every_define (every : registry.every fits = true) (name : String) (params : List String)
    {body : List Command} (new : Command.everyOf fits body = true) :
    (registry.define name params body).every fits = true := by
  have all_put : ∀ procedures : List Procedure,
      procedures.all (fun procedure => Command.everyOf fits procedure.body) = true →
        (put (procedureOf name params body) procedures).all
          (fun procedure => Command.everyOf fits procedure.body) = true := by
    intro procedures
    induction procedures with
    | nil => exact fun _ => by simpa [put, procedureOf] using new
    | cons first rest ih =>
      intro all
      rw [List.all_cons, Bool.and_eq_true] at all
      rw [put]
      split
      · rw [List.all_cons, Bool.and_eq_true]
        exact ⟨new, all.2⟩
      · rw [List.all_cons, Bool.and_eq_true]
        exact ⟨all.1, ih all.2⟩
  exact all_put registry.procedures every

theorem every_defineAll (every : registry.every fits = true) {batch : List Command}
    (new : Command.everyOf fits batch = true) : (registry.defineAll batch).every fits = true := by
  induction batch generalizing registry with
  | nil => exact every
  | cons command rest ih =>
    rw [Command.everyOf, Bool.and_eq_true] at new
    cases command with
    | define name params body at? =>
      have inside := new.1
      rw [Command.every, Bool.and_eq_true] at inside
      exact ih (every_define every name params inside.2) new.2
    | _ => exact ih every new.2

end Registry

/-- A frame of a command with something so of it, and of the body that its rounds run. -/
structure Frame.Every (fits : Command → Bool) (frame : Frame) : Prop where
  command : frame.command.every fits = true
  pending : ∀ body, frame.pending? = some body → Command.everyOf fits body = true

theorem Frame.every_ofCommand {command : Command} (every : command.every fits = true) :
    (ofCommand command).Every fits where
  command := by rwa [command_ofCommand]
  pending := by
    intro body pending
    cases command with
    | loop =>
      obtain rfl := Option.some.inj pending
      rw [Command.every, Bool.and_eq_true] at every
      exact every.2
    | _ => contradiction

theorem Frame.every_load {body : List Command} {stack : List Frame}
    (every : Command.everyOf fits body = true) (below : ∀ frame ∈ stack, frame.Every fits) :
    ∀ frame ∈ load body stack, frame.Every fits := by
  intro frame member
  rcases List.mem_append.mp member with loaded | later
  · obtain ⟨command, listed, rfl⟩ := List.mem_map.mp loaded
    exact every_ofCommand (Command.everyOf_eq_true_iff.mp every command listed)
  · exact below frame later

namespace Scheduler

/-- Something is so of everything that a scheduler can still come to. -/
structure Every (fits : Command → Bool) (s : Scheduler) : Prop where
  stack : ∀ frame ∈ s.stack, frame.Every fits
  waiting : Command.everyOf fits s.queue.pending = true
  registry : s.registry.every fits = true

variable {s : Scheduler}

theorem Every.lay (every : s.Every fits) {stack : List Frame}
    (new : ∀ frame ∈ stack, frame.Every fits) :
    ({ s with stack := stack } : Scheduler).Every fits :=
  { every with stack := new }

theorem Every.define (every : s.Every fits) (name : String) (params : List String)
    {body : List Command} (new : Command.everyOf fits body = true) :
    (s.define name params body).Every fits :=
  { every with registry := Registry.every_define every.registry name params new }

theorem Every.accept (every : s.Every fits) {batch : List Command}
    (new : Command.everyOf fits batch = true) (callback? : Option Nat) :
    (s.accept batch callback?).Every fits where
  stack := every.stack
  registry := Registry.every_defineAll every.registry new
  waiting := by
    rw [Command.everyOf_eq_true_iff] at new ⊢
    intro command member
    rcases List.mem_append.mp member with earlier | later
    · exact Command.everyOf_eq_true_iff.mp every.waiting command earlier
    · exact new command (List.mem_filter.mp later).1

theorem Every.endCycle (every : s.Every fits) (phase : Phase) :
    (s.endCycle phase).1.Every fits where
  stack := fun _ member => absurd member List.not_mem_nil
  waiting := rfl
  registry := every.registry

theorem Every.complete (every : s.Every fits) (event : StepEvent) (at? : Option Location) :
    (s.complete event at?).1.Every fits := by
  rcases s.complete_cases event at? with ⟨_, _, completed⟩ | ⟨_, completed⟩ <;> rw [completed]
  · exact { every with }
  · exact every

theorem Every.operate (every : s.Every fits) (steadfast : Command.Steadfast fits) (op : String)
    (args : List String) (at? : Option Location) : (s.operate op args at?).1.Every fits := by
  unfold Scheduler.operate
  split
  · rename_i procedure found
    split
    · exact every
    · rename_i body bound
      have loaded := (Procedure.everyOf_bind steadfast bound).trans
        (Registry.everyOf_get? every.registry found)
      exact (every.lay (Frame.every_load loaded every.stack)).complete _ _
  · split
    · exact every
    · split <;> exact every

theorem Every.advance (every : s.Every fits) (steadfast : Command.Steadfast fits) {frame : Frame}
    {below : List Frame} (top : frame.Every fits) (rest : ∀ other ∈ below, other.Every fits) :
    (s.advance frame below).1.Every fits := by
  unfold Scheduler.advance
  split
  · split
    · rename_i iteration body _ pending
      split
      · have again : ({ frame with iteration? := some (iteration + 1) } : Frame).Every fits :=
          { top with }
        have loaded := Frame.every_load (top.pending body pending)
          (List.forall_mem_cons.mpr ⟨again, rest⟩)
        exact (every.lay loaded).complete _ _
      · exact (every.lay rest).complete _ _
    · exact every
  · rename_i name params body at? same
    have inside := top.command
    rw [same, Command.every, Bool.and_eq_true] at inside
    exact ((every.lay rest).define name params inside.2).complete _ _
  · exact every.lay rest
  · exact (every.lay rest).operate steadfast _ _ _

/-- A step brings nothing on the stack that was not there already, or waiting, or defined. -/
theorem Every.step (every : s.Every fits) (steadfast : Command.Steadfast fits) :
    s.step.1.Every fits := by
  unfold Scheduler.step
  split
  · exact every
  split
  · exact every
  have counted : ({ s with steps := s.steps + 1 } : Scheduler).Every fits := { every with }
  dsimp only
  split
  · rename_i frame below stacked
    have frames := every.stack
    rw [stacked] at frames
    obtain ⟨top, rest⟩ := List.forall_mem_cons.mp frames
    exact counted.advance steadfast top rest
  · split
    · exact counted
    · rename_i command rest taken
      have pending : s.queue.pending = command :: rest.pending := by
        unfold CommandQueue.next? at taken
        split at taken
        · contradiction
        · rename_i pending
          cases taken
          exact pending
      have waiting := every.waiting
      rw [pending, Command.everyOf, Bool.and_eq_true] at waiting
      have loaded : ({ s with
          steps := s.steps + 1, queue := rest, stack := [Frame.ofCommand command] } :
            Scheduler).Every fits :=
        ⟨List.forall_mem_singleton.mpr (Frame.every_ofCommand waiting.1), waiting.2, every.registry⟩
      exact loaded.complete _ _

end Scheduler

/-! ## Plays -/

/-- Something is so of all the commands that a move brings in. -/
def Engine.Move.every (fits : Command → Bool) : Engine.Move → Bool
  | cue entries _ =>
    match Engine.commands entries with
    | .error _ => true
    | .ok batch => Command.everyOf fits batch
  | define _ _ body => Command.everyOf fits body
  | enqueue commands => Command.everyOf fits commands
  | _ => true

/-- Something is so of all the commands that are to be taken in. -/
def Task.every (fits : Command → Bool) : Task → Bool
  | cueing batch _ => Command.everyOf fits batch
  | _ => true

namespace Engine

/-- Something is so of everything that an engine can still come to. -/
structure Every (fits : Command → Bool) (e : Engine) : Prop where
  sched : e.sched.Every fits
  tasks : ∀ task ∈ e.tasks, task.every fits = true

section Every

variable {s : Scheduler} {tasks : List Task} (every : s.Every fits)
  (waiting : ∀ task ∈ tasks, task.every fits = true)
include every waiting

theorem every_tell (notice : Notice) (observers : List Nat) :
    (tell s notice tasks observers).Every fits := by
  cases observers with
  | nil => exact ⟨every, waiting⟩
  | cons observer rest => exact ⟨every, List.forall_mem_cons.mpr ⟨rfl, by simpa [Task.every]⟩⟩

theorem every_tellFault (fault : Fault) (observers : List Nat) :
    (tellFault s fault tasks observers).Every fits := by
  cases observers with
  | nil => exact ⟨every, waiting⟩
  | cons observer rest => exact ⟨every, List.forall_mem_cons.mpr ⟨rfl, by simpa [Task.every]⟩⟩

theorem every_settle (result : RunResult) (callbacks : List Nat) :
    (settle s result tasks callbacks).Every fits := by
  cases callbacks with
  | nil => exact ⟨every, waiting⟩
  | cons callback rest => exact ⟨every, List.forall_mem_cons.mpr ⟨rfl, by simpa [Task.every]⟩⟩

theorem every_report (fault : Fault) : (report s fault tasks).Every fits := by
  rcases report_cases s fault tasks with ⟨stack?, _, reported⟩ | ⟨_, reported⟩ <;> rw [reported]
  · have entered : (s.reportWith fault stack?).1.Every fits := { every with }
    exact every_tellFault entered waiting _ _
  · exact ⟨every, waiting⟩

theorem every_halt (phase : Phase) : (halt s phase tasks).Every fits := by
  by_cases running : s.phase = .running
  · rw [halt_of_running running]
    refine every_tell (every.endCycle phase) (List.forall_mem_cons.mpr ⟨?_, waiting⟩) _ _
    rfl
  · rw [halt_of_rest running]
    exact ⟨every, waiting⟩

theorem every_paint (leaf : Command) (primitive : Primitive) (calls : List Call) :
    (paint s leaf primitive tasks calls).Every fits := by
  cases calls with
  | nil =>
    rcases paint_nil_cases s leaf primitive tasks with ⟨stack?, _, painted⟩ | ⟨_, painted⟩ <;>
      rw [painted]
    · have entered : (s.enter (.primitive primitive.name) leaf.location? stack?).Every fits :=
        { every with }
      refine every_tell entered (List.forall_mem_cons.mpr ⟨?_, waiting⟩) _ _
      rfl
    · exact ⟨every, waiting⟩
  | cons call rest =>
    exact ⟨{ every with }, List.forall_mem_cons.mpr ⟨rfl, by simpa [Task.every]⟩⟩

theorem every_takeStep (steadfast : Command.Steadfast fits) : (takeStep s tasks).Every fits := by
  have next_every := every.step steadfast
  have stepped : ∀ more, ∀ task ∈ Task.stepped more :: tasks, task.every fits = true :=
    fun more => List.forall_mem_cons.mpr ⟨rfl, waiting⟩
  obtain ⟨next, work, found⟩ : ∃ next work, s.step = (next, work) := ⟨_, _, rfl⟩
  rw [found] at next_every
  rw [takeStep, found]
  cases work with
  | answer more => exact ⟨next_every, waiting⟩
  | draw leaf primitive calls => exact every_paint next_every waiting leaf primitive calls
  | report fault => exact every_report next_every (stepped true) fault
  | halt phase => exact every_halt next_every (stepped false) phase
  | fail failure => exact ⟨next_every, waiting⟩

theorem every_pause : (pause s tasks).Every fits := by
  unfold pause
  split <;> exact ⟨{ every with }, waiting⟩

theorem every_receive {batch : List Command} (new : Command.everyOf fits batch = true)
    (callback? : Option Nat) : (receive s batch callback? tasks).Every fits := by
  have accepted := every.accept new callback?
  unfold receive
  split
  · exact ⟨accepted, waiting⟩
  · split
    · exact ⟨every, waiting⟩
    · have begun : (s.accept batch callback?).beginCycle.Every fits := { accepted with }
      refine every_tell begun (List.forall_mem_cons.mpr ⟨?_, waiting⟩) _ _
      rfl

end Every

variable {rules : Rules} {e next : Engine} {turn : Turn}

/-- A turn brings in nothing but what a move brings. -/
theorem Acts.every (acts : Acts rules e turn next) (steadfast : Command.Steadfast fits)
    (brought : ∀ site move, rules site move = true → move.every fits = true)
    (every : e.Every fits) : next.Every fits := by
  obtain ⟨every, waiting⟩ := every
  have below : ∀ {task : Task} {tasks : List Task}, (∀ other ∈ task :: tasks,
      other.every fits = true) → ∀ other ∈ tasks, other.every fits = true :=
    fun all => (List.forall_mem_cons.mp all).2
  have onto : ∀ {task : Task} {tasks : List Task}, task.every fits = true →
      (∀ other ∈ tasks, other.every fits = true) → ∀ other ∈ task :: tasks,
        other.every fits = true :=
    fun top rest => List.forall_mem_cons.mpr ⟨top, rest⟩
  cases acts with
  | receive => exact every_receive every (below waiting) (waiting _ (List.mem_cons_self ..)) _
  | start | goOn => exact every_takeStep every (onto rfl (below waiting)) steadfast
  | cancel => exact every_halt every (onto rfl (below waiting)) _
  | tell => exact every_tell every (below waiting) _ _
  | complain => exact every_report every (below waiting) _
  | tellFault => exact every_tellFault every (below waiting) _ _
  | giveUp => exact ⟨{ every with }, below waiting⟩
  | paint => exact every_paint every (below waiting) _ _ _
  | spoil => exact every_report every (onto rfl (below waiting)) _
  | pause => exact every_pause every (below waiting)
  | settle => exact every_settle every (below waiting) _ _
  | supersede s site tasks signal entries callback? batch allowed coerced =>
    have new := brought _ _ allowed
    rw [Move.every, coerced] at new
    have cueing : (Task.cueing batch callback?).every fits = true := new
    exact every_halt every (onto cueing waiting) _
  | cue s site tasks signal entries callback? batch allowed coerced =>
    have new := brought _ _ allowed
    rw [Move.every, coerced] at new
    exact every_receive every waiting new callback?
  | step => exact every_takeStep every waiting steadfast
  | resume => exact every_takeStep { every with } (onto rfl waiting) steadfast
  | define s site tasks signal name params body allowed =>
    exact ⟨every.define name params (brought _ _ allowed), waiting⟩
  | leaveOff | rethrow | answer | pass | finish | raise => exact ⟨every, below waiting⟩
  | refuse | idle => exact ⟨every, waiting⟩
  | stop | expire | attach => exact ⟨{ every with }, waiting⟩

end Engine

/-- What is so of all the commands at the start of a play, and of all that are brought in, is so of
all commands at any time. -/
theorem Plays.every {rules : Rules} {s : Scheduler} {past : List Moment} {now : Engine}
    (steadfast : Command.Steadfast fits)
    (brought : ∀ site move, rules site move = true → move.every fits = true)
    (initially : s.Every fits) (played : Plays rules (.atRest s) past now) : now.Every fits := by
  refine played.by_acts (fun _ now => now.Every fits) ?_ fun _ _ _ _ _ _ acts before =>
    acts.every steadfast brought before
  exact ⟨initially, List.forall_mem_singleton.mpr rfl⟩

end Turtle
