import Turtle.Proofs.Costs
import Turtle.Proofs.Frames
import Turtle.Proofs.Lexical

/-!
# The height of the stack

A loop lies under its body, and a command of a body on those after it.  A call takes the place of
its frame and leaves nothing behind, so that procedures that call one another in the last place of
their bodies may go on forever without a higher stack.  How high it can be is read off the program
and the bodies of the procedures, whatever the counts of the loops and the arguments are.
-/

set_option autoImplicit false

namespace Turtle

/-- The greatest height of some things. -/
def highest {α : Type} (height : α → Nat) : List α → Nat
  | [] => 0
  | first :: rest => max (height first) (highest height rest)

theorem le_highest_of_mem {α : Type} (height : α → Nat) {x : α} {xs : List α} (member : x ∈ xs) :
    height x ≤ highest height xs := by
  induction xs with
  | nil => contradiction
  | cons first rest ih =>
    rw [highest]
    rcases List.mem_cons.mp member with rfl | later
    · exact Nat.le_max_left _ _
    · exact Nat.le_trans (ih later) (Nat.le_max_right _ _)

mutual

/-- The most frames that a command takes, where those of leaves are given. -/
def Command.heightBy (leaf : String → Nat) : Command → Nat
  | .leaf op _ _ => leaf op
  | .loop _ body _ => 1 + Command.heightAllBy leaf body
  | .define _ _ _ _ => 1
  | .stray _ => 1

/-- The most frames that commands take one after another, when each lies on those after it. -/
def Command.heightAllBy (leaf : String → Nat) : List Command → Nat
  | [] => 0
  | command :: rest =>
    max (rest.length + command.heightBy leaf) (Command.heightAllBy leaf rest)

end

namespace Command

variable {leaf other : String → Nat}

theorem heightAllBy_le_iff {bound : Nat} {body : List Command} :
    heightAllBy leaf body ≤ bound ↔
      ∀ before command after, body = before ++ command :: after →
        after.length + command.heightBy leaf ≤ bound := by
  induction body with
  | nil => simp [heightAllBy]
  | cons first rest ih =>
    rw [heightAllBy, Nat.max_le, ih]
    constructor
    · rintro ⟨here, later⟩ before command after split
      cases before with
      | nil =>
        obtain ⟨rfl, rfl⟩ := List.cons.inj split
        exact here
      | cons _ before => exact later before command after (List.cons.inj split).2
    · intro each
      refine ⟨each [] first rest rfl, fun before command after split => ?_⟩
      exact each (first :: before) command after (congrArg (first :: ·) split)

theorem heightAllBy_map {f : Command → Command} {body : List Command}
    (same : ∀ command ∈ body, (f command).heightBy leaf = command.heightBy other) :
    heightAllBy leaf (body.map f) = heightAllBy other body := by
  induction body with
  | nil => rfl
  | cons first rest ih =>
    rw [List.map_cons, heightAllBy, heightAllBy, same first (List.mem_cons_self ..),
      ih fun command member => same command (List.mem_cons_of_mem _ member), List.length_map]

theorem Simple.heightBy_congr {allowed : String → Prop}
    (same : ∀ op, allowed op → leaf op = other op) {command : Command}
    (simple : command.Simple allowed) : command.heightBy leaf = command.heightBy other := by
  induction simple with
  | leaf args at? allows => exact same _ allows
  | loop count at? _ ih =>
    have inside := heightAllBy_map (f := id) ih
    rw [List.map_id] at inside
    rw [heightBy, heightBy, inside]

theorem heightAllBy_mono {body : List Command}
    (le : ∀ command ∈ body, command.heightBy leaf ≤ command.heightBy other) :
    heightAllBy leaf body ≤ heightAllBy other body := by
  rw [heightAllBy_le_iff]
  rintro before command after rfl
  have here := le command (by simp)
  have whole := heightAllBy_le_iff.mp (Nat.le_refl (heightAllBy other _)) before command after rfl
  omega

theorem Simple.heightBy_mono {allowed : String → Prop} (le : ∀ op, leaf op ≤ other op)
    {command : Command} (simple : command.Simple allowed) :
    command.heightBy leaf ≤ command.heightBy other := by
  induction simple with
  | leaf args at? _ => exact le _
  | loop count at? _ ih => exact Nat.add_le_add_left (heightAllBy_mono ih) 1

theorem heightBy_pos (pos : ∀ op, 1 ≤ leaf op) (command : Command) : 1 ≤ command.heightBy leaf := by
  cases command with
  | leaf op args at? => exact pos op
  | loop count body at? => exact Nat.le_add_right 1 _
  | define | stray => exact Nat.le_refl 1

/-- Arguments that take the place of no operator change no height. -/
theorem Simple.heightBy_substitute {bindings : Bindings} {command : Command}
    (simple : command.Simple fun op => bindings.token op = op) :
    (command.substitute bindings).heightBy leaf = command.heightBy leaf := by
  induction simple with
  | leaf args at? same => rw [Command.substitute, heightBy, same, heightBy]
  | loop count at? _ ih =>
    rw [Command.substitute, heightBy, heightBy, substituteAll_eq_map, heightAllBy_map ih]

end Command

theorem Procedure.heightAllBy_bind {procedure : Procedure} {args : List String}
    {at? : Option Location} {body : List Command} (leaf : String → Nat)
    (unbound : ∀ command ∈ procedure.body, command.Simple fun op => op ∉ procedure.params)
    (bound : procedure.bind args at? = .ok body) :
    Command.heightAllBy leaf body = Command.heightAllBy leaf procedure.body := by
  rcases procedure.body_of_bind bound with rfl | rfl
  · rfl
  · rw [Command.substituteAll_eq_map]
    apply Command.heightAllBy_map
    intro command member
    apply Command.Simple.heightBy_substitute
    exact (unbound command member).imp fun op free => procedure.token_of_unbound _ free

namespace Registry

/-- In the bodies of procedures no operator is a parameter, and a procedure is called in the last
place of a body only, and not in a loop. -/
def CallsLast (registry : Registry) : Prop :=
  ∀ procedure ∈ registry.procedures, ∀ before command after,
    procedure.body = before ++ command :: after →
      command.Simple (fun op => op ∉ procedure.params ∧ registry.get? op = none) ∨
        after = [] ∧ ∃ op args at?, command = .leaf op args at? ∧ op ∉ procedure.params

/-- The most frames that the body of a procedure takes, a call in the last place counted as one. -/
def bodyHeight (registry : Registry) : Nat :=
  highest (fun procedure => Command.heightAllBy (fun _ => 1) procedure.body) registry.procedures

/-- How high the stack can be in a run of a program. -/
def ceiling (registry : Registry) (program : List Command) : Nat :=
  highest (Command.heightBy fun _ => max 1 registry.bodyHeight) program

/-- The most frames that a leaf takes: a call makes room for the body of the procedure. -/
def leafHeight (registry : Registry) (op : String) : Nat :=
  if (registry.get? op).isSome then max 1 registry.bodyHeight else 1

variable {registry : Registry}

theorem leafHeight_pos (op : String) : 1 ≤ registry.leafHeight op := by
  unfold leafHeight
  split
  · exact Nat.le_max_left _ _
  · exact Nat.le_refl 1

theorem leafHeight_le (op : String) : registry.leafHeight op ≤ max 1 registry.bodyHeight := by
  unfold leafHeight
  split
  · exact Nat.le_refl _
  · exact Nat.le_max_left _ _

theorem CallsLast.unbound (calls : registry.CallsLast) {procedure : Procedure}
    (listed : procedure ∈ registry.procedures) :
    ∀ command ∈ procedure.body, command.Simple fun op => op ∉ procedure.params := by
  intro command member
  obtain ⟨before, after, split⟩ := List.append_of_mem member
  rcases calls procedure listed before command after split with
    simple | ⟨_, op, args, at?, rfl, free⟩
  · exact simple.imp fun _ both => both.1
  · exact .leaf args at? free

/-- A body takes no more frames than are counted for a call, even if it ends with a call. -/
theorem CallsLast.body_le (calls : registry.CallsLast) {procedure : Procedure}
    (listed : procedure ∈ registry.procedures) :
    Command.heightAllBy registry.leafHeight procedure.body ≤ max 1 registry.bodyHeight := by
  have counted : Command.heightAllBy (fun _ => 1) procedure.body ≤ registry.bodyHeight :=
    le_highest_of_mem (fun procedure => Command.heightAllBy (fun _ => 1) procedure.body) listed
  rw [Command.heightAllBy_le_iff]
  intro before command after split
  rcases calls procedure listed before command after split with
    simple | ⟨rfl, op, args, at?, rfl, _⟩
  · have same : command.heightBy registry.leafHeight = command.heightBy fun _ => 1 :=
      simple.heightBy_congr fun op both => by simp [leafHeight, both.2]
    have here := Command.heightAllBy_le_iff.mp counted before command after split
    omega
  · rw [List.length_nil, Nat.zero_add, Command.heightBy]
    exact leafHeight_le op

theorem height_le_ceiling {program : List Command} {command : Command}
    (listed : command ∈ program) (simple : command.Simple fun _ => True) :
    command.heightBy registry.leafHeight ≤ registry.ceiling program :=
  Nat.le_trans (simple.heightBy_mono leafHeight_le) (le_highest_of_mem _ listed)

/-- Each frame takes up no more than is left above those below it. -/
def Within (registry : Registry) (bound : Nat) : List Frame → Prop
  | [] => True
  | frame :: below =>
    (frame.command.Simple (fun _ => True) ∧
      below.length + frame.command.heightBy registry.leafHeight ≤ bound) ∧
      Within registry bound below

variable {bound : Nat} {stack : List Frame}

theorem Within.length_le (within : registry.Within bound stack) : stack.length ≤ bound := by
  cases stack with
  | nil => exact Nat.zero_le bound
  | cons frame below =>
    have pos : 1 ≤ frame.command.heightBy registry.leafHeight :=
      Command.heightBy_pos leafHeight_pos _
    have room := within.1.2
    rw [List.length_cons]
    omega

theorem Within.load (within : registry.Within bound stack) {body : List Command}
    (simple : ∀ command ∈ body, command.Simple fun _ => True)
    (room : stack.length + Command.heightAllBy registry.leafHeight body ≤ bound) :
    registry.Within bound (Frame.ofBody body ++ stack) := by
  induction body with
  | nil => exact within
  | cons first rest ih =>
    rw [Command.heightAllBy] at room
    have later := ih (fun command member => simple command (List.mem_cons_of_mem _ member))
      (by omega)
    refine ⟨⟨?_, ?_⟩, later⟩
    · rw [Frame.command_ofCommand]
      exact simple first (List.mem_cons_self ..)
    · have length_eq : (Frame.ofBody rest ++ stack).length = rest.length + stack.length := by
        simp [Frame.ofBody]
      rw [Frame.command_ofCommand]
      change (Frame.ofBody rest ++ stack).length + _ ≤ bound
      omega

end Registry

namespace Scheduler

variable {s : Scheduler}

theorem operate_registry (op : String) (args : List String) (at? : Option Location) :
    (s.operate op args at?).1.registry = s.registry := by
  obtain ⟨stack, journal, framed⟩ := s.operate_frame op args at?
  rw [framed]

/-- Only a definition on top of the stack makes a step define anything. -/
theorem step_registry
    (simple : ∀ frame ∈ s.stack, frame.command.Simple fun _ => True) :
    s.step.1.registry = s.registry := by
  unfold step
  split
  · rfl
  split
  · rfl
  dsimp only
  split
  · rename_i frame below stacked
    have top := simple frame (stacked ▸ List.mem_cons_self ..)
    unfold advance
    split
    · split
      · dsimp only
        split <;> exact complete_registry _ _ _
      · rfl
    · rename_i command
      rw [command] at top
      cases top
    · rfl
    · exact operate_registry _ _ _
  · split
    · rfl
    · exact complete_registry _ _ _

end Scheduler

namespace Registry

open Engine

variable {registry : Registry} {bound : Nat} {stack : List Frame}

theorem Within.simple (within : registry.Within bound stack) :
    ∀ frame ∈ stack, frame.command.Simple fun _ => True := by
  induction stack with
  | nil => simp
  | cons first below ih =>
    intro frame member
    rcases List.mem_cons.mp member with rfl | later
    · exact within.1.1
    · exact ih within.2 frame later

/-- What a step puts in the place of a frame takes no more room. -/
theorem Within.replace {m : Moment} {frame : Frame} {frames below : List Frame}
    (within : registry.Within bound (frame :: below)) (calls : registry.CallsLast)
    (registry_eq : m.before.sched.registry = registry) (replaces : m.Replaces frame frames) :
    registry.Within bound (frames ++ below) := by
  obtain ⟨⟨simple, room⟩, later⟩ := within
  cases replaces with
  | @round count body at? begun =>
    cases simple with
    | loop _ _ inner =>
      have room' : below.length + (1 + Command.heightAllBy registry.leafHeight body) ≤ bound := room
      have again : registry.Within bound (.ofLoop count body at? (begun + 1) :: below) :=
        ⟨⟨.loop count at? inner, room⟩, later⟩
      rw [List.append_assoc]
      refine again.load inner ?_
      rw [List.length_cons]
      omega
  | @call op args at? procedure body called =>
    unfold Scheduler.called? at called
    split at called
    · contradiction
    · rename_i found
      split at called
      · contradiction
      · rename_i bound'
        cases called
        rw [registry_eq] at found
        have listed := mem_of_get? found
        have unbound := calls.unbound listed
        have body_simple : ∀ command ∈ body, command.Simple fun _ => True := by
          refine Procedure.simple_bind (fun command member => ?_) bound'
          exact (unbound command member).imp fun _ free => ⟨free, trivial⟩
        refine later.load body_simple ?_
        have body_le := calls.body_le listed
        have counted : registry.leafHeight op = max 1 registry.bodyHeight := by
          simp [leafHeight, found]
        rw [Procedure.heightAllBy_bind _ unbound bound']
        have room' : below.length + registry.leafHeight op ≤ bound := room
        omega
  | _ => exact later

end Registry

/-- A turn is the definition of a procedure from outside. -/
def Turn.defines : Turn → Bool
  | .move (.define _ _ _) => true
  | _ => false

/-- What is cued and defined in a cycle comes from a program and leaves a registry in force. -/
structure Moment.Provides (m : Moment) (registry : Registry) (program : List Command) : Prop where
  cued : ∀ batch, m.before.batch? m.turn = some batch →
    m.before.sched.registry.defineAll batch = registry ∧
      ∀ command ∈ batch, command.isDefinition = false → command ∈ program
  defined : ∀ name params body, m.turn = .move (.define name params body) →
    m.before.sched.registry.define name params body = registry

namespace Plays

open Engine

variable {rules : Rules} {settings : Settings} {journal : Journal StepEvent}
  {initial registry : Registry} {program : List Command} {past : List Moment} {now : Engine}

/-- A registry is in force, the stack keeps below the ceiling, and only commands of a program
wait. -/
structure Bounded (registry : Registry) (program : List Command) (s : Scheduler) : Prop where
  registry_eq : s.registry = registry
  within : registry.Within (registry.ceiling program) s.stack
  waiting : ∀ command ∈ s.queue.pending, command ∈ program

theorem Bounded.abides {s t : Scheduler} (bounded : Bounded registry program s)
    (same : s.Abides t) : Bounded registry program t where
  registry_eq := same.registry_eq.trans bounded.registry_eq
  within := same.stack_eq ▸ bounded.within
  waiting := same.queue_eq ▸ bounded.waiting

theorem Bounded.handles {m : Moment} {s : Scheduler} (calls : registry.CallsLast)
    (simple : ∀ command ∈ program, command.Simple fun _ => True)
    (bounded : Bounded registry program m.before.sched)
    (stepping : m.before.stepping? m.turn = some s) (same : s.step.1.Abides m.after.sched)
    (handles : m.Handles) : Bounded registry program m.after.sched := by
  obtain ⟨timers, s_eq⟩ := stepping?_eq stepping
  have stepped : Bounded registry program s := bounded.abides (s_eq ▸ ⟨rfl, rfl, rfl⟩)
  have registry_eq : m.after.sched.registry = registry := by
    rw [same.registry_eq, Scheduler.step_registry stepped.within.simple]
    exact stepped.registry_eq
  cases handles with
  | fetch command empty first after_eq =>
    have pending_eq : m.before.sched.queue.pending = command :: m.after.sched.queue.pending := by
      unfold CommandQueue.next? at first
      split at first
      · contradiction
      · rename_i pending
        obtain ⟨rfl, rest_eq⟩ := Prod.mk.inj (Option.some.inj first)
        rw [← rest_eq]
        exact pending
    have waiting := bounded.waiting
    rw [pending_eq] at waiting
    have listed := waiting command (List.mem_cons_self ..)
    refine ⟨registry_eq, ?_, fun other member => waiting other (List.mem_cons_of_mem _ member)⟩
    rw [after_eq]
    refine ⟨⟨?_, ?_⟩, trivial⟩
    · rw [Frame.command_ofCommand]
      exact simple command listed
    · rw [Frame.command_ofCommand, List.length_nil, Nat.zero_add]
      exact Registry.height_le_ceiling listed (simple command listed)
  | replace taken before_eq replaces after_eq =>
    refine ⟨registry_eq, ?_, ?_⟩
    · rw [after_eq]
      have within := bounded.within
      rw [before_eq] at within
      exact within.replace calls bounded.registry_eq replaces
    · have undequeued : s.dequeued? = none := by
        apply if_neg
        simp [s_eq, before_eq]
      rw [same.queue_eq, Scheduler.step_queue_of_undequeued undequeued]
      exact stepped.waiting

/-- Since its beginning a cycle has kept below the ceiling. -/
theorem bounded (calls : registry.CallsLast)
    (simple : ∀ command ∈ program, command.Simple fun _ => True)
    (played : Plays rules (.atRest (.fresh settings journal initial)) past now)
    (provides : ∀ m ∈ past, m.after.sched.phase = .running →
      m.after.sched.cycle = now.sched.cycle → m.Provides registry program)
    (running : now.sched.phase = .running) : Bounded registry program now.sched := by
  induction played with
  | start => simp [atRest, Scheduler.fresh, Scheduler.idle] at running
  | @turn past e next turn before taken ih =>
    have acts := turn?_acts before.shaped taken
    have here := provides _ (List.mem_cons_self ..) running rfl
    have earlier : e.sched.phase = .running → e.sched.cycle = next.sched.cycle →
        Bounded registry program e.sched := fun running same =>
      ih (fun m member running' same' =>
        provides m (List.mem_cons_of_mem _ member) running' (same'.trans same)) running
    -- Only a batch can begin the cycle, and then nothing is on the stack and nothing waits.
    have before_bounded : Bounded registry program e.sched ∨ (e.batch? turn).isSome ∧
        e.sched.stack = [] ∧ e.sched.queue.pending = [] := by
      rcases shifts_of_traffic acts.traffic with
        ⟨phase_eq, cycle_eq⟩ | ⟨batch, cued, rests, _, _⟩ | ⟨_, ended, _⟩
      · exact Or.inl (earlier (phase_eq.symm.trans running) cycle_eq.symm)
      · have tidy := before.tidy
        exact Or.inr ⟨Option.isSome_of_eq_some cued, tidy.stack_eq rests, tidy.waiting_eq rests⟩
      · exact absurd running (rests_of_ended ended)
    have unbatched : e.batch? turn = none → Bounded registry program e.sched := by
      intro unasked
      rcases before_bounded with bounded | ⟨asked, _⟩
      · exact bounded
      · simp [unasked] at asked
    cases acts.layers with
    | keep _ unasked _ same => exact (unbatched unasked).abides same
    | step s stepping unasked same =>
      have steps : (Moment.mk e turn next).steps = true := Option.isSome_of_eq_some stepping
      have handles := ((before.turn taken).handles running).1 steps
      exact (unbatched unasked).handles calls simple stepping same handles
    | accept batch _ asked stack_eq queue_eq registry_eq =>
      obtain ⟨in_force, listed⟩ := here.cued batch asked
      have within : registry.Within (registry.ceiling program) e.sched.stack ∧
          ∀ command ∈ e.sched.queue.pending, command ∈ program := by
        rcases before_bounded with bounded | ⟨_, empty, spent⟩
        · exact ⟨bounded.within, bounded.waiting⟩
        · rw [empty, spent]
          exact ⟨trivial, by simp⟩
      refine ⟨registry_eq.trans in_force, stack_eq ▸ within.1, fun command member => ?_⟩
      rw [queue_eq] at member
      rcases List.mem_append.mp member with old | new
      · exact within.2 command old
      · obtain ⟨inside, other⟩ := List.mem_filter.mp new
        exact listed command inside (by simpa using other)
    | define name params body asked made =>
      have bounded := unbatched (by rw [asked]; rfl)
      rw [made]
      exact ⟨here.defined name params body asked, bounded.within, bounded.waiting⟩
    | close _ ended => exact absurd running ended.rests

/-- Whatever foreign code does and however long a cycle runs: if its commands and definitions come
from a program and a registry of which the procedures are called in the last place only, the stack
is never higher than the ceiling that these have from the start. -/
theorem stack_bounded (calls : registry.CallsLast)
    (simple : ∀ command ∈ program, command.Simple fun _ => True)
    (played : Plays rules (.atRest (.fresh settings journal initial)) past now)
    (provides : ∀ m ∈ past, m.after.sched.phase = .running →
      m.after.sched.cycle = now.sched.cycle → m.Provides registry program) :
    now.sched.stack.length ≤ registry.ceiling program := by
  by_cases running : now.sched.phase = .running
  · exact (bounded calls simple played provides running).within.length_le
  · rw [played.tidy.stack_eq running]
    exact Nat.zero_le _

/-- A procedure that calls itself in the last place, and a loop that calls it. -/
def endlessRegistry : Registry :=
  ⟨[⟨"a", [], [.leaf "pu" [] none, .leaf "a" [] none]⟩]⟩

def endlessProgram : List Command :=
  [.loop 3 [.leaf "pd" [] none, .leaf "a" [] none] none]

theorem endlessRegistry_callsLast : endlessRegistry.CallsLast := by
  intro procedure listed before command after split
  obtain rfl := List.mem_singleton.mp listed
  cases before with
  | nil =>
    obtain ⟨rfl, rfl⟩ := List.cons.inj split
    exact Or.inl (.leaf [] none (by decide))
  | cons first before =>
    cases before with
    | nil =>
      obtain ⟨rfl, rfl⟩ := List.cons.inj (List.cons.inj split).2
      exact Or.inr ⟨rfl, "a", [], none, rfl, List.not_mem_nil⟩
    | cons second before =>
      have none_left := (List.cons.inj (List.cons.inj split).2).2
      simp at none_left

/-- A batch is the program that goes on forever, and its procedure is in force. -/
def isEndless : List Command → Registry → Bool
  | [.loop 3 [.leaf "pd" [] none, .leaf "a" [] none] none],
    ⟨[⟨"a", [], [.leaf "pu" [] none, .leaf "a" [] none]⟩]⟩ => true
  | _, _ => false

theorem eq_of_isEndless {batch : List Command} {registry : Registry}
    (endless : isEndless batch registry = true) :
    batch = endlessProgram ∧ registry = endlessRegistry := by
  unfold isEndless at endless
  split at endless
  · exact ⟨rfl, rfl⟩
  · contradiction

def endlessStart : Scheduler :=
  .fresh ⟨false, 0.04, false, false⟩ (.empty 10) endlessRegistry

/-- The program has drawn for a while, and the stack is no higher than it could be at first. -/
theorem endless_bounded :
    ∃ past now, Plays .free (.atRest endlessStart) past now ∧ now.sched.phase = .running ∧
      now.sched.calls.length = 6 ∧ endlessRegistry.ceiling endlessProgram = 4 ∧
      now.sched.stack.length ≤ 4 := by
  obtain ⟨past, now, played, facts⟩ := exists_of_play? .free (.atRest endlessStart)
    (.move (.cue (endlessProgram.map .command) none) :: .work :: .work ::
      .work :: .move .finish :: .work :: .work ::
      (List.replicate 5 [.work, .work, .move .finish, .work, .work]).flatten)
    (fun past now => past.all (fun m =>
        (m.before.batch? m.turn).all (fun batch => isEndless batch m.before.sched.registry) &&
          !m.turn.defines) &&
      decide (now.sched.phase = .running ∧ now.sched.calls.length = 6))
    (by decide)
  obtain ⟨each, ended⟩ := Bool.and_eq_true_iff.mp facts
  obtain ⟨running, drawn⟩ := of_decide_eq_true ended
  have ceiling_eq : endlessRegistry.ceiling endlessProgram = 4 := by decide
  have simple : ∀ command ∈ endlessProgram, command.Simple fun _ => True := by
    intro command member
    obtain rfl := List.mem_singleton.mp member
    refine .loop 3 none fun inner listed => ?_
    simp only [List.mem_cons, List.not_mem_nil, or_false] at listed
    rcases listed with rfl | rfl
    · exact .leaf [] none trivial
    · exact .leaf [] none trivial
  have provides : ∀ m ∈ past, m.Provides endlessRegistry endlessProgram := by
    intro m member
    obtain ⟨batches, undefined⟩ := Bool.and_eq_true_iff.mp (List.all_eq_true.mp each m member)
    constructor
    · intro batch asked
      rw [asked] at batches
      obtain ⟨rfl, registry_eq⟩ := eq_of_isEndless batches
      rw [registry_eq]
      exact ⟨rfl, fun command listed _ => listed⟩
    · intro name params body asked
      rw [asked] at undefined
      contradiction
  have bound := stack_bounded endlessRegistry_callsLast simple played fun m member _ _ =>
    provides m member
  rw [ceiling_eq] at bound
  exact ⟨past, now, played, running, drawn, ceiling_eq, bound⟩

end Plays

end Turtle
