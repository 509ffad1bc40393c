import Turtle.Proofs.Announcements
import Turtle.Proofs.Cancellation
import Turtle.Proofs.Primitives
import Turtle.Proofs.Stopping

/-!
# Portions

What the drawing is asked for.  A primitive is checked before it goes to the drawing: if it is
refused there is one report and no call, and otherwise there is no report, and its calls are a
portion that is made in its order and to its end, unless the drawing fails.  All calls come in
portions.
-/

set_option autoImplicit false

namespace Turtle

namespace Scheduler

/-- The next step is due to a leaf that stands for a primitive. -/
structure Meets (s : Scheduler) (op : String) (args : List String) (at? : Option Location)
    (primitive : Primitive) : Prop where
  running : s.phase = .running
  live : s.live = true
  leaf : ∃ frame below, s.stack = frame :: below ∧ frame.command = .leaf op args at?
  undefined : s.registry.get? op = none
  word : Primitive.ofWord? op = some primitive

end Scheduler

/-- With a move like this steps are taken, or a cycle may begin. -/
def Engine.Move.takesSteps : Engine.Move → Bool
  | .cue _ _ | .step | .fire _ => true
  | _ => false

/-- The drawing takes no steps by itself. -/
def Rules.Detached (rules : Rules) : Prop :=
  ∀ call move, rules (.drawing call) move = true → move.takesSteps = false

namespace Moment

/-- It is heard that the drawing has failed. -/
def spoils (m : Moment) : Bool :=
  match m.turn, m.before.signal, m.before.tasks with
  | .work, .raised _, .painting _ _ _ :: _ => true
  | _, _, _ => false

/-- The calls of the primitive that goes to the drawing. -/
def portion? (m : Moment) : Option (List Call) :=
  match m.dispatched? with
  | some (.dispatched _ calls) => some calls
  | _ => none

end Moment

def Task.left? : Task → Option (List Call)
  | .painting _ _ rest => some rest
  | _ => none

/-- The calls that are left to the primitives that are being drawn, topmost first. -/
def Engine.paintings (e : Engine) : List (List Call) :=
  e.tasks.filterMap Task.left?

namespace Plays

/-- The portions of a play, in their order. -/
def portions : List Moment → List (List Call)
  | [] => []
  | m :: past => portions past ++ m.portion?.toList

end Plays

/-! ## Steps -/

namespace Scheduler

variable {s : Scheduler} {op : String} {args : List String} {at? : Option Location}
  {primitive : Primitive} {leaf : Command} {calls : List Call}

theorem step_calls (s : Scheduler) : s.step.1.calls = s.calls := by
  obtain ⟨queue, stack, journal, steps, registry, frame⟩ := s.step_frame
  rw [frame]

theorem Meets.step_eq (meets : s.Meets op args at? primitive) :
    ∃ frame below, s.stack = frame :: below ∧ s.step =
      ({ s with steps := s.steps + 1, stack := below },
        match primitive.calls args with
        | .error cause => .report ⟨cause, at?, none⟩
        | .ok calls => .draw (.leaf op args at?) primitive calls) := by
  obtain ⟨running, live, ⟨frame, below, stack_eq, leaf⟩, undefined, word⟩ := meets
  refine ⟨frame, below, stack_eq, ?_⟩
  simp only [step, running, live, stack_eq, advance, leaf, operate, undefined, word]
  cases primitive.calls args <;> rfl

/-- What goes to the drawing is a leaf that stands for a primitive. -/
theorem meets_of_draws {next : Scheduler} (draws : s.step = (next, .draw leaf primitive calls)) :
    ∃ op args at?, leaf = .leaf op args at? ∧ s.Meets op args at? primitive ∧
      primitive.Performs args calls := by
  obtain ⟨running, live, frame, below, op, args, at?, stack_eq, command, rfl, undefined, word,
    fit⟩ := step_eq_draw draws
  exact ⟨op, args, at?, rfl, ⟨running, live, ⟨frame, below, stack_eq, command⟩, undefined, word⟩,
    Primitive.calls_eq_ok_iff.mp fit⟩

end Scheduler

/-! ## Failures of the drawing -/

/-- Only the drawing lies directly on a primitive. -/
theorem Task.On.eq_drawing {rules : Rules} {task : Task} {leaf : Command} {primitive : Primitive}
    {rest : List Call} (upper : task.On rules (.painting leaf primitive rest)) :
    ∃ call, task = .foreign (.drawing call) := by
  cases upper with
  | drawn call => exact ⟨call, rfl⟩
  | painting _ _ _ drives | pausing drives | stepped _ drives => cases drives
  | announcing _ announces => cases announces
  | reporting _ _ reports => cases reports
  | settling _ _ halts => cases halts

namespace Engine

variable {rules : Rules} {e next : Engine} {turn : Turn} {s : Scheduler} {tasks : List Task}
  {failure : Failure}

theorem report_raised {fault : Fault} (raised : (report s fault tasks).signal = .raised failure) :
    (report s fault tasks).tasks = tasks := by
  rcases report_cases s fault tasks with ⟨_, _, reported⟩ | ⟨_, reported⟩
  · rw [reported] at raised
    exact absurd raised (tellFault_heard _ _ _ _ _)
  · rw [reported]

theorem paint_raised {leaf : Command} {primitive : Primitive} {calls : List Call}
    (raised : (paint s leaf primitive tasks calls).signal = .raised failure) :
    (paint s leaf primitive tasks calls).tasks = tasks := by
  cases calls with
  | nil =>
    rcases paint_nil_cases s leaf primitive tasks with ⟨_, _, painted⟩ | ⟨_, painted⟩
    · rw [painted] at raised
      exact absurd raised (tell_heard _ _ _ _ _)
    · rw [painted]
  | cons call rest => contradiction

theorem pause_unraised : (pause s tasks).signal ≠ .raised failure := by
  unfold pause
  split <;> exact Signal.noConfusion

theorem takeStep_raised (raised : (takeStep s tasks).signal = .raised failure) :
    (takeStep s tasks).tasks = tasks ∨ (takeStep s tasks).tasks = .stepped true :: tasks := by
  unfold takeStep at raised ⊢
  split at raised
  · contradiction
  · exact Or.inl (paint_raised raised)
  · exact Or.inr (report_raised raised)
  · exact absurd raised (halt_heard _ _ _ _)
  · exact Or.inl rfl

theorem receive_raised {batch : List Command} {callback? : Option Nat}
    (raised : (receive s batch callback? tasks).signal = .raised failure) :
    (receive s batch callback? tasks).tasks = tasks := by
  unfold receive at raised ⊢
  split at raised
  · contradiction
  split at raised
  · rename_i running clockless
    rw [if_neg running, if_pos clockless]
  · exact absurd raised (tell_heard _ _ _ _ _)

/-- A failure that comes to a primitive is one of the drawing. -/
theorem Acts.allowed_of_painting (acts : Acts rules e turn next) (shaped : e.Shaped rules)
    {leaf : Command} {primitive : Primitive} {left : List Call}
    (raised : next.signal = .raised failure)
    (top : next.tasks = .painting leaf primitive left :: tasks) :
    ∃ call, rules (.drawing call) (.raise failure) = true := by
  obtain ⟨stacked, _⟩ := shaped
  cases acts with
  | raise s site tasks' signal failure' inside allowed =>
    obtain rfl := Signal.raised.inj raised
    cases stacked with
    | outside => exact absurd rfl inside
    | on upper below =>
      obtain ⟨rfl, _⟩ := List.cons.inj top
      obtain ⟨call, same⟩ := upper.eq_drawing
      obtain rfl := Task.foreign.inj same
      exact ⟨call, allowed⟩
  | pass s task failure' tasks' passes =>
    cases stacked with
    | outside => cases passes
    | on upper below =>
      obtain ⟨rfl, _⟩ := List.cons.inj top
      obtain ⟨call, rfl⟩ := upper.eq_drawing
      cases passes
  | rethrow s failure' tasks' =>
    cases stacked with
    | on upper below =>
      cases upper
      cases top
  | receive s batch callback? tasks' =>
    rw [receive_raised raised] at top
    cases stacked with
    | on upper below =>
      cases upper
      cases top
  | cue => cases (receive_raised raised).symm.trans top
  | start | goOn | step | resume =>
    rcases takeStep_raised raised with same | same <;> cases same.symm.trans top
  | refuse => cases top
  | cancel | supersede => exact absurd raised (halt_heard _ _ _ _)
  | tell => exact absurd raised (tell_heard _ _ _ _ _)
  | tellFault => exact absurd raised (tellFault_heard _ _ _ _ _)
  | spoil => cases (report_raised raised).symm.trans top
  | complain s notice rest failure' tasks' =>
    rw [report_raised raised] at top
    cases stacked with
    | on upper below =>
      obtain ⟨rfl, _⟩ := List.cons.inj top
      obtain ⟨call, same⟩ := upper.eq_drawing
      cases same
  | paint s leaf' primitive' rest tasks' =>
    rw [paint_raised raised] at top
    cases stacked with
    | on upper below =>
      obtain ⟨rfl, _⟩ := List.cons.inj top
      obtain ⟨call, same⟩ := upper.eq_drawing
      cases same
  | pause => exact absurd raised pause_unraised
  | settle => exact absurd raised (settle_heard _ _ _ _ _)
  | _ => cases raised

/-- What comes of a turn as long as nothing is drawn. -/
structure Undrawn (s : Scheduler) (tasks : List Task) (done : Engine) : Prop where
  calls_eq : done.sched.calls = s.calls
  paintings_eq : done.paintings = tasks.filterMap Task.left?

theorem tell_undrawn (notice : Notice) (observers : List Nat) :
    Undrawn s tasks (tell s notice tasks observers) := by
  cases observers <;> exact ⟨rfl, rfl⟩

theorem tellFault_undrawn (fault : Fault) (observers : List Nat) :
    Undrawn s tasks (tellFault s fault tasks observers) := by
  cases observers <;> exact ⟨rfl, rfl⟩

theorem report_undrawn (fault : Fault) : Undrawn s tasks (report s fault tasks) := by
  rcases report_cases s fault tasks with ⟨stack?, _, reported⟩ | ⟨_, reported⟩ <;> rw [reported]
  · obtain ⟨calls_eq, paintings_eq⟩ : Undrawn (s.reportWith fault stack?).1 tasks
        (tellFault (s.reportWith fault stack?).1 (s.reportWith fault stack?).2 tasks
          (s.observersOf .onError)) := tellFault_undrawn _ _
    exact ⟨calls_eq, paintings_eq⟩
  · exact ⟨rfl, rfl⟩

theorem settle_undrawn (result : RunResult) (callbacks : List Nat) :
    Undrawn s tasks (settle s result tasks callbacks) := by
  cases callbacks <;> exact ⟨rfl, rfl⟩

theorem halt_undrawn (phase : Phase) : Undrawn s tasks (halt s phase tasks) := by
  unfold halt
  split
  · obtain ⟨calls_eq, paintings_eq⟩ : Undrawn (s.endCycle phase).1
        (.settling (s.endCycle phase).2.1 (s.endCycle phase).2.2 :: tasks)
        (announce (s.endCycle phase).1 (.programEnd (s.endCycle phase).2.1)
          (.settling (s.endCycle phase).2.1 (s.endCycle phase).2.2 :: tasks)) :=
      tell_undrawn _ _
    exact ⟨calls_eq, paintings_eq⟩
  · exact ⟨rfl, rfl⟩

theorem paint_undrawn (leaf : Command) (primitive : Primitive) :
    Undrawn s tasks (paint s leaf primitive tasks []) := by
  rcases paint_nil_cases s leaf primitive tasks with ⟨stack?, _, painted⟩ | ⟨_, painted⟩ <;>
    rw [painted]
  · obtain ⟨calls_eq, paintings_eq⟩ :
        Undrawn (s.enter (.primitive primitive.name) leaf.location? stack?) (.pausing :: tasks)
          (announce (s.enter (.primitive primitive.name) leaf.location? stack?)
            (.afterPrimitive leaf) (.pausing :: tasks)) := tell_undrawn _ _
    exact ⟨calls_eq, paintings_eq⟩
  · exact ⟨rfl, rfl⟩

theorem pause_undrawn : Undrawn s tasks (pause s tasks) := by
  unfold pause
  split <;> exact ⟨rfl, rfl⟩

theorem receive_undrawn (batch : List Command) (callback? : Option Nat) :
    Undrawn s tasks (receive s batch callback? tasks) := by
  unfold receive
  split
  · exact ⟨rfl, rfl⟩
  split
  · exact ⟨rfl, rfl⟩
  · obtain ⟨calls_eq, paintings_eq⟩ : Undrawn (s.accept batch callback?).beginCycle
        (.starting :: tasks)
        (announce (s.accept batch callback?).beginCycle .programStart (.starting :: tasks)) :=
      tell_undrawn _ _
    exact ⟨calls_eq, paintings_eq⟩

end Engine

/-! ## Portions, turn by turn -/

/-- What a moment has to do with portions: nothing, or a primitive goes to the drawing and makes its
first call, or the topmost one makes its next call, is done with, or is given up. -/
inductive Moment.Draws (m : Moment) : Prop where
  | rests : m.portion? = none → m.after.sched.calls = m.before.sched.calls →
    m.after.paintings = m.before.paintings → Draws m
  | begins {call : Call} {rest : List Call} : m.portion? = some (call :: rest) →
    m.after.sched.calls = call :: m.before.sched.calls →
    m.after.paintings = rest :: m.before.paintings → Draws m
  | goesOn {call : Call} {rest : List Call} {others : List (List Call)} : m.portion? = none →
    m.before.paintings = (call :: rest) :: others →
    m.after.sched.calls = call :: m.before.sched.calls →
    m.after.paintings = rest :: others → Draws m
  | ends : m.portion? = none → m.after.sched.calls = m.before.sched.calls →
    m.before.paintings = [] :: m.after.paintings → Draws m
  | breaks {left : List Call} : m.portion? = none →
    m.after.sched.calls = m.before.sched.calls →
    m.before.paintings = left :: m.after.paintings → m.spoils = true → Draws m

namespace Engine

variable {rules : Rules} {e next : Engine} {turn : Turn} {s : Scheduler} {tasks : List Task}

theorem Undrawn.rests (undrawn : Undrawn s tasks next)
    (none : (Moment.mk e turn next).portion? = none) (calls_eq : s.calls = e.sched.calls)
    (paintings_eq : tasks.filterMap Task.left? = e.paintings) :
    (Moment.mk e turn next).Draws :=
  .rests none (undrawn.calls_eq.trans calls_eq) (undrawn.paintings_eq.trans paintings_eq)

/-- The portion of a turn that takes a step is what the step sends to the drawing. -/
theorem portion?_of_stepping (stepping : e.stepping? turn = some s) :
    (Moment.mk e turn next).portion? =
      match s.step with
      | (_, .draw _ _ calls) => some calls
      | _ => none := by
  rw [Moment.portion?, Moment.dispatched?, stepping, Option.bind_some, Scheduler.dispatch?]
  obtain ⟨after, work, stepped⟩ : ∃ after work, s.step = (after, work) := ⟨_, _, rfl⟩
  rw [stepped]
  cases work <;> rfl

theorem draws_of_takeStep (stepping : e.stepping? turn = some s)
    (calls_eq : s.calls = e.sched.calls)
    (paintings_eq : tasks.filterMap Task.left? = e.paintings) :
    (Moment.mk e turn (takeStep s tasks)).Draws := by
  have portion : ∀ next, (Moment.mk e turn next).portion? = _ :=
    fun _ => portion?_of_stepping stepping
  have same := s.step_calls.trans calls_eq
  unfold takeStep
  obtain ⟨after, work, stepped⟩ : ∃ after work, s.step = (after, work) := ⟨_, _, rfl⟩
  rw [stepped] at same ⊢
  simp only [stepped] at portion
  cases work with
  | answer more => exact .rests (portion _) same paintings_eq
  | draw leaf primitive calls =>
    obtain ⟨_, _, _, _, _, _, _, _, _, _, _, _, fit⟩ := Scheduler.step_eq_draw stepped
    obtain ⟨call, rest, rfl⟩ := List.exists_cons_of_ne_nil (Primitive.calls_ne_nil fit)
    exact .begins (portion _) (congrArg (call :: ·) same) (congrArg (rest :: ·) paintings_eq)
  | report fault =>
    have undrawn : Undrawn after (.stepped true :: tasks) _ := report_undrawn fault
    exact undrawn.rests (portion _) same paintings_eq
  | halt phase =>
    have undrawn : Undrawn after (.stepped false :: tasks) _ := halt_undrawn phase
    exact undrawn.rests (portion _) same paintings_eq
  | fail failure => exact .rests (portion _) same paintings_eq

theorem Acts.draws_portions (acts : Acts rules e turn next) : (Moment.mk e turn next).Draws := by
  cases acts with
  | receive => exact (receive_undrawn _ _).rests rfl rfl rfl
  | start | goOn => exact draws_of_takeStep rfl rfl rfl
  | cancel => exact (halt_undrawn _).rests rfl rfl rfl
  | tell => exact (tell_undrawn _ _).rests rfl rfl rfl
  | complain => exact (report_undrawn _).rests rfl rfl rfl
  | tellFault => exact (tellFault_undrawn _ _).rests rfl rfl rfl
  | paint s leaf primitive rest tasks =>
    cases rest with
    | nil =>
      have undrawn : Undrawn s tasks _ := paint_undrawn leaf primitive
      exact .ends rfl undrawn.calls_eq (congrArg ([] :: ·) undrawn.paintings_eq.symm)
    | cons call rest => exact .goesOn rfl rfl rfl rfl
  | spoil s leaf primitive rest fault tasks =>
    have undrawn : Undrawn s (.stepped true :: tasks) _ := report_undrawn fault
    exact .breaks rfl undrawn.calls_eq (congrArg (rest :: ·) undrawn.paintings_eq.symm) rfl
  | pause => exact pause_undrawn.rests rfl rfl rfl
  | settle => exact (settle_undrawn _ _).rests rfl rfl rfl
  | pass s task failure tasks passes =>
    cases passes with
    | painting leaf primitive rest => exact .breaks rfl rfl rfl rfl
    | _ => exact .rests rfl rfl rfl
  | supersede => exact (halt_undrawn _).rests rfl rfl rfl
  | cue => exact (receive_undrawn _ _).rests rfl rfl rfl
  | step => exact draws_of_takeStep rfl rfl rfl
  | idle s site tasks signal position allowed missing =>
    refine .rests ?_ rfl rfl
    simp [Moment.portion?, Moment.dispatched?, stepping?, missing]
  | expire s site tasks signal position timer allowed found stale =>
    refine .rests ?_ rfl rfl
    simp [Moment.portion?, Moment.dispatched?, stepping?, found, stale]
  | resume s site tasks signal position timer allowed found current =>
    exact draws_of_takeStep (by simp [stepping?, found, current]) rfl rfl
  | _ => exact .rests rfl rfl rfl

/-- While it has control, a drawing that takes no steps keeps it or gives it back. -/
theorem Acts.of_detached {call : Call} {signal : Signal} (detached : rules.Detached)
    (acts : Acts rules ⟨s, .foreign (.drawing call) :: tasks, signal⟩ turn next) :
    (Moment.mk ⟨s, .foreign (.drawing call) :: tasks, signal⟩ turn next).portion? = none ∧
      (next.tasks = .foreign (.drawing call) :: tasks ∨ next.tasks = tasks) := by
  cases acts with
  | refuse _ _ _ _ _ _ _ allowed => cases detached _ _ allowed
  | supersede _ _ _ _ _ _ _ allowed => cases detached _ _ allowed
  | cue _ _ _ _ _ _ _ allowed => cases detached _ _ allowed
  | step _ _ _ _ allowed => cases detached _ _ allowed
  | idle _ _ _ _ _ allowed => cases detached _ _ allowed
  | expire _ _ _ _ _ _ allowed => cases detached _ _ allowed
  | resume _ _ _ _ _ _ allowed => cases detached _ _ allowed
  | pass _ _ _ _ passes => cases passes
  | finish | raise => exact ⟨rfl, Or.inr rfl⟩
  | stop | attach | define => exact ⟨rfl, Or.inl rfl⟩

/-- A primitive is left when no call is left to it, or when it hears that the drawing has failed. -/
theorem Acts.left_of_undrawn {height : Nat} {left : List Call} (acts : Acts rules e turn next)
    (busy : e.undrawn? height = some left) (gone : next.undrawn? height = none) :
    left = [] ∨ (Moment.mk e turn next).spoils = true := by
  obtain ⟨above, leaf, primitive, tasks, tasks_eq, rfl⟩ := split_of_undrawn? busy
  obtain ⟨s, all, signal⟩ := e
  dsimp only at tasks_eq
  subst tasks_eq
  cases above with
  | nil =>
    rw [List.nil_append] at acts
    cases acts with
    | paint s leaf primitive rest tasks =>
      cases left with
      | nil => exact Or.inl rfl
      | cons call rest =>
        have still : (Engine.paint s leaf primitive tasks (call :: rest)).undrawn? tasks.length =
            some rest := undrawn?_of_painting ⟨[.foreign (.drawing call)], rfl⟩
        cases still.symm.trans gone
    | spoil => exact Or.inr rfl
    | pass => exact Or.inr rfl
  | cons top above =>
    have covers : Covers (above ++ .painting leaf primitive left :: tasks) next := acts.covers
    have still := undrawn?_of_painting ((List.suffix_append above _).trans covers.suffix)
    cases still.symm.trans gone

/-- A primitive has control if nothing lies above it. -/
theorem top_of_undrawn? {height : Nat} {left : List Call} (busy : e.undrawn? height = some left)
    (top : e.tasks.length = height + 1) :
    ∃ leaf primitive tasks, e.tasks = .painting leaf primitive left :: tasks := by
  obtain ⟨above, leaf, primitive, tasks, tasks_eq, rfl⟩ := split_of_undrawn? busy
  obtain rfl : above = [] := by
    rw [tasks_eq, List.length_append, List.length_cons] at top
    exact List.length_eq_zero_iff.mp (by omega)
  exact ⟨leaf, primitive, tasks, tasks_eq⟩

/-- A step that is taken inside of the scheduler finds a stack that can be recorded. -/
theorem Acts.steps_recordable (acts : Acts rules e turn next)
    (unstepped : ∀ site, rules site .step = false) (recordable : e.Recordable)
    (stepping : e.stepping? turn = some s) : s.Recordable := by
  cases acts with
  | start | goOn =>
    obtain rfl := Option.some.inj stepping
    exact recordable.resolve_left Bool.false_ne_true
  | step s site tasks signal allowed =>
    exact absurd allowed (by rw [unstepped]; exact Bool.false_ne_true)
  | resume s site tasks signal position timer allowed found current =>
    simp only [stepping?, found, current, if_true] at stepping
    obtain rfl := Option.some.inj stepping
    exact (recordable_of_foreign recordable).mono rfl (List.Subset.refl _)
  | idle s site tasks signal position allowed missing => simp [stepping?, missing] at stepping
  | expire s site tasks signal position timer allowed found stale =>
    simp [stepping?, found, stale] at stepping
  | _ => contradiction

/-- A primitive that has control reports nothing, unless the drawing fails with a fault. -/
theorem Acts.unreported {leaf : Command} {primitive : Primitive} {left : List Call}
    (acts : Acts rules e turn next) (top : e.tasks = .painting leaf primitive left :: tasks)
    (spared : ∀ fault, e.signal ≠ .raised (.fault fault)) :
    (Moment.mk e turn next).fault? = none := by
  obtain ⟨s, all, signal⟩ := e
  obtain rfl : all = .painting leaf primitive left :: tasks := top
  cases acts with
  | paint => rfl
  | spoil s leaf primitive rest fault => exact absurd rfl (spared fault)
  | pass s task failure tasks passes =>
    cases failure with
    | fault fault => exact absurd rfl (spared fault)
    | _ => rfl

end Engine

namespace Plays

open Engine

variable {rules : Rules} {settings : Settings} {journal : Journal StepEvent}
  {registry : Registry} {past later earlier : List Moment} {now : Engine} {m : Moment}
  {calls : List Call}

/-! ## All calls come in portions -/

theorem meets_of_dispatched {leaf : Command}
    (dispatched : m.dispatched? = some (.dispatched leaf calls)) :
    ∃ s op args at? primitive, m.before.stepping? m.turn = some s ∧
      s.Meets op args at? primitive ∧ leaf = .leaf op args at? ∧
      primitive.Performs args calls := by
  rw [Moment.dispatched?, Option.bind_eq_some_iff] at dispatched
  obtain ⟨s, stepping, dispatched⟩ := dispatched
  unfold Scheduler.dispatch? at dispatched
  split at dispatched
  · rename_i next leaf' primitive calls' stepped
    simp only [Option.some.injEq, Occurrence.dispatched.injEq] at dispatched
    obtain ⟨rfl, rfl⟩ := dispatched
    obtain ⟨op, args, at?, rfl, meets, performs⟩ := Scheduler.meets_of_draws stepped
    exact ⟨s, op, args, at?, primitive, stepping, meets, rfl, performs⟩
  · contradiction

theorem dispatched_of_portion (portion : m.portion? = some calls) :
    ∃ leaf, m.dispatched? = some (.dispatched leaf calls) := by
  unfold Moment.portion? at portion
  split at portion
  · rename_i leaf calls' dispatched
    obtain rfl := Option.some.inj portion
    exact ⟨leaf, dispatched⟩
  · contradiction

theorem isFinite_of_portion (portion : m.portion? = some calls) :
    ∀ call ∈ calls, call.isFinite = true := by
  obtain ⟨leaf, dispatched⟩ := dispatched_of_portion portion
  obtain ⟨_, _, _, _, _, _, _, _, performs⟩ := meets_of_dispatched dispatched
  exact performs.isFinite

/-- A turn that sends a portion to the drawing makes the first call of it. -/
theorem eq_of_portion {e next : Engine} {turn : Turn} (acts : Acts rules e turn next)
    (portion : (Moment.mk e turn next).portion? = some calls) :
    ∃ t call leaf primitive rest tasks, calls = call :: rest ∧
      next = ⟨t, .foreign (.drawing call) :: .painting leaf primitive rest :: tasks, .called⟩ := by
  obtain ⟨leaf, dispatched⟩ := dispatched_of_portion portion
  obtain ⟨s, op, args, at?, primitive, stepping, meets, -, performs⟩ :=
    meets_of_dispatched dispatched
  obtain ⟨⟨tasks, next_eq⟩, -⟩ := acts.eq_takeStep stepping
  obtain ⟨_, below, _, stepped⟩ := meets.step_eq
  have fit := Primitive.calls_of_performs performs
  rw [fit] at stepped
  obtain ⟨call, rest, rfl⟩ := List.exists_cons_of_ne_nil (Primitive.calls_ne_nil fit)
  rw [takeStep, stepped] at next_eq
  exact ⟨_, call, _, primitive, rest, tasks, rfl, next_eq⟩

theorem mem_portions_iff : calls ∈ portions past ↔ ∃ m ∈ past, m.portion? = some calls := by
  induction past with
  | nil => simp [portions]
  | cons m past ih => simp [portions, ih, or_comm]

theorem portions_isFinite : ∀ portion ∈ portions past, ∀ call ∈ portion, call.isFinite = true := by
  intro portion member
  obtain ⟨m, -, found⟩ := mem_portions_iff.mp member
  exact isFinite_of_portion found

/-- The calls with the number of a portion. -/
def callsOf (number : Nat) (made : List (Nat × Call)) : List Call :=
  (made.filter fun call => call.1 = number).map Prod.snd

theorem callsOf_concat (number other : Nat) (made : List (Nat × Call)) (call : Call) :
    callsOf number (made ++ [(other, call)]) =
      callsOf number made ++ if other = number then [call] else [] := by
  by_cases same : other = number <;> simp [callsOf, same]

/-- The calls are shared out among the portions: each that is made bears the number of its portion,
and the others are left to the portions, of which the busy ones are being drawn, topmost first. -/
structure Sharing (portions : List (List Call)) (calls : List Call)
    (paintings : List (List Call)) (made : List (Nat × Call)) (busy : List Nat)
    (left : Nat → List Call) : Prop where
  calls_eq : made.map Prod.snd = calls
  paintings_eq : busy.map left = paintings
  nodup : busy.Nodup
  busy_lt : ∀ number ∈ busy, number < portions.length
  made_lt : ∀ call ∈ made, call.1 < portions.length
  whole : ∀ number portion, portions[number]? = some portion →
    callsOf number made ++ left number = portion

namespace Sharing

variable {shares paintings others : List (List Call)} {made : List (Nat × Call)}
  {busy : List Nat} {left : Nat → List Call} {call : Call} {rest : List Call} {number : Nat}

theorem made_concat (calls_eq : made.map Prod.snd = calls) (number : Nat) (call : Call) :
    (made ++ [(number, call)]).map Prod.snd = calls ++ [call] := by
  rw [List.map_append, calls_eq]
  rfl

theorem left_update (apart : number ∉ busy) (rest : List Call) :
    busy.map (Function.update left number rest) = busy.map left := by
  refine List.map_congr_left fun other member => Function.update_of_ne ?_ _ _
  rintro rfl
  exact apart member

/-- A new portion has the next number. -/
theorem begins (sharing : Sharing shares calls paintings made busy left) :
    Sharing (shares ++ [call :: rest]) (calls ++ [call]) (rest :: paintings)
      (made ++ [(shares.length, call)]) (shares.length :: busy)
      (Function.update left shares.length rest) := by
  have new : shares.length ∉ busy := fun member => Nat.lt_irrefl _ (sharing.busy_lt _ member)
  have unmade : callsOf shares.length made = [] := by
    rw [callsOf, List.map_eq_nil_iff, List.filter_eq_nil_iff]
    intro call member same
    exact Nat.ne_of_lt (sharing.made_lt call member) (of_decide_eq_true same)
  have length_eq : (shares ++ [call :: rest]).length = shares.length + 1 := List.length_append
  have nodup : (shares.length :: busy).Nodup := List.nodup_cons.mpr ⟨new, sharing.nodup⟩
  refine ⟨made_concat sharing.calls_eq _ _, ?_, nodup, ?_, ?_, ?_⟩
  · rw [List.map_cons, Function.update_self, left_update new, sharing.paintings_eq]
  · rw [length_eq, List.forall_mem_cons]
    exact ⟨Nat.lt_succ_self _, fun number member => Nat.lt_succ_of_lt (sharing.busy_lt _ member)⟩
  · rw [length_eq, List.forall_mem_append, List.forall_mem_singleton]
    exact ⟨fun call member => Nat.lt_succ_of_lt (sharing.made_lt call member), Nat.lt_succ_self _⟩
  · intro number portion found
    rw [callsOf_concat]
    rcases Nat.lt_trichotomy number shares.length with less | rfl | more
    · rw [List.getElem?_append_left less] at found
      rw [if_neg (Nat.ne_of_gt less), List.append_nil, Function.update_of_ne (Nat.ne_of_lt less)]
      exact sharing.whole number portion found
    · rw [List.getElem?_concat_length] at found
      obtain rfl := Option.some.inj found
      rw [unmade, if_pos rfl, Function.update_self]
      rfl
    · rw [List.getElem?_eq_none (by omega)] at found
      contradiction

/-- The topmost portion is one call further. -/
theorem goesOn
    (sharing : Sharing shares calls ((call :: rest) :: others) made (number :: busy) left) :
    Sharing shares (calls ++ [call]) (rest :: others) (made ++ [(number, call)]) (number :: busy)
      (Function.update left number rest) := by
  obtain ⟨first, later⟩ := List.cons.inj sharing.paintings_eq
  have apart : number ∉ busy := (List.nodup_cons.mp sharing.nodup).1
  refine ⟨made_concat sharing.calls_eq _ _, ?_, sharing.nodup, sharing.busy_lt, ?_, ?_⟩
  · rw [List.map_cons, Function.update_self, left_update apart, later]
  · rw [List.forall_mem_append, List.forall_mem_singleton]
    exact ⟨sharing.made_lt, sharing.busy_lt number (List.mem_cons_self ..)⟩
  · intro other portion found
    have before := sharing.whole other portion found
    rw [callsOf_concat]
    by_cases same : number = other
    · subst same
      rw [if_pos rfl, Function.update_self, List.append_assoc, ← before, first]
      rfl
    · rw [if_neg same, List.append_nil, Function.update_of_ne (Ne.symm same), before]

/-- The topmost portion is left. -/
theorem leaves
    (sharing : Sharing shares calls (rest :: others) made (number :: busy) left) :
    left number = rest ∧ Sharing shares calls others made busy left := by
  obtain ⟨first, later⟩ := List.cons.inj sharing.paintings_eq
  have busy_lt := (List.forall_mem_cons.mp sharing.busy_lt).2
  exact ⟨first, sharing.calls_eq, later, (List.nodup_cons.mp sharing.nodup).2, busy_lt,
    sharing.made_lt, sharing.whole⟩

theorem exists_cons (sharing : Sharing shares calls (rest :: others) made busy left) :
    ∃ number later, busy = number :: later := by
  cases busy with
  | nil => cases sharing.paintings_eq
  | cons number later => exact ⟨number, later, rfl⟩

theorem mem_shares (sharing : Sharing shares calls paintings made busy left)
    (member : call ∈ calls) : ∃ portion ∈ shares, call ∈ portion := by
  rw [← sharing.calls_eq] at member
  obtain ⟨⟨number, call⟩, listed, rfl⟩ := List.mem_map.mp member
  have found := List.getElem?_eq_getElem (sharing.made_lt _ listed)
  refine ⟨_, List.mem_of_getElem? found, ?_⟩
  rw [← sharing.whole number _ found]
  refine List.mem_append_left _ (List.mem_map.mpr ⟨(number, call), ?_, rfl⟩)
  exact List.mem_filter.mpr ⟨listed, decide_eq_true rfl⟩

end Sharing

/-- All calls are those of portions, in the order of each, and a portion that has been left is
whole, as long as the drawing does not fail. -/
theorem exists_sharing
    (played : Plays rules (.atRest (.fresh settings journal registry)) past now) :
    ∃ made busy left,
      Sharing (portions past) now.sched.calls.reverse now.paintings made busy left ∧
        ((∀ m ∈ past, m.spoils = false) → ∀ number ∉ busy, left number = []) := by
  refine played.by_acts (fun past now => ∃ made busy left,
    Sharing (portions past) now.sched.calls.reverse now.paintings made busy left ∧
      ((∀ m ∈ past, m.spoils = false) → ∀ number ∉ busy, left number = [])) ?_ ?_
  · refine ⟨[], [], fun _ => [], ⟨rfl, rfl, List.nodup_nil, ?_, ?_, ?_⟩, fun _ _ _ => rfl⟩
    · exact fun _ member => absurd member List.not_mem_nil
    · exact fun _ member => absurd member List.not_mem_nil
    · exact fun _ _ found => absurd found (by simp [portions])
  · intro past e turn next _ _ acts before
    obtain ⟨made, busy, left, sharing, finished⟩ := before
    rw [portions]
    cases acts.draws_portions with
    | rests portion calls_eq paintings_eq =>
      rw [portion, calls_eq, paintings_eq, Option.toList_none, List.append_nil]
      exact ⟨made, busy, left, sharing, fun unspoiled =>
        finished (List.forall_mem_cons.mp unspoiled).2⟩
    | begins portion calls_eq paintings_eq =>
      rw [portion, calls_eq, paintings_eq, Option.toList_some, List.reverse_cons]
      refine ⟨_, _, _, sharing.begins, fun unspoiled number other => ?_⟩
      rw [List.mem_cons, not_or] at other
      rw [Function.update_of_ne other.1]
      exact finished (List.forall_mem_cons.mp unspoiled).2 number other.2
    | goesOn portion before_eq calls_eq paintings_eq =>
      rw [portion, calls_eq, paintings_eq, Option.toList_none, List.append_nil, List.reverse_cons]
      dsimp only at before_eq
      rw [before_eq] at sharing
      obtain ⟨number, later, rfl⟩ := sharing.exists_cons
      refine ⟨_, _, _, sharing.goesOn, fun unspoiled other apart => ?_⟩
      have another : other ≠ number := fun same => apart (List.mem_cons.mpr (Or.inl same))
      rw [Function.update_of_ne another]
      exact finished (List.forall_mem_cons.mp unspoiled).2 other apart
    | ends portion calls_eq before_eq =>
      rw [portion, calls_eq, Option.toList_none, List.append_nil]
      dsimp only at before_eq
      rw [before_eq] at sharing
      obtain ⟨number, later, rfl⟩ := sharing.exists_cons
      obtain ⟨none_left, sharing⟩ := sharing.leaves
      refine ⟨_, _, _, sharing, fun unspoiled other apart => ?_⟩
      by_cases same : other = number
      · rw [same, none_left]
      · refine finished (List.forall_mem_cons.mp unspoiled).2 other ?_
        exact fun member => (List.mem_cons.mp member).elim same apart
    | breaks portion calls_eq before_eq spoiled =>
      rw [portion, calls_eq, Option.toList_none, List.append_nil]
      dsimp only at before_eq
      rw [before_eq] at sharing
      obtain ⟨number, later, rfl⟩ := sharing.exists_cons
      refine ⟨_, _, _, sharing.leaves.2, fun unspoiled => ?_⟩
      cases spoiled.symm.trans (List.forall_mem_cons.mp unspoiled).1

theorem calls_isFinite
    (played : Plays rules (.atRest (.fresh settings journal registry)) past now) :
    ∀ call ∈ now.sched.calls, call.isFinite = true := by
  intro call member
  obtain ⟨made, busy, left, sharing, -⟩ := played.exists_sharing
  obtain ⟨portion, listed, inside⟩ := sharing.mem_shares (List.mem_reverse.mpr member)
  exact portions_isFinite portion listed call inside

/-- If no primitive goes to the drawing while another one has calls left, the portions are made one
after another. -/
theorem calls_eq_portions
    (played : Plays rules (.atRest (.fresh settings journal registry)) past now)
    (unspoiled : ∀ m ∈ past, m.spoils = false)
    (apart : ∀ m ∈ past, m.portion? ≠ none → m.before.paintings.flatten = []) :
    now.sched.calls.reverse ++ now.paintings.flatten = (portions past).flatten := by
  refine played.by_acts (fun past now => (∀ m ∈ past, m.spoils = false) →
    (∀ m ∈ past, m.portion? ≠ none → m.before.paintings.flatten = []) →
      now.sched.calls.reverse ++ now.paintings.flatten = (portions past).flatten)
    (fun _ _ => rfl) ?_ unspoiled apart
  intro past e turn next _ _ acts before unspoiled apart
  obtain ⟨here, earlier⟩ := List.forall_mem_cons.mp unspoiled
  obtain ⟨alone, others⟩ := List.forall_mem_cons.mp apart
  rw [portions, List.flatten_append, ← before earlier others]
  cases acts.draws_portions with
  | rests portion calls_eq paintings_eq =>
    dsimp only at portion calls_eq paintings_eq
    simp [portion, calls_eq, paintings_eq]
  | begins portion calls_eq paintings_eq =>
    have nothing := alone (by simp [portion])
    dsimp only at portion calls_eq paintings_eq nothing
    simp [portion, calls_eq, paintings_eq, nothing]
  | goesOn portion before_eq calls_eq paintings_eq =>
    dsimp only at portion before_eq calls_eq paintings_eq
    simp [portion, before_eq, calls_eq, paintings_eq]
  | ends portion calls_eq paintings_eq =>
    dsimp only at portion calls_eq paintings_eq
    simp [portion, calls_eq, paintings_eq]
  | breaks portion calls_eq paintings_eq spoiled =>
    exact absurd (spoiled.symm.trans here) Bool.noConfusion

/-! ## A drawing that takes no steps -/

/-- Nothing is being drawn, or one primitive is, which has control or lies below the drawing. -/
inductive Attended (e : Engine) : Prop where
  | idle : e.paintings = [] → Attended e
  | painting {leaf : Command} {primitive : Primitive} {left : List Call} {tasks : List Task} :
    e.tasks = .painting leaf primitive left :: tasks → tasks.filterMap Task.left? = [] → Attended e
  | drawing {call : Call} {leaf : Command} {primitive : Primitive} {left : List Call}
    {tasks : List Task} :
    e.tasks = .foreign (.drawing call) :: .painting leaf primitive left :: tasks →
    tasks.filterMap Task.left? = [] → Attended e

section Attended

variable {e next : Engine} {turn : Turn}

/-- No step is taken while a primitive is being drawn. -/
theorem Attended.idle_of_portion (detached : rules.Detached) (attended : Attended e)
    (acts : Acts rules e turn next) (sends : (Moment.mk e turn next).portion? ≠ none) :
    e.paintings = [] := by
  obtain ⟨s, all, signal⟩ := e
  cases attended with
  | idle none => exact none
  | painting tasks_eq =>
    dsimp only at tasks_eq
    subst tasks_eq
    cases acts <;> exact absurd rfl sends
  | drawing tasks_eq =>
    dsimp only at tasks_eq
    subst tasks_eq
    exact absurd (acts.of_detached detached).1 sends

theorem Attended.acts (detached : rules.Detached) (attended : Attended e)
    (acts : Acts rules e turn next) : Attended next := by
  obtain ⟨s, all, signal⟩ := e
  cases attended with
  | idle none =>
    cases acts.draws_portions with
    | rests _ _ paintings_eq => exact .idle (paintings_eq.trans none)
    | begins portion _ paintings_eq =>
      obtain ⟨t, call, leaf, primitive, rest, tasks, same, rfl⟩ := eq_of_portion acts portion
      rw [none] at paintings_eq
      exact .drawing rfl (List.cons.inj paintings_eq).2
    | goesOn _ before_eq => cases none.symm.trans before_eq
    | ends _ _ before_eq => cases none.symm.trans before_eq
    | breaks _ _ before_eq => cases none.symm.trans before_eq
  | @painting leaf primitive left tasks tasks_eq none =>
    dsimp only at tasks_eq
    subst tasks_eq
    cases acts with
    | paint =>
      cases left with
      | nil =>
        have undrawn : Undrawn s tasks _ := paint_undrawn leaf primitive
        exact .idle (undrawn.paintings_eq.trans none)
      | cons call rest => exact .drawing rfl none
    | spoil _ _ _ _ fault =>
      have undrawn : Undrawn s (.stepped true :: tasks) _ := report_undrawn fault
      exact .idle (undrawn.paintings_eq.trans none)
    | pass => exact .idle none
  | drawing tasks_eq none =>
    dsimp only at tasks_eq
    subst tasks_eq
    rcases (acts.of_detached detached).2 with still | back
    · exact .drawing still none
    · exact .painting back none

end Attended

/-- A drawing that takes no steps has no primitive begun while another one has calls left. -/
theorem apart_of_detached (detached : rules.Detached)
    (played : Plays rules (.atRest (.fresh settings journal registry)) past now) :
    ∀ m ∈ past, m.portion? ≠ none → m.before.paintings.flatten = [] := by
  have both : Attended now ∧ ∀ m ∈ past, m.portion? ≠ none → m.before.paintings.flatten = [] := by
    refine played.by_acts (fun past now => Attended now ∧
      ∀ m ∈ past, m.portion? ≠ none → m.before.paintings.flatten = []) ?_ ?_
    · exact ⟨.idle rfl, fun _ member => absurd member List.not_mem_nil⟩
    · rintro past e turn next _ _ acts ⟨attended, apart⟩
      refine ⟨attended.acts detached acts, List.forall_mem_cons.mpr ⟨fun sends => ?_, apart⟩⟩
      rw [attended.idle_of_portion detached acts sends]
      rfl
  exact both.2

theorem steps_recordable
    (played : Plays rules (.atRest (.fresh settings journal registry)) past now)
    (unstepped : ∀ site, rules site .step = false) :
    ∀ m ∈ past, ∀ s, m.before.stepping? m.turn = some s → s.Recordable := by
  refine played.by_acts (fun past _ => ∀ m ∈ past, ∀ s,
    m.before.stepping? m.turn = some s → s.Recordable) ?_ ?_
  · exact fun _ member => absurd member List.not_mem_nil
  · intro past e turn next earlier _ acts before
    exact List.forall_mem_cons.mpr ⟨fun s stepping =>
      acts.steps_recordable unstepped (earlier.recordable unstepped) stepping, before⟩

/-! ## Each portion is made in its order -/

/-- The height at which a moment begins to draw. -/
def height (m : Moment) : Nat :=
  m.after.tasks.length - 2

/-- A primitive has gone to the drawing, without a report, and later it makes its calls in their
order.  It reports nothing while it has control, and it is left when all calls are made or the
drawing has failed. -/
structure Performed (later : List Moment) (m : Moment) (calls : List Call) : Prop where
  portion_eq : m.portion? = some calls
  reports_eq : m.after.sched.reports = m.before.sched.reports
  begun : ∃ left, m.after.undrawn? (height m) = some left ∧ strokes (height m) [m] ++ left = calls
  goes : ∀ newer k older, later = newer ++ k :: older →
    (∀ between ∈ older, between.after.undrawn? (height m) ≠ none) →
      (k.before.tasks.length = height m + 1 → k.fault? = none) ∧
      ((∃ left, k.after.undrawn? (height m) = some left ∧
          strokes (height m) (k :: older ++ [m]) ++ left = calls) ∨
        k.after.undrawn? (height m) = none ∧
          ∃ left, strokes (height m) (older ++ [m]) ++ left = calls ∧
            (left = [] ∨ k.spoils = true))

/-- A primitive has been refused, but the stack cannot be recorded.  So the step fails: there is no
report, and the drawing is asked for nothing. -/
structure Dropped (m : Moment) : Prop where
  portion_eq : m.portion? = none
  reports_eq : m.after.sched.reports = m.before.sched.reports
  calls_eq : m.after.sched.calls = m.before.sched.calls
  fails : m.after.signal = .raised .unwritableNumber

/-- A primitive has been refused: there is one report, and the drawing is asked for nothing. -/
structure Refused (m : Moment) (fault : Fault) : Prop where
  portion_eq : m.portion? = none
  reports_eq : m.after.sched.reports =
    ⟨m.before.sched.cycle, fault⟩ :: m.before.sched.reports
  calls_eq : m.after.sched.calls = m.before.sched.calls

theorem strokes_append (height : Nat) (later earlier : List Moment) :
    strokes height (later ++ earlier) = strokes height earlier ++ strokes height later := by
  induction later with
  | nil => simp [strokes]
  | cons m later ih => simp [strokes, ih]

/-- If the drawing fails with no fault, no fault comes to a primitive. -/
theorem unfaulted
    (spared : ∀ call fault, rules (.drawing call) (.raise (.fault fault)) = false)
    (played : Plays rules (.atRest (.fresh settings journal registry)) past now)
    {leaf : Command} {primitive : Primitive} {left : List Call} {tasks : List Task}
    (top : now.tasks = .painting leaf primitive left :: tasks) (fault : Fault) :
    now.signal ≠ .raised (.fault fault) := by
  intro raised
  cases played with
  | start => cases raised
  | turn before taken =>
    obtain ⟨call, allowed⟩ :=
      (turn?_acts before.shaped taken).allowed_of_painting before.shaped raised top
    exact absurd (allowed.symm.trans (spared call fault)) (by simp)

variable {s : Scheduler} {op : String} {args : List String} {at? : Option Location}
  {primitive : Primitive}

theorem refused_of_meets
    (played : Plays rules (.atRest (.fresh settings journal registry)) (m :: earlier) now)
    (stepping : m.before.stepping? m.turn = some s) (meets : s.Meets op args at? primitive)
    {cause : FaultCause} (refuses : primitive.Refuses args cause) :
    Refused m ⟨cause, at?, some s.journal.next⟩ ∨ ¬s.Recordable ∧ Dropped m := by
  obtain ⟨before, taken, rfl⟩ := played.last
  have acts := turn?_acts before.shaped taken
  obtain ⟨⟨tasks, after_eq⟩, fault_eq, calls_eq, -⟩ := acts.eq_takeStep stepping
  obtain ⟨frame, below, stack_eq, stepped⟩ := meets.step_eq
  rw [Primitive.calls_of_refuses refuses] at stepped
  have reports := acts.reports
  rw [fault_eq, Scheduler.stepFault?, stepped] at reports
  have portion : m.portion? = none := by
    rw [Moment.portion?, Moment.dispatched?, stepping, Option.bind_some, Scheduler.dispatch?,
      stepped]
  have undrawn : m.after.sched.calls = m.before.sched.calls := by
    rw [after_eq, takeStep, stepped]
    exact (report_undrawn _).calls_eq.trans calls_eq
  let popped : Scheduler := { s with steps := s.steps + 1, stack := below }
  change Reports _ (popped.reported? _) _ at reports
  by_cases recordable : popped.Recordable
  · obtain ⟨stack?, recorded⟩ := recordable
    rw [Scheduler.reported?_of_snapshot recorded] at reports
    exact Or.inl ⟨portion, reports, undrawn⟩
  · rw [Scheduler.reported?_of_unrecordable recordable] at reports
    refine Or.inr ⟨fun recordable' => recordable ?_, portion, reports, undrawn, ?_⟩
    · exact recordable'.mono rfl (stack_eq ▸ List.subset_cons_self _ _)
    · rw [after_eq, takeStep, stepped]
      exact congrArg Engine.signal (report_of_unrecordable recordable _ _)

theorem performed_of_meets
    (spared : ∀ call fault, rules (.drawing call) (.raise (.fault fault)) = false)
    (played : Plays rules (.atRest (.fresh settings journal registry))
      (later ++ m :: earlier) now)
    (stepping : m.before.stepping? m.turn = some s) (meets : s.Meets op args at? primitive)
    (performs : primitive.Performs args calls) : Performed later m calls := by
  obtain ⟨middle, begun⟩ := played.of_append
  obtain ⟨before, taken, rfl⟩ := begun.last
  have acts := turn?_acts before.shaped taken
  obtain ⟨-, fault_eq, -⟩ := acts.eq_takeStep stepping
  obtain ⟨_, below, _, stepped⟩ := meets.step_eq
  rw [Primitive.calls_of_performs performs] at stepped
  have reports := acts.reports
  rw [fault_eq, Scheduler.stepFault?, stepped] at reports
  have portion : m.portion? = some calls := by
    rw [Moment.portion?, Moment.dispatched?, stepping, Option.bind_some, Scheduler.dispatch?,
      stepped]
  obtain ⟨t, call, leaf, primitive, rest, tasks, rfl, after_eq⟩ := eq_of_portion acts portion
  have height_eq : height m = tasks.length := by
    rw [height, after_eq]
    rfl
  have busy : m.after.undrawn? (height m) = some rest := by
    rw [height_eq, after_eq]
    exact undrawn?_of_painting ⟨[.foreign (.drawing call)], rfl⟩
  have first : strokes (height m) [m] = [call] := by
    rw [strokes, height_eq, after_eq]
    exact if_pos rfl
  refine ⟨portion, reports, ⟨rest, busy, by rw [first]; rfl⟩, ?_⟩
  rintro newer k older rfl between
  rw [List.append_assoc] at played
  obtain ⟨_, until_k⟩ := played.of_append
  obtain ⟨before_k, taken_k, _⟩ := until_k.last
  have acts_k := turn?_acts before_k.shaped taken_k
  obtain ⟨left, busy_k, whole⟩ := strokes_since begun busy before_k between
  have whole' : strokes (height m) (older ++ [m]) ++ left = call :: rest := by
    rw [strokes_append, first, List.append_assoc, whole]
    rfl
  constructor
  · intro top
    obtain ⟨leaf, primitive, tasks, tasks_eq⟩ := top_of_undrawn? busy_k top
    exact acts_k.unreported tasks_eq (before_k.unfaulted spared tasks_eq)
  · rcases strokes_of_acts acts_k busy_k with ⟨left', busy', same⟩ | ⟨gone, -⟩
    · left
      refine ⟨left', busy', ?_⟩
      rw [← whole', strokes_append, strokes_append, List.append_assoc, List.append_assoc, same]
    · exact Or.inr ⟨gone, left, whole', acts_k.left_of_undrawn busy_k gone⟩

/-- A leaf that stands for a primitive, under its name or another word, is refused, with one report
and no call, or it makes its calls in their order, with no report.  Only a step that finds a stack
that cannot be recorded drops it without a report, and no such step is taken inside of the
scheduler.  So all that the drawing is asked for is finite.  Every call belongs to a portion, the
calls of a portion come in their order, and when it is left it is whole, unless the drawing fails.
And then the portions come one after another, unless the drawing itself has a step taken that begins
one within another; a drawing that takes no steps does not. -/
theorem drawn_in_portions
    (spared : ∀ call fault, rules (.drawing call) (.raise (.fault fault)) = false)
    (played : Plays rules (.atRest (.fresh settings journal registry)) past now) :
    (∀ later m earlier s op args at? primitive, past = later ++ m :: earlier →
        m.before.stepping? m.turn = some s → s.Meets op args at? primitive →
        Primitive.ofWord? primitive.name = some primitive ∧
          ((∃ cause, primitive.Refuses args cause ∧
              (cause.kind = .arityMismatch ∨ cause.kind = .invalidArgument) ∧
              (Refused m ⟨cause, at?, some s.journal.next⟩ ∨ ¬s.Recordable ∧ Dropped m)) ∨
            ∃ calls, primitive.Performs args calls ∧ Performed later m calls)) ∧
      ((∀ site, rules site .step = false) → ∀ m ∈ past, ∀ s,
        m.before.stepping? m.turn = some s → s.Recordable) ∧
      (∀ m ∈ past, ∀ calls, m.portion? = some calls →
        ∃ s op args at? primitive, m.before.stepping? m.turn = some s ∧
          s.Meets op args at? primitive ∧ primitive.Performs args calls) ∧
      (∀ call ∈ now.sched.calls, call.isFinite = true) ∧
      (∃ made busy left,
        Sharing (portions past) now.sched.calls.reverse now.paintings made busy left ∧
          ((∀ m ∈ past, m.spoils = false) → ∀ number ∉ busy, left number = [])) ∧
      ((∀ m ∈ past, m.spoils = false) →
        (∀ m ∈ past, m.portion? ≠ none → m.before.paintings.flatten = []) →
          now.sched.calls.reverse ++ now.paintings.flatten = (portions past).flatten) ∧
      (rules.Detached → ∀ m ∈ past, m.portion? ≠ none → m.before.paintings.flatten = []) := by
  refine ⟨?_, fun unstepped => played.steps_recordable unstepped, ?_, played.calls_isFinite,
    played.exists_sharing, played.calls_eq_portions,
    fun detached => played.apart_of_detached detached⟩
  · rintro later m earlier s op args at? primitive rfl stepping meets
    refine ⟨primitive.ofWord?_name, ?_⟩
    rcases primitive.refuses_or_performs args with ⟨cause, refuses⟩ | ⟨calls, performs⟩
    · obtain ⟨middle, begun⟩ := played.of_append
      exact Or.inl ⟨cause, refuses, refuses.kind, refused_of_meets begun stepping meets refuses⟩
    · exact Or.inr ⟨calls, performs, performed_of_meets spared played stepping meets performs⟩
  · intro m _ calls portion
    obtain ⟨leaf, dispatched⟩ := dispatched_of_portion portion
    obtain ⟨s, op, args, at?, primitive, stepping, meets, -, performs⟩ :=
      meets_of_dispatched dispatched
    exact ⟨s, op, args, at?, primitive, stepping, meets, performs⟩

/-- The turtle is to go back, and then forward by what is no finite number. -/
theorem back_in_one_portion :
    ∃ later m earlier now calls, Plays .modest (.atRest plainStart) (later ++ m :: earlier) now ∧
      calls.length = 3 ∧ Performed later m calls ∧
      now.sched.calls.reverse = (portions (later ++ m :: earlier)).flatten ∧
      now.sched.calls.length = 3 ∧ now.sched.reports.length = 1 ∧
      ∀ call ∈ now.sched.calls, call.isFinite = true := by
  obtain ⟨past, now, played, facts⟩ := exists_of_play? .modest (.atRest plainStart)
    ([.move (.cue [.command (.leaf "bk" ["10"] none), .command (.leaf "fd" ["nan"] none)] none),
      .work, .work, .move .finish, .work, .move .finish, .work, .move .finish] ++
      List.replicate 9 .work)
    (fun past now =>
      past.any (fun m => m.portion?.any fun calls => calls.length = 3) &&
        past.all (fun m =>
          !m.spoils && (m.portion?.isNone || m.before.paintings.flatten.isEmpty)) &&
        decide (now.paintings.flatten = [] ∧ now.sched.calls.length = 3 ∧
          now.sched.reports.length = 1))
    (by decide +kernel)
  rw [Bool.and_eq_true, Bool.and_eq_true, decide_eq_true_eq] at facts
  obtain ⟨⟨sent, calm⟩, drawn, three, once⟩ := facts
  obtain ⟨m, listed, portion⟩ := List.any_eq_true.mp sent
  obtain ⟨calls, portion, length_eq⟩ := (Option.any_eq_true _ _).mp portion
  have steady : ∀ m ∈ past, m.spoils = false ∧
      (m.portion? ≠ none → m.before.paintings.flatten = []) := by
    intro m member
    have here := List.all_eq_true.mp calm m member
    rw [Bool.and_eq_true, Bool.not_eq_true', Bool.or_eq_true, Option.isNone_iff_eq_none,
      List.isEmpty_iff] at here
    exact ⟨here.1, here.2.resolve_left⟩
  obtain ⟨leaves, -, whole, finite, -, sequence, -⟩ := drawn_in_portions (fun _ _ => rfl) played
  have ordered := sequence (fun m member => (steady m member).1) fun m member =>
    (steady m member).2
  rw [drawn, List.append_nil] at ordered
  obtain ⟨s, op, args, at?, primitive, stepping, meets, -⟩ := whole m listed calls portion
  obtain ⟨later, earlier, rfl⟩ := List.append_of_mem listed
  obtain ⟨-, ⟨_, -, -, refused | ⟨-, dropped⟩⟩ | ⟨calls', -, performed⟩⟩ :=
    leaves later m earlier s op args at? primitive rfl stepping meets
  · cases refused.portion_eq.symm.trans portion
  · cases dropped.portion_eq.symm.trans portion
  · obtain rfl := Option.some.inj (performed.portion_eq.symm.trans portion)
    exact ⟨later, m, earlier, now, calls', played, of_decide_eq_true length_eq, performed, ordered,
      three, once, finite⟩

end Plays

end Turtle
