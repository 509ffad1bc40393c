import Turtle.Proofs.Attribution
import Turtle.Proofs.Hosting
import Turtle.Proofs.Protocol
import Turtle.Proofs.Recordable

/-!
# Announcements

What happens to foreign code is read off the moments of a play.  As long as observers and callbacks
start nothing by themselves, and the drawing and the callbacks do not fail, it keeps to the
protocol: every turn leads from stage to stage, and the stage tells what lies on the stack of tasks.
-/

set_option autoImplicit false

namespace Turtle

/-- Steps are not taken by hand.  Cycles are begun, and timers go off, only while code outside of
everything has control; and only observers fail. -/
def Rules.modest : Rules
  | _, .step => false
  | .outside, _ => true
  | _, .cue _ _ => false
  | _, .fire _ => false
  | .observer _ _, _ => true
  | _, .raise _ => false
  | _, _ => true

/-! ## What happens at a moment -/

/-- A step leaves a primitive to be drawn. -/
def Scheduler.dispatch? (s : Scheduler) : Option Occurrence :=
  match s.step with
  | (_, .draw leaf _ calls) => some (.dispatched leaf calls)
  | _ => none

namespace Moment

/-- It is heard that an observer has failed. -/
def failed? (m : Moment) : Option Occurrence :=
  match m.turn, m.before.signal, m.before.tasks with
  | .work, .raised failure, .announcing notice _ :: _ => some (.failed notice failure)
  | .work, .raised failure, .reporting fault _ :: _ => some (.failed (.onError fault) failure)
  | _, _, _ => none

def dispatched? (m : Moment) : Option Occurrence :=
  (m.before.stepping? m.turn).bind Scheduler.dispatch?

/-- The drawing has been asked for all calls of a primitive. -/
def drawn? (m : Moment) : Option Command :=
  match m.turn, m.before.signal, m.before.tasks with
  | .work, .returned, .painting leaf _ [] :: _ => some leaf
  | _, _, _ => none

/-- A fault is reported, and it is not about an observer of a fault. -/
def error? (m : Moment) : Option Fault :=
  match m.before.tasks with
  | .reporting _ _ :: _ => none
  | _ => m.fault?

/-- What is announced: that a cycle begins or ends, that a primitive has been drawn, or a fault. -/
def notice? (m : Moment) : Option Notice :=
  if m.before.sched.phase ≠ .running ∧ m.after.sched.phase = .running then some .programStart
  else
    match m.ended? with
    | some result => some (.programEnd result)
    | none => (m.drawn?.map .afterPrimitive).or (m.error?.map .onError)

end Moment

/-- Foreign code has just been called. -/
def Engine.spoken? (e : Engine) : Option Occurrence :=
  match e.signal, e.tasks with
  | .called, .foreign (.observer id notice) :: _ => some (.told id notice)
  | .called, .foreign (.callback id result) :: _ => some (.called id result)
  | .called, .foreign (.drawing call) :: _ => some (.asked call)
  | _, _ => none

namespace Moment

/-- What happens at a moment, in its order: a failure is heard of, a primitive goes to the drawing,
an announcement begins, and foreign code is called. -/
def occurrences (audience : Event → List Nat) (m : Moment) : List Occurrence :=
  m.failed?.toList ++ (m.dispatched?.toList ++
    ((m.notice?.map fun notice => .announced notice (audience notice.event)).toList ++
      m.after.spoken?.toList))

end Moment

/-- The observer that is attached to an event by a turn. -/
def Turn.attaches (event : Event) : Turn → List Nat
  | .move (.attach event' observer) => if event' = event then [observer] else []
  | _ => []

namespace Plays

/-- The observers that have been attached to an event, in their order. -/
def attached (event : Event) : List Moment → List Nat
  | [] => []
  | m :: past => attached event past ++ m.turn.attaches event

/-- What happens to foreign code in a play.  Announcements are made to the observers that have been
attached before. -/
def trace : List Moment → List Occurrence
  | [] => []
  | m :: past => trace past ++ m.occurrences fun event => attached event past

end Plays

/-- The faults that come of an occurrence: a fault is announced when it has been reported, and that
an observer of a fault has failed is reported without being announced. -/
def Occurrence.faults : Occurrence → List Fault
  | announced (.onError fault) _ => [fault]
  | failed (.onError fault) failure => [Engine.secondaryFault fault failure]
  | _ => []

/-! ## What lies on the stack of tasks -/

namespace Scheduler

/-- A cycle is running, and it comes after so many others. -/
structure Under (n : Nat) (s : Scheduler) : Prop where
  running : s.phase = .running
  cycle_eq : s.cycle = n + 1

/-- Nothing is being announced, whether or not a cycle is running. -/
inductive Poised (n : Nat) (s : Scheduler) : Stage → Prop where
  | within : s.Under n → Poised n s .within
  | between : s.phase ≠ .running → s.cycle = n → Poised n s .between

end Scheduler

namespace Engine

open Scheduler

/-- What is left when a cycle has ended: its last step, a batch that was to wait for the end, or the
failure that has cancelled it. -/
inductive Remains : List Task → Prop where
  | step : Remains (.stepped false :: loop)
  | batch (batch : List Command) (callback? : Option Nat) :
    Remains [.cueing batch callback?, .foreign .outside]
  | failure (failure : Failure) : Remains [.rethrow failure, .foreign .outside]

/-- The tasks that wait while something is announced, and the result of the cycle if it has
ended. -/
inductive Awaits (n : Nat) (s : Scheduler) : List Task → Option RunResult → Prop where
  | starting : s.Under n → Awaits n s [.starting, .foreign .outside] none
  | pausing : s.Under n → Awaits n s (.pausing :: loop) none
  | stepped : s.Under n → Awaits n s (.stepped true :: loop) none
  | settling (result : RunResult) (rest : List Nat) {tasks : List Task} : Remains tasks →
    s.phase ≠ .running → s.cycle = n + 1 →
    Awaits n s (.settling result rest :: tasks) (some result)

/-- The stage that an engine is in, with the number of cycles that are over. -/
inductive Placed : Nat → Stage → Engine → Prop where
  | outside {n : Nat} {stage : Stage} {s : Scheduler} (signal : Signal) : s.Poised n stage →
    Placed n stage ⟨s, [.foreign .outside], signal⟩
  | looping {n : Nat} {stage : Stage} {s : Scheduler} (more : Bool) : s.Poised n stage →
    Placed n stage ⟨s, loop, .answered more⟩
  | failing {n : Nat} {s : Scheduler} (failure : Failure) : s.Under n →
    Placed n .within ⟨s, loop, .raised failure⟩
  | drawing {n : Nat} {s : Scheduler} (call : Call) (leaf : Command) (primitive : Primitive)
    (rest : List Call) (signal : Signal) : s.Under n →
    Placed n (.drawing leaf rest)
      ⟨s, .foreign (.drawing call) :: .painting leaf primitive rest :: loop, signal⟩
  | painting {n : Nat} {s : Scheduler} (leaf : Command) (primitive : Primitive)
    (rest : List Call) : s.Under n →
    Placed n (.drawing leaf rest) ⟨s, .painting leaf primitive rest :: loop, .returned⟩
  | awaiting {n : Nat} {s : Scheduler} {tasks : List Task} {result? : Option RunResult} :
    Awaits n s tasks result? → Placed n (.after false result?) ⟨s, tasks, .returned⟩
  | telling {n : Nat} {s : Scheduler} {tasks : List Task} {result? : Option RunResult} (id : Nat)
    {notice : Notice} (rest : List Nat) (signal : Signal) : Awaits n s tasks result? →
    notice.isError = false →
    Placed n (.telling notice rest true result?)
      ⟨s, .foreign (.observer id notice) :: .announcing notice rest :: tasks, signal⟩
  | announcing {n : Nat} {s : Scheduler} {tasks : List Task} {result? : Option RunResult}
    {notice : Notice} (rest : List Nat) : Awaits n s tasks result? → notice.isError = false →
    Placed n (.telling notice rest true result?) ⟨s, .announcing notice rest :: tasks, .returned⟩
  | complaining {n : Nat} {s : Scheduler} {tasks : List Task} {result? : Option RunResult}
    {notice : Notice} (rest : List Nat) (failure : Failure) : Awaits n s tasks result? →
    notice.isError = false →
    Placed n (.telling notice rest true result?)
      ⟨s, .announcing notice rest :: tasks, .raised failure⟩
  | tellingFault {n : Nat} {s : Scheduler} {tasks : List Task} {result? : Option RunResult}
    (id : Nat) (fault : Fault) (rest : List Nat) (signal : Signal) : Awaits n s tasks result? →
    Placed n (.telling (.onError fault) rest true result?)
      ⟨s, .foreign (.observer id (.onError fault)) :: .reporting fault rest :: tasks, signal⟩
  | reporting {n : Nat} {s : Scheduler} {tasks : List Task} {result? : Option RunResult}
    (fault : Fault) (rest : List Nat) : Awaits n s tasks result? →
    Placed n (.telling (.onError fault) rest true result?)
      ⟨s, .reporting fault rest :: tasks, .returned⟩
  | givingUp {n : Nat} {s : Scheduler} {tasks : List Task} {result? : Option RunResult}
    (fault : Fault) (rest : List Nat) (failure : Failure) : Awaits n s tasks result? →
    Placed n (.telling (.onError fault) rest true result?)
      ⟨s, .reporting fault rest :: tasks, .raised failure⟩
  | calling {n : Nat} {s : Scheduler} {tasks : List Task} (id : Nat) (result : RunResult)
    (rest : List Nat) (signal : Signal) : Remains tasks → s.phase ≠ .running →
    s.cycle = n + 1 →
    Placed n (.ended result false)
      ⟨s, .foreign (.callback id result) :: .settling result rest :: tasks, signal⟩
  | leaving {n : Nat} {s : Scheduler} {tasks : List Task} : Remains tasks → s.phase ≠ .running →
    s.cycle = n → Placed n .between ⟨s, tasks, .returned⟩

/-! ## What the engine does leads from stage to stage -/

/-- After some occurrences an engine is placed, and foreign code may just have been called. -/
def Arrives (n : Nat) (stage : Stage) (front : List Occurrence) (next : Engine) : Prop :=
  ∃ n' stage', Stage.Steps n stage (front ++ next.spoken?.toList) n' stage' ∧
    Placed n' stage' next

theorem Placed.arrives {n : Nat} {stage : Stage} {next : Engine} (placed : Placed n stage next)
    (quiet : next.spoken? = none) : Arrives n stage [] next :=
  ⟨n, stage, by rw [quiet]; exact .refl n stage, placed⟩

theorem Arrives.after {n m : Nat} {stage stage' : Stage} {front later : List Occurrence}
    {next : Engine} (arrives : Arrives m stage' later next)
    (steps : Stage.Steps n stage front m stage') : Arrives n stage (front ++ later) next := by
  obtain ⟨n', stage'', steps', placed⟩ := arrives
  rw [Arrives, List.append_assoc]
  exact ⟨n', stage'', steps.append steps', placed⟩

variable {n : Nat} {stage : Stage} {t : Scheduler} {tasks : List Task}
  {result? : Option RunResult}

theorem arrives_tell {notice : Notice} (awaits : Awaits n t tasks result?)
    (other : notice.isError = false) (rest : List Nat) (begun : Bool) :
    Arrives n (.telling notice rest begun result?) [] (tell t notice tasks rest) := by
  cases rest with
  | nil => exact ⟨n, _, (Stage.Step.finishTelling n notice begun result?).silent, .awaiting awaits⟩
  | cons id rest =>
    exact ⟨n, _, (Stage.Step.tell n notice id rest begun result?).single,
      .telling id rest .called awaits other⟩

theorem arrives_tellFault (awaits : Awaits n t tasks result?) (fault : Fault) (rest : List Nat)
    (begun : Bool) :
    Arrives n (.telling (.onError fault) rest begun result?) [] (tellFault t fault tasks rest) := by
  cases rest with
  | nil =>
    exact ⟨n, _, (Stage.Step.finishTelling n (.onError fault) begun result?).silent,
      .awaiting awaits⟩
  | cons id rest =>
    exact ⟨n, _, (Stage.Step.tell n (.onError fault) id rest begun result?).single,
      .tellingFault id fault rest .called awaits⟩

theorem arrives_announce {notice : Notice} (awaits : Awaits n t tasks result?)
    (other : notice.isError = false)
    (step : Stage.Step n stage (some (.announced notice (t.observersOf notice.event))) n
      (.telling notice (t.observersOf notice.event) false result?)) :
    Arrives n stage [.announced notice (t.observersOf notice.event)] (announce t notice tasks) :=
  (arrives_tell awaits other _ false).after step.single

theorem arrives_report {stack? : Option (List String)} (recorded : t.snapshot = .ok stack?)
    {fault : Fault} (awaits : Awaits n (t.reportWith fault stack?).1 tasks result?)
    (step : ∀ fault audience, Stage.Step n stage (some (.announced (.onError fault) audience)) n
      (.telling (.onError fault) audience false result?)) :
    Arrives n stage [.announced (.onError (t.reportWith fault stack?).2) (t.observersOf .onError)]
      (report t fault tasks) := by
  rw [report_of_snapshot recorded]
  exact (arrives_tellFault awaits (t.reportWith fault stack?).2 _ false).after (step _ _).single

theorem arrives_settle {result : RunResult} (remains : Remains tasks)
    (rests : t.phase ≠ .running) (cycle_eq : t.cycle = n + 1) (rest : List Nat) :
    Arrives n (.ended result false) [] (settle t result tasks rest) := by
  cases rest with
  | nil => exact ⟨n + 1, _, (Stage.Step.close n result).silent, .leaving remains rests cycle_eq⟩
  | cons callback rest =>
    exact ⟨n, _, (Stage.Step.call n result callback).single,
      .calling callback result rest .called remains rests cycle_eq⟩

theorem arrives_halt {phase : Phase} (under : t.Under n) (rests : phase ≠ .running)
    (remains : Remains tasks) :
    Arrives n .within
      [.announced (.programEnd ⟨phase, t.cycle, t.steps⟩) (t.observersOf .programEnd)]
      (halt t phase tasks) := by
  have awaits : Awaits n (t.endCycle phase).1
      (.settling ⟨phase, t.cycle, t.steps⟩ t.callbacks :: tasks)
      (some ⟨phase, t.cycle, t.steps⟩) :=
    .settling _ _ remains rests under.cycle_eq
  rw [halt_of_running under.running]
  exact arrives_announce awaits rfl (.finish n _ _ under.cycle_eq)

theorem arrives_paint (under : t.Under n) (recordable : t.Recordable) (leaf : Command)
    (primitive : Primitive) (calls : List Call) :
    Arrives n (.drawing leaf calls)
      (if calls.isEmpty then
        [.announced (.afterPrimitive leaf) (t.observersOf .afterPrimitive)] else [])
      (paint t leaf primitive loop calls) := by
  cases calls with
  | nil =>
    obtain ⟨stack?, recorded⟩ := recordable
    have awaits : Awaits n (t.enter (.primitive primitive.name) leaf.location? stack?)
        (.pausing :: loop) none := .pausing { under with }
    rw [paint_nil_of_snapshot recorded]
    exact arrives_announce awaits rfl (.draw n leaf _)
  | cons call rest =>
    exact ⟨n, _, (Stage.Step.ask n leaf call rest).single,
      .drawing call leaf primitive rest .called { under with }⟩

end Engine

/-! ## Steps -/

/-- The drawing is asked for something by every primitive. -/
theorem Primitive.calls_ne_nil {primitive : Primitive} {args : List String} {calls : List Call}
    (fit : primitive.calls args = .ok calls) : calls ≠ [] := by
  have asks : ∀ value, primitive.callsFor value ≠ [] := by
    intro value
    cases primitive <;> exact List.cons_ne_nil _ _
  unfold Primitive.calls at fit
  cases arity : primitive.checkArity args.length with
  | error cause => simp [arity, bind, Except.bind] at fit
  | ok _ =>
    cases args with
    | nil =>
      simp only [arity, bind, Except.bind, pure, Except.pure, Except.ok.injEq] at fit
      exact fit ▸ asks 0.0
    | cons token rest =>
      cases read : primitive.number token with
      | error cause => simp only [arity, read, bind, Except.bind, reduceCtorEq] at fit
      | ok value =>
        simp only [arity, read, bind, Except.bind, pure, Except.pure, Except.ok.injEq] at fit
        exact fit ▸ asks value

namespace Scheduler

/-- What a step makes happen at once. -/
def utters (s : Scheduler) : List Occurrence :=
  match s.step with
  | (_, .draw leaf _ calls) => [.dispatched leaf calls]
  | (next, .report fault) =>
    (next.reported? fault).toList.map fun fault =>
      .announced (.onError fault) (s.observersOf .onError)
  | (next, .halt phase) =>
    [.announced (.programEnd ⟨phase, next.cycle, next.steps⟩) (s.observersOf .programEnd)]
  | _ => []

theorem utters_faults (s : Scheduler) :
    s.utters.flatMap Occurrence.faults = s.stepFault?.toList := by
  unfold utters stepFault?
  obtain ⟨next, work, stepped⟩ : ∃ next work, s.step = (next, work) := ⟨_, _, rfl⟩
  rw [stepped]
  cases work with
  | report fault =>
    dsimp only
    cases next.reported? fault <;> rfl
  | _ => rfl

end Scheduler

namespace Engine

open Scheduler

variable {n : Nat} {stage : Stage} {s : Scheduler}

theorem observersOf_step (s : Scheduler) : s.step.1.observersOf = s.observersOf := by
  funext event
  rw [observersOf, s.step_observers, observersOf]

theorem arrives_takeStep (poised : s.Poised n stage) (recordable : s.Recordable) :
    Arrives n stage s.utters (takeStep s loop) := by
  cases poised with
  | between rests cycle_eq =>
    simp only [takeStep, utters, step_of_rest rests]
    exact (Placed.looping false (.between rests cycle_eq)).arrives rfl
  | within under =>
    have under' : s.step.1.Under n :=
      ⟨s.step_phase.trans under.running, s.step_cycle.trans under.cycle_eq⟩
    have same := observersOf_step s
    have stays := step_recordable recordable
    unfold takeStep utters
    obtain ⟨next, work, stepped⟩ : ∃ next work, s.step = (next, work) := ⟨_, _, rfl⟩
    rw [stepped] at under' same stays
    rw [stepped, ← same]
    cases work with
    | answer more => exact (Placed.looping more (.within under')).arrives rfl
    | draw leaf primitive calls =>
      obtain ⟨_, _, _, _, _, _, _, _, _, _, _, _, fit⟩ := step_eq_draw stepped
      have painted := arrives_paint under' (by simpa using stays) leaf primitive calls
      rw [List.isEmpty_eq_false_iff.mpr (Primitive.calls_ne_nil fit)] at painted
      exact painted.after (Stage.Step.dispatch n leaf calls).single
    | report fault =>
      obtain ⟨stack?, recorded⟩ : next.Recordable := by simpa using stays
      have awaits : Awaits n (next.reportWith fault stack?).1 (.stepped true :: loop) none :=
        .stepped { under' with }
      dsimp only
      rw [reported?_of_snapshot recorded]
      exact arrives_report recorded awaits (.report n)
    | halt phase => exact arrives_halt under' (rests_of_step_eq_halt stepped) .step
    | fail failure => exact (Placed.failing failure under').arrives rfl

end Engine

/-! ## Turns lead from stage to stage -/

namespace Moment

variable {m : Moment}

theorem ended?_of_same (same : m.after.sched.phase = m.before.sched.phase) : m.ended? = none :=
  if_neg fun both => both.2 (same.trans both.1)

theorem notice?_of_same (same : m.after.sched.phase = m.before.sched.phase) :
    m.notice? = (m.drawn?.map .afterPrimitive).or (m.error?.map .onError) := by
  rw [notice?, if_neg fun both => both.1 (same.symm.trans both.2), ended?_of_same same]

theorem notice?_of_ended {result : RunResult} (ended : m.ended? = some result) :
    m.notice? = some (.programEnd result) := by
  have running : m.before.sched.phase = .running := by
    unfold Moment.ended? Scheduler.ended? at ended
    split at ended
    · rename_i both
      exact both.1
    · simp at ended
  rw [notice?, if_neg fun both => both.1 running, ended]

/-- No failure is heard of at a moment, nothing goes to the drawing or comes from it, and nothing is
reported. -/
structure Plain (m : Moment) : Prop where
  unfailed : m.failed? = none
  undispatched : m.dispatched? = none
  undrawn : m.drawn? = none
  unreported : m.fault? = none

theorem Plain.error?_eq (plain : m.Plain) : m.error? = none := by
  unfold error?
  split
  · rfl
  · exact plain.unreported

end Moment

namespace Engine

open Scheduler

/-- A turn leads from a stage to the next, with whatever happens, and what it reports is among
that. -/
inductive Leads (n : Nat) (stage : Stage) (m : Moment) : Prop where
  | intro (front : List Occurrence) :
    m.occurrences m.before.sched.observersOf = front ++ m.after.spoken?.toList →
    front.flatMap Occurrence.faults = m.fault?.toList → Arrives n stage front m.after →
    Leads n stage m

variable {n : Nat} {stage : Stage} {e : Engine} {turn : Turn} {s : Scheduler}

theorem takeStep_phase (s : Scheduler) (tasks : List Task) :
    (takeStep s tasks).sched.phase = s.phase ∨
      ∃ next phase, s.step = (next, .halt phase) ∧
        takeStep s tasks = halt next phase (.stepped false :: tasks) := by
  rcases takeStep_noted s tasks with ⟨journal, reports, calls, noted⟩ | halted
  · rw [noted]
    exact Or.inl s.step_phase
  · exact Or.inr halted

/-- A turn that takes a step. -/
theorem leads_takeStep (poised : s.Poised n stage) (recordable : s.Recordable)
    (stepping : e.stepping? turn = some s)
    (observers_eq : s.observers = e.sched.observers)
    (unfailed : (Moment.mk e turn (takeStep s loop)).failed? = none)
    (undrawn : (Moment.mk e turn (takeStep s loop)).drawn? = none)
    (error_eq : (Moment.mk e turn (takeStep s loop)).error? = s.stepFault?)
    (fault_eq : (Moment.mk e turn (takeStep s loop)).fault? = s.stepFault?) :
    Leads n stage ⟨e, turn, takeStep s loop⟩ := by
  refine .intro s.utters ?_ (by rw [fault_eq, utters_faults]) (arrives_takeStep poised recordable)
  have phase_eq : s.phase = e.sched.phase := e.stepping?_phase stepping
  have audience_eq : e.sched.observersOf = s.observersOf := by
    funext event
    rw [observersOf, ← observers_eq, observersOf]
  rw [Moment.occurrences, unfailed, Moment.dispatched?, stepping, Option.bind_some, audience_eq,
    dispatch?]
  rcases takeStep_phase s loop with same | ⟨next, phase, halts, halted⟩
  · have unstopped : ∀ next phase, s.step ≠ (next, .halt phase) := by
      intro next phase halts
      have rests := halt_rests next (rests_of_step_eq_halt halts) (.stepped false :: loop)
      rw [takeStep, halts] at same
      exact rests (same.trans (step_eq_halt halts).1)
    rw [Moment.notice?_of_same (same.trans phase_eq), undrawn, error_eq, stepFault?, utters]
    obtain ⟨next, work, stepped⟩ : ∃ next work, s.step = (next, work) := ⟨_, _, rfl⟩
    rw [stepped]
    cases work with
    | halt phase => exact absurd stepped (unstopped next phase)
    | report fault =>
      dsimp only
      cases next.reported? fault <;> rfl
    | _ => rfl
  · have running := (step_eq_halt halts).1
    have next_phase : next.phase = .running := by
      have := s.step_phase
      rw [halts] at this
      exact this.trans running
    have ended : (Moment.mk e turn (takeStep s loop)).ended? =
        some ⟨phase, next.cycle, next.steps⟩ := by
      rw [halted, halt_of_running next_phase]
      unfold Moment.ended? ended?
      dsimp only
      rw [announce_sched, if_pos ⟨phase_eq.symm.trans running, rests_of_step_eq_halt halts⟩]
      rfl
    rw [Moment.notice?_of_ended ended, utters, halts]
    rfl

/-- A plain turn that keeps the phase tells of nothing. -/
theorem Leads.of_plain {m : Moment} (plain : m.Plain)
    (same : m.after.sched.phase = m.before.sched.phase) (arrives : Arrives n stage [] m.after) :
    Leads n stage m := by
  refine .intro [] ?_ (by rw [plain.unreported]; rfl) arrives
  rw [Moment.occurrences, plain.unfailed, plain.undispatched, Moment.notice?_of_same same,
    plain.undrawn, plain.error?_eq]
  rfl

/-- A plain turn tells of the beginning or the end of a cycle. -/
theorem Leads.of_notice {m : Moment} {notice : Notice} (plain : m.Plain)
    (told : m.notice? = some notice) (other : notice.isError = false)
    (arrives : Arrives n stage [.announced notice (m.before.sched.observersOf notice.event)]
      m.after) : Leads n stage m := by
  refine .intro _ ?_ ?_ arrives
  · rw [Moment.occurrences, plain.unfailed, plain.undispatched, told]
    rfl
  · rw [plain.unreported]
    cases notice with
    | onError fault => simp [Notice.isError] at other
    | _ => rfl

theorem leads_halt {phase : Phase} {tasks : List Task} (under : e.sched.Under n)
    (rests : phase ≠ .running) (remains : Remains tasks)
    (plain : (Moment.mk e turn (halt e.sched phase tasks)).Plain) :
    Leads n .within ⟨e, turn, halt e.sched phase tasks⟩ := by
  refine .of_notice plain (Moment.notice?_of_ended ?_) rfl (arrives_halt under rests remains)
  unfold Moment.ended? ended?
  dsimp only
  rw [halt_of_running under.running, announce_sched, if_pos ⟨under.running, rests⟩]
  rfl

theorem leads_receive (poised : e.sched.Poised n stage) (batch : List Command)
    (callback? : Option Nat)
    (plain : (Moment.mk e turn (receive e.sched batch callback? [.foreign .outside])).Plain) :
    Leads n stage ⟨e, turn, receive e.sched batch callback? [.foreign .outside]⟩ := by
  unfold receive at plain ⊢
  cases poised with
  | within under =>
    rw [if_pos under.running] at plain ⊢
    have joined : (e.sched.accept batch callback?).Under n := { under with }
    exact .of_plain plain rfl ((Placed.outside _ (.within joined)).arrives rfl)
  | between rests cycle_eq =>
    rw [if_neg rests] at plain ⊢
    split at plain
    · rename_i clockless
      rw [if_pos clockless]
      exact .of_plain plain rfl ((Placed.outside _ (.between rests cycle_eq)).arrives rfl)
    · rename_i clocked
      rw [if_neg clocked]
      have under : (e.sched.accept batch callback?).beginCycle.Under n :=
        ⟨rfl, congrArg (· + 1) cycle_eq⟩
      have runs : (announce (e.sched.accept batch callback?).beginCycle .programStart
          [.starting, .foreign .outside]).sched.phase = .running := by
        rw [announce_sched]
        rfl
      exact .of_notice plain (if_pos ⟨rests, runs⟩) rfl
        (arrives_announce (.starting under) rfl (.begin n _))

/-- Foreign code inside of the scheduler may stop the cycle, attach observers and define procedures,
before it returns or fails. -/
theorem leads_inside {site : Site} {tasks : List Task} {signal : Signal} {move : Move}
    {next : Engine} (inside : site ≠ .outside)
    (taken : turn? .modest ⟨s, .foreign site :: tasks, signal⟩ (.move move) = some next)
    (stays : ∀ t : Scheduler, t.phase = s.phase → t.cycle = s.cycle →
      Placed n stage ⟨t, .foreign site :: tasks, .returned⟩)
    (returns : Placed n stage ⟨s, tasks, .returned⟩)
    (raises : ∀ failure, Rules.modest site (.raise failure) = true →
      Placed n stage ⟨s, tasks, .raised failure⟩) :
    Leads n stage ⟨⟨s, .foreign site :: tasks, signal⟩, .move move, next⟩ := by
  simp only [turn?, site?] at taken
  split at taken
  · rename_i allowed
    rw [Bool.and_eq_true] at allowed
    obtain rfl := Option.some.inj taken
    cases move with
    | stop => exact .of_plain ⟨rfl, rfl, rfl, rfl⟩ rfl ((stays s.stop rfl rfl).arrives rfl)
    | attach event observer =>
      have attached := stays (s.attach event observer) rfl rfl
      exact .of_plain ⟨rfl, rfl, rfl, rfl⟩ rfl (attached.arrives rfl)
    | define name params body =>
      have defined := stays (s.define name params body) rfl rfl
      exact .of_plain ⟨rfl, rfl, rfl, rfl⟩ rfl (defined.arrives rfl)
    | finish => exact .of_plain ⟨rfl, rfl, rfl, rfl⟩ rfl (returns.arrives rfl)
    | raise failure =>
      exact .of_plain ⟨rfl, rfl, rfl, rfl⟩ rfl ((raises failure allowed.2).arrives rfl)
    | cue entries callback? => cases site <;> simp [Rules.modest] at allowed inside
    | step => cases site <;> simp [Rules.modest] at allowed
    | fire position => cases site <;> simp [Rules.modest] at allowed inside
    | prime => cases site <;> simp [Site.offers] at allowed
    | enqueue commands => cases site <;> simp [Site.offers] at allowed
  · simp at taken

theorem Poised.keep {t : Scheduler} (poised : s.Poised n stage) (phase_eq : t.phase = s.phase)
    (cycle_eq : t.cycle = s.cycle) : t.Poised n stage := by
  cases poised with
  | within under => exact .within ⟨phase_eq.trans under.running, cycle_eq.trans under.cycle_eq⟩
  | between rests cycle => exact .between (phase_eq ▸ rests) (cycle_eq.trans cycle)

theorem leads_outside {signal : Signal} {move : Move} {next : Engine} (poised : s.Poised n stage)
    (recordable : s.Recordable)
    (taken : turn? .modest ⟨s, [.foreign .outside], signal⟩ (.move move) = some next) :
    Leads n stage ⟨⟨s, [.foreign .outside], signal⟩, .move move, next⟩ := by
  have stays : ∀ (t : Scheduler) (signal : Signal), t.phase = s.phase → t.cycle = s.cycle →
      Placed n stage ⟨t, [.foreign .outside], signal⟩ :=
    fun t signal phase_eq cycle_eq => .outside signal (Poised.keep poised phase_eq cycle_eq)
  simp only [turn?, site?] at taken
  split at taken
  · rename_i allowed
    rw [Bool.and_eq_true] at allowed
    obtain rfl := Option.some.inj taken
    cases move with
    | stop => exact .of_plain ⟨rfl, rfl, rfl, rfl⟩ rfl ((stays s.stop _ rfl rfl).arrives rfl)
    | attach event observer =>
      have attached := stays (s.attach event observer) .returned rfl rfl
      exact .of_plain ⟨rfl, rfl, rfl, rfl⟩ rfl (attached.arrives rfl)
    | define name params body =>
      have defined := stays (s.define name params body) .returned rfl rfl
      exact .of_plain ⟨rfl, rfl, rfl, rfl⟩ rfl (defined.arrives rfl)
    | cue entries callback? =>
      simp only [perform, cue]
      cases commands entries with
      | error failure =>
        exact .of_plain ⟨rfl, rfl, rfl, rfl⟩ rfl ((stays s (.raised failure) rfl rfl).arrives rfl)
      | ok batch =>
        dsimp only
        split
        · rename_i stopped
          have running : s.phase = .running := by
            rw [Bool.and_eq_true] at stopped
            exact of_decide_eq_true stopped.1
          cases poised with
          | within under =>
            exact leads_halt under Phase.noConfusion (.batch batch callback?) ⟨rfl, rfl, rfl, rfl⟩
          | between rests => exact absurd running rests
        · exact leads_receive poised batch callback? ⟨rfl, rfl, rfl, rfl⟩
    | fire position =>
      simp only [perform]
      cases found : s.timers[position]? with
      | none =>
        refine .of_plain ⟨rfl, ?_, rfl, ?_⟩ rfl ((stays s .returned rfl rfl).arrives rfl)
        · simp [Moment.dispatched?, stepping?, found]
        · simp [Moment.fault?, stepping?, found]
      | some timer =>
        dsimp only [resume]
        split
        · rename_i current
          have stepping : stepping? ⟨s, [.foreign .outside], signal⟩ (.move (.fire position)) =
              some { s with timers := s.timers.eraseIdx position } := by
            simp [stepping?, found, show timer.generation = s.generation from current]
          have fault_eq : ∀ next, (Moment.mk ⟨s, [.foreign .outside], signal⟩
              (.move (.fire position)) next).fault? =
                Scheduler.stepFault? { s with timers := s.timers.eraseIdx position } := by
            intro next
            simp only [Moment.fault?, stepping, Option.bind_some]
          exact leads_takeStep (Poised.keep poised rfl rfl)
            (recordable.mono rfl (List.Subset.refl _)) stepping rfl rfl rfl (fault_eq _)
            (fault_eq _)
        · rename_i stale
          have stale : timer.generation ≠ s.generation := stale
          have expired := stays { s with timers := s.timers.eraseIdx position } .returned rfl rfl
          refine .of_plain ⟨rfl, ?_, rfl, ?_⟩ rfl (expired.arrives rfl)
          · simp [Moment.dispatched?, stepping?, found, stale]
          · simp [Moment.fault?, stepping?, found, stale]
    | step => simp [Rules.modest] at allowed
    | _ => simp [Site.offers] at allowed
  · simp at taken

theorem Awaits.keep {t : Scheduler} {tasks : List Task} {result? : Option RunResult}
    (awaits : Awaits n s tasks result?) (phase_eq : t.phase = s.phase)
    (cycle_eq : t.cycle = s.cycle) : Awaits n t tasks result? := by
  cases awaits with
  | starting under =>
    exact .starting ⟨phase_eq.trans under.running, cycle_eq.trans under.cycle_eq⟩
  | pausing under =>
    exact .pausing ⟨phase_eq.trans under.running, cycle_eq.trans under.cycle_eq⟩
  | stepped under =>
    exact .stepped ⟨phase_eq.trans under.running, cycle_eq.trans under.cycle_eq⟩
  | settling result rest remains rests cycle =>
    exact .settling result rest remains (phase_eq ▸ rests) (cycle_eq.trans cycle)

/-- When nothing is announced any more, the task that has waited goes on. -/
theorem leads_awaiting {tasks : List Task} {result? : Option RunResult} {next : Engine}
    (awaits : Awaits n s tasks result?) (recordable : s.Recordable)
    (worked : next? ⟨s, tasks, .returned⟩ = some next) :
    Leads n (.after false result?) ⟨⟨s, tasks, .returned⟩, .work, next⟩ := by
  cases awaits with
  | starting under =>
    obtain rfl := Option.some.inj worked
    exact leads_takeStep (.within under) recordable rfl rfl rfl rfl rfl rfl
  | pausing under =>
    obtain rfl := Option.some.inj worked
    dsimp only
    unfold pause
    split
    · have armed : s.arm.Under n := { under with }
      exact .of_plain ⟨rfl, rfl, rfl, rfl⟩ rfl ((Placed.looping false (.within armed)).arrives rfl)
    · exact .of_plain ⟨rfl, rfl, rfl, rfl⟩ rfl ((Placed.looping true (.within under)).arrives rfl)
  | stepped under =>
    obtain rfl := Option.some.inj worked
    exact .of_plain ⟨rfl, rfl, rfl, rfl⟩ rfl ((Placed.looping true (.within under)).arrives rfl)
  | settling result rest remains rests cycle_eq =>
    obtain rfl := Option.some.inj worked
    refine .of_plain ⟨rfl, rfl, rfl, rfl⟩ ?_ (arrives_settle remains rests cycle_eq rest)
    dsimp only
    rw [settle_sched]

/-- What is left when a cycle has ended. -/
theorem leads_over {tasks : List Task} {next : Engine} (remains : Remains tasks)
    (rests : s.phase ≠ .running) (cycle_eq : s.cycle = n)
    (worked : next? ⟨s, tasks, .returned⟩ = some next) :
    Leads n .between ⟨⟨s, tasks, .returned⟩, .work, next⟩ := by
  have between : s.Poised n .between := .between rests cycle_eq
  cases remains with
  | step =>
    obtain rfl := Option.some.inj worked
    exact .of_plain ⟨rfl, rfl, rfl, rfl⟩ rfl ((Placed.looping false between).arrives rfl)
  | batch batch callback? =>
    obtain rfl := Option.some.inj worked
    exact leads_receive between batch callback? ⟨rfl, rfl, rfl, rfl⟩
  | failure failure =>
    obtain rfl := Option.some.inj worked
    exact .of_plain ⟨rfl, rfl, rfl, rfl⟩ rfl ((Placed.outside _ between).arrives rfl)

/-- An observer has failed: that is reported, unless it was one of a fault. -/
theorem leads_complain {tasks : List Task} {notice : Notice} {result? : Option RunResult}
    (rest : List Nat) (failure : Failure) (awaits : Awaits n s tasks result?)
    (recordable : s.Recordable) (other : notice.isError = false) :
    Leads n (.telling notice rest true result?)
      ⟨⟨s, .announcing notice rest :: tasks, .raised failure⟩, .work,
        report s (observerFault s notice.event failure) tasks⟩ := by
  generalize same : observerFault s notice.event failure = fault
  obtain ⟨stack?, recorded⟩ := recordable
  have awaits' : Awaits n (s.reportWith fault stack?).1 tasks result? := awaits.keep rfl rfl
  have failing := Stage.Step.fail n notice rest result? failure
  rw [other] at failing
  have announces : ∀ fault audience,
      Stage.Step n (.after true result?) (some (.announced (.onError fault) audience)) n
        (.telling (.onError fault) audience false result?) := by
    intro fault audience
    cases result? with
    | none => exact .report n fault audience
    | some result => exact .complain n result fault audience
  have fault_eq : (Moment.mk ⟨s, .announcing notice rest :: tasks, .raised failure⟩ .work
      (report s fault tasks)).fault? = some (s.reportWith fault stack?).2 := by
    rw [← same]
    exact reported?_of_snapshot recorded _
  have notice_eq : (Moment.mk ⟨s, .announcing notice rest :: tasks, .raised failure⟩ .work
      (report s fault tasks)).notice? = some (.onError (s.reportWith fault stack?).2) := by
    rw [Moment.notice?_of_same
      (by dsimp only; rw [report_of_snapshot recorded, tellFault_sched]; rfl)]
    exact congrArg (fun fault? => fault?.map Notice.onError) fault_eq
  refine .intro _ ?_ ?_ ((arrives_report recorded awaits' announces).after failing.single)
  · rw [Moment.occurrences, notice_eq]
    rfl
  · rw [fault_eq]
    cases notice with
    | onError => simp [Notice.isError] at other
    | _ => rfl

theorem leads_paint (under : s.Under n) (recordable : s.Recordable) (leaf : Command)
    (primitive : Primitive) (rest : List Call) :
    Leads n (.drawing leaf rest)
      ⟨⟨s, .painting leaf primitive rest :: loop, .returned⟩, .work,
        paint s leaf primitive loop rest⟩ := by
  have same : (paint s leaf primitive loop rest).sched.phase = s.phase := by
    obtain ⟨journal, reports, calls, noted⟩ := paint_noted s loop leaf primitive rest
    rw [noted]
  have arrives := arrives_paint under recordable leaf primitive rest
  cases rest with
  | nil =>
    refine .intro _ ?_ rfl arrives
    rw [Moment.occurrences, Moment.notice?_of_same same]
    rfl
  | cons call rest => exact .of_plain ⟨rfl, rfl, rfl, rfl⟩ same arrives

theorem leads_giveUp {tasks : List Task} {result? : Option RunResult} (fault : Fault)
    (rest : List Nat) (failure : Failure) (awaits : Awaits n s tasks result?) :
    Leads n (.telling (.onError fault) rest true result?)
      ⟨⟨s, .reporting fault rest :: tasks, .raised failure⟩, .work,
        ⟨s.addReport (secondaryFault fault failure), tasks, .returned⟩⟩ := by
  have failing := Stage.Step.fail n (.onError fault) rest result? failure
  have awaits' : Awaits n (s.addReport (secondaryFault fault failure)) tasks result? :=
    awaits.keep rfl rfl
  refine .intro [.failed (.onError fault) failure] ?_ rfl
    ⟨n, _, failing.single, .awaiting awaits'⟩
  rw [Moment.occurrences, Moment.notice?_of_same rfl]
  rfl

/-- Whatever turn is taken leads on from the stage that an engine is in. -/
theorem Placed.leads {next : Engine} (placed : Placed n stage e) (recordable : e.Recordable)
    (taken : e.turn? .modest turn = some next) : Leads n stage ⟨e, turn, next⟩ := by
  cases turn with
  | move move =>
    cases placed with
    | outside signal poised =>
      exact leads_outside poised (recordable_of_foreign recordable) taken
    | drawing call leaf primitive rest signal under =>
      refine leads_inside Site.noConfusion taken (fun t phase_eq cycle_eq => ?_) ?_ ?_
      · exact .drawing call leaf primitive rest .returned
          ⟨phase_eq.trans under.running, cycle_eq.trans under.cycle_eq⟩
      · exact .painting leaf primitive rest under
      · exact fun _ allowed => absurd allowed Bool.false_ne_true
    | telling id rest signal awaits other =>
      refine leads_inside Site.noConfusion taken (fun t phase_eq cycle_eq => ?_) ?_ ?_
      · exact .telling id rest .returned (awaits.keep phase_eq cycle_eq) other
      · exact .announcing rest awaits other
      · exact fun failure _ => .complaining rest failure awaits other
    | tellingFault id fault rest signal awaits =>
      refine leads_inside Site.noConfusion taken (fun t phase_eq cycle_eq => ?_) ?_ ?_
      · exact .tellingFault id fault rest .returned (awaits.keep phase_eq cycle_eq)
      · exact .reporting fault rest awaits
      · exact fun failure _ => .givingUp fault rest failure awaits
    | calling id result rest signal remains rests cycle =>
      refine leads_inside Site.noConfusion taken (fun t phase_eq cycle_eq => ?_) ?_ ?_
      · exact .calling id result rest .returned remains (phase_eq ▸ rests) (cycle_eq.trans cycle)
      · exact .awaiting (.settling result rest remains rests cycle)
      · exact fun _ allowed => absurd allowed Bool.false_ne_true
    | awaiting awaits => cases awaits <;> simp [turn?, site?] at taken
    | leaving remains => cases remains <;> simp [turn?, site?] at taken
    | _ => simp [turn?, site?, loop] at taken
  | work =>
    cases placed with
    | outside => simp [turn?, next?] at taken
    | drawing => simp [turn?, next?] at taken
    | telling => simp [turn?, next?] at taken
    | tellingFault => simp [turn?, next?] at taken
    | calling => simp [turn?, next?] at taken
    | awaiting awaits =>
      exact leads_awaiting awaits (recordable.resolve_left Bool.false_ne_true) taken
    | leaving remains rests cycle_eq => exact leads_over remains rests cycle_eq taken
    | looping more poised =>
      obtain rfl := Option.some.inj taken
      cases more with
      | true =>
        exact leads_takeStep poised (recordable.resolve_left Bool.false_ne_true) rfl rfl rfl rfl
          rfl rfl
      | false =>
        exact .of_plain ⟨rfl, rfl, rfl, rfl⟩ rfl ((Placed.outside .returned poised).arrives rfl)
    | failing failure under =>
      obtain rfl := Option.some.inj taken
      exact leads_halt under Phase.noConfusion (.failure failure) ⟨rfl, rfl, rfl, rfl⟩
    | painting leaf primitive rest under =>
      obtain rfl := Option.some.inj taken
      exact leads_paint under (recordable.resolve_left Bool.false_ne_true) leaf primitive rest
    | announcing rest awaits other =>
      obtain rfl := Option.some.inj taken
      refine .of_plain ⟨rfl, rfl, rfl, rfl⟩ ?_ (arrives_tell awaits other rest true)
      dsimp only
      rw [tell_sched]
    | complaining rest failure awaits other =>
      obtain rfl := Option.some.inj taken
      exact leads_complain rest failure awaits (recordable.resolve_left Bool.false_ne_true) other
    | reporting fault rest awaits =>
      obtain rfl := Option.some.inj taken
      refine .of_plain ⟨rfl, rfl, rfl, rfl⟩ ?_ (arrives_tellFault awaits fault rest true)
      dsimp only
      rw [tellFault_sched]
    | givingUp fault rest failure awaits =>
      obtain rfl := Option.some.inj taken
      exact leads_giveUp fault rest failure awaits

end Engine

end Turtle
