import Mathlib.Computability.StateTransition
import Turtle.Proofs.Attending
import Turtle.Proofs.Change

/-!
# Hosts

A host is foreign code that does what it is called for and then returns or fails: the drawing draws,
observers are told, callbacks are called.  All that it does to the scheduler is that the drawing may
stop the cycle.  With a host a step, and whatever follows from it, comes back to where it was taken
from, and what has become of the host and of the scheduler by then can be computed: this is a beat.

A run is a matter of beats, then, and of what is done outside between them.  Its course is a machine
of much larger steps than the turns of the engine, and it comes to the same ends.
-/

set_option autoImplicit false

namespace Turtle

open StateTransition

namespace Engine

section Turns

variable {σ : Type}

/-- The next turn of an engine and its environment, if one of them goes on. -/
def turn (respond : σ → Engine → Option (σ × Engine)) (p : σ × Engine) : Option (σ × Engine) :=
  match p.2.next? with
  | some next => some (p.1, next)
  | none => respond p.1 p.2

variable {respond : σ → Engine → Option (σ × Engine)} {p q : σ × Engine}

theorem turn_of_next {u : σ} {e next : Engine} (worked : e.next? = some next) :
    turn respond (u, e) = some (u, next) := by
  simp only [turn, worked]

theorem turn_of_foreign {u : σ} {s : Scheduler} {site : Site} {tasks : List Task}
    {signal : Signal} :
    turn respond (u, ⟨s, .foreign site :: tasks, signal⟩) =
      respond u ⟨s, .foreign site :: tasks, signal⟩ := rfl

theorem drive_of_none (stuck : turn respond p = none) (fuel : Nat) :
    drive respond fuel p.1 p.2 = p := by
  cases fuel with
  | zero => rfl
  | succ fuel =>
    unfold turn at stuck
    split at stuck
    · contradiction
    · rename_i none
      simp only [drive, none, stuck]

theorem drive_of_turn (taken : turn respond p = some q) (fuel : Nat) :
    drive respond (fuel + 1) p.1 p.2 = drive respond fuel q.1 q.2 := by
  unfold turn at taken
  split at taken
  · rename_i next worked
    obtain rfl := Option.some.inj taken
    simp only [drive, worked]
  · rename_i none
    simp only [drive, none, taken]

theorem reaches_drive (fuel : Nat) (p : σ × Engine) :
    Reaches (turn respond) p (drive respond fuel p.1 p.2) := by
  induction fuel generalizing p with
  | zero => exact .refl
  | succ fuel ih =>
    cases taken : turn respond p with
    | none =>
      rw [drive_of_none taken]
      exact .refl
    | some q =>
      rw [drive_of_turn taken]
      exact .head taken (ih q)

/-- With enough fuel an engine is driven to where its turns lead. -/
theorem drive_of_reaches (reaches : Reaches (turn respond) p q) :
    ∃ count, ∀ fuel, drive respond (count + fuel) p.1 p.2 = drive respond fuel q.1 q.2 := by
  induction reaches using Relation.ReflTransGen.head_induction_on with
  | refl => exact ⟨0, fun fuel => by rw [Nat.zero_add]⟩
  | head taken _ ih =>
    obtain ⟨count, driven⟩ := ih
    refine ⟨count + 1, fun fuel => ?_⟩
    rw [Nat.add_right_comm, drive_of_turn taken, driven]

/-- An engine comes to an end if it is driven to where neither it nor its environment goes on. -/
theorem mem_eval_turn :
    q ∈ eval (turn respond) p ↔
      (∃ fuel, drive respond fuel p.1 p.2 = q) ∧ turn respond q = none := by
  rw [mem_eval]
  refine and_congr_left fun stuck => ⟨fun reaches => ?_, ?_⟩
  · obtain ⟨count, driven⟩ := drive_of_reaches reaches
    exact ⟨count, driven 0⟩
  · rintro ⟨fuel, rfl⟩
    exact reaches_drive fuel p

end Turns

end Engine

open Engine

/-- The drawing is asked for something. -/
def Scheduler.ask (s : Scheduler) (call : Call) : Scheduler :=
  { s with calls := call :: s.calls }

/-- What foreign code does when it is called.  The drawing may know how many calls it has been
asked for, and a callback is given the faults of its cycle with the result. -/
structure Host (σ : Type) where
  draw : σ → (number : Nat) → Call → σ × Manner
  tell : σ → (observer : Nat) → Notice → σ
  hear : σ → (callback : Nat) → RunResult → List Fault → σ

/-- A scheduler after a call of the drawing. -/
def Manner.leaves (manner : Manner) (s : Scheduler) : Scheduler :=
  if manner.stops then s.stop else s

def Manner.signal (manner : Manner) : Signal :=
  match manner.failure? with
  | none => .returned
  | some failure => .raised failure

/-- What an observer is told of can be written down, as every leaf can. -/
def Notice.Writable : Notice → Prop
  | .afterPrimitive leaf => leaf.describe? ≠ none
  | _ => True

theorem Notice.writable_of_draws {s next : Scheduler} {leaf : Command} {primitive : Primitive}
    {calls : List Call} (draws : s.step = (next, .draw leaf primitive calls)) :
    (Notice.afterPrimitive leaf).Writable := by
  obtain ⟨_, _, _, _, op, args, at?, _, _, rfl, _⟩ := Scheduler.step_eq_draw draws
  exact Option.some_ne_none _

/-- An environment makes the moves of a host wherever foreign code has been called. -/
structure Serves {σ : Type} (respond : σ → Engine → Option (σ × Engine)) (host : Host σ) :
    Prop where
  draws : ∀ u s call tasks,
    Reaches (turn respond) (u, ⟨s, .foreign (.drawing call) :: tasks, .called⟩)
      ((host.draw u s.calls.length call).1,
        ⟨(host.draw u s.calls.length call).2.leaves s, tasks,
          (host.draw u s.calls.length call).2.signal⟩)
  tells : ∀ u s id notice tasks, notice.Writable →
    Reaches (turn respond) (u, ⟨s, .foreign (.observer id notice) :: tasks, .called⟩)
      (host.tell u id notice, ⟨s, tasks, .returned⟩)
  hears : ∀ u s id result tasks,
    Reaches (turn respond) (u, ⟨s, .foreign (.callback id result) :: tasks, .called⟩)
      (host.hear u id result (s.faultsOf result.cycle), ⟨s, tasks, .returned⟩)

/-- How a step has come out when all that follows from it is done. -/
inductive Upshot where
  /-- A primitive has been drawn; in a paced run there is a pause now. -/
  | drawn
  | onward
  /-- The cycle has ended. -/
  | ended
  | failed (failure : Failure)
deriving DecidableEq

def Upshot.engine (s : Scheduler) (tasks : List Task) : Upshot → Engine
  | drawn => pause s tasks
  | onward => ⟨s, tasks, .answered true⟩
  | ended => ⟨s, tasks, .answered false⟩
  | failed failure => ⟨s, tasks, .raised failure⟩

/-- Where a run is between two beats: the next step of a loop is to be taken, or whoever is outside
has control. -/
inductive Scene (σ : Type) where
  | stepping (u : σ) (s : Scheduler)
  | outside (u : σ) (s : Scheduler) (signal : Signal)

namespace Scene

variable {σ : Type}

def foreign : Scene σ → σ
  | stepping u _ => u
  | outside u _ _ => u

def sched : Scene σ → Scheduler
  | stepping _ s => s
  | outside _ s _ => s

end Scene

/-- A loop of steps that has been begun from outside. -/
def Engine.loop : List Task :=
  [.running, .foreign .outside]

def Scene.engine {σ : Type} : Scene σ → σ × Engine
  | stepping u s => (u, takeStep s loop)
  | outside u s signal => (u, ⟨s, [.foreign .outside], signal⟩)

namespace Host

variable {σ : Type} (host : Host σ)

def announce (u : σ) (s : Scheduler) (notice : Notice) : σ :=
  (s.observersOf notice.event).foldl (fun u id => host.tell u id notice) u

def report (u : σ) (s : Scheduler) (fault : Fault) : σ × Scheduler × Upshot :=
  match s.report fault with
  | .ok (reported, numbered) => (host.announce u reported (.onError numbered), reported, .onward)
  | .error failure => (u, s, .failed failure)

variable {host} in
theorem report_of_snapshot {s : Scheduler} {stack? : Option (List String)}
    (recorded : s.snapshot = .ok stack?) (u : σ) (fault : Fault) :
    host.report u s fault =
      (host.announce u (s.reportWith fault stack?).1 (.onError (s.reportWith fault stack?).2),
        (s.reportWith fault stack?).1, .onward) := by
  rw [report, Scheduler.report, recorded]
  rfl

variable {host} in
theorem report_of_unrecordable {s : Scheduler} (unrecordable : ¬s.Recordable) (u : σ)
    (fault : Fault) : host.report u s fault = (u, s, .failed .unwritableNumber) := by
  rw [report, Scheduler.report, Scheduler.snapshot_of_unrecordable unrecordable]
  rfl

/-- Ends the running cycle, if one is running. -/
def close (u : σ) (s : Scheduler) (phase : Phase) : σ × Scheduler :=
  if s.phase = .running then
    let (halted, result, callbacks) := s.endCycle phase
    let told := host.announce u halted (.programEnd result)
    (callbacks.foldl (fun u id => host.hear u id result (halted.faultsOf result.cycle)) told,
      halted)
  else (u, s)

def paint (leaf : Command) (primitive : Primitive) :
    List Call → σ → Scheduler → σ × Scheduler × Upshot
  | [], u, s =>
    match s.log (.primitive primitive.name) leaf.location? with
    | .ok logged => (host.announce u logged (.afterPrimitive leaf), logged, .drawn)
    | .error failure => (u, s, .failed failure)
  | call :: rest, u, s =>
    let (drawn, manner) := host.draw u (s.calls.length + 1) call
    match manner.failure? with
    | none => paint leaf primitive rest drawn (manner.leaves (s.ask call))
    | some (.fault fault) => host.report drawn (manner.leaves (s.ask call)) fault
    | some failure => (drawn, manner.leaves (s.ask call), .failed failure)

/-- A step with all that follows from it. -/
def beat (u : σ) (s : Scheduler) : σ × Scheduler × Upshot :=
  match s.step with
  | (next, .answer more) => (u, next, if more then .onward else .ended)
  | (next, .draw leaf primitive calls) => host.paint leaf primitive calls u next
  | (next, .report fault) => host.report u next fault
  | (next, .halt phase) =>
    let (told, halted) := host.close u next phase
    (told, halted, .ended)
  | (next, .fail failure) => (u, next, .failed failure)

/-- What a loop of steps makes of a beat.  A pause ends the loop, and so does a failure, which
cancels the cycle. -/
def resume : σ × Scheduler × Upshot → Scene σ
  | (u, s, .drawn) =>
    if s.settings.animate && s.paced then .outside u s.arm .returned else .stepping u s
  | (u, s, .onward) => .stepping u s
  | (u, s, .ended) => .outside u s .returned
  | (u, s, .failed failure) =>
    let (told, halted) := host.close u s .cancelled
    .outside told halted (.raised failure)

def receive (u : σ) (s : Scheduler) (batch : List Command) (callback? : Option Nat) : Scene σ :=
  if s.phase = .running then .outside u (s.accept batch callback?) .returned
  else if s.settings.animate && !s.settings.clocked then .outside u s (.raised .noClock)
  else
    let begun := (s.accept batch callback?).beginCycle
    .stepping (host.announce u begun .programStart) begun

/-- Cues a batch from outside. -/
def cue (u : σ) (s : Scheduler) (entries : List Value) (callback? : Option Nat) : Scene σ :=
  match commands entries with
  | .error failure => .outside u s (.raised failure)
  | .ok batch =>
    if s.phase = .running && !s.live then
      let (told, halted) := host.close u s .cancelled
      host.receive told halted batch callback?
    else host.receive u s batch callback?

end Host

/-- Lets the oldest timer go off from outside. -/
def Scene.fire {σ : Type} (u : σ) (s : Scheduler) : Scene σ :=
  match s.timers with
  | [] => .outside u s .returned
  | timer :: rest =>
    if timer.generation = s.generation then .stepping u { s with timers := rest }
    else .outside u { s with timers := rest } .returned

/-- The course of a run, beat by beat, with what is done outside. -/
def Host.course {σ : Type} (host : Host σ) (act : σ → Scheduler → Signal → Option (Scene σ)) :
    Scene σ → Option (Scene σ)
  | .stepping u s => some (host.resume (host.beat u s))
  | .outside u s signal => act u s signal

namespace Serves

variable {σ : Type} {respond : σ → Engine → Option (σ × Engine)} {host : Host σ}

section

variable (serves : Serves respond host)
include serves

theorem reaches_tell (u : σ) (s : Scheduler) {notice : Notice} (writable : notice.Writable)
    (tasks : List Task) (observers : List Nat) :
    Reaches (turn respond) (u, tell s notice tasks observers)
      (observers.foldl (fun u id => host.tell u id notice) u, ⟨s, tasks, .returned⟩) := by
  induction observers generalizing u with
  | nil => exact .refl
  | cons id rest ih =>
    refine (serves.tells u s id notice _ writable).trans ?_
    exact .head (turn_of_next rfl) (ih _)

theorem reaches_announce (u : σ) (s : Scheduler) (notice : Notice) (writable : notice.Writable)
    (tasks : List Task) :
    Reaches (turn respond) (u, announce s notice tasks)
      (host.announce u s notice, ⟨s, tasks, .returned⟩) :=
  serves.reaches_tell u s writable tasks _

theorem reaches_tellFault (u : σ) (s : Scheduler) (fault : Fault) (tasks : List Task)
    (observers : List Nat) :
    Reaches (turn respond) (u, tellFault s fault tasks observers)
      (observers.foldl (fun u id => host.tell u id (.onError fault)) u,
        ⟨s, tasks, .returned⟩) := by
  induction observers generalizing u with
  | nil => exact .refl
  | cons id rest ih =>
    refine (serves.tells u s id (.onError fault) _ trivial).trans ?_
    exact .head (turn_of_next rfl) (ih _)

/-- A step ends when its fault has been reported, or it fails when that cannot be done. -/
theorem reaches_report (u : σ) (s : Scheduler) (fault : Fault) (tasks : List Task) :
    Reaches (turn respond) (u, Engine.report s fault (.stepped true :: tasks))
      ((host.report u s fault).1,
        (host.report u s fault).2.2.engine (host.report u s fault).2.1 tasks) := by
  rcases report_cases s fault (.stepped true :: tasks) with
    ⟨stack?, recorded, reported⟩ | ⟨unrecordable, reported⟩
  · rw [reported, Host.report_of_snapshot recorded]
    exact (serves.reaches_tellFault u _ _ _ _).trans (.single (turn_of_next rfl))
  · rw [reported, Host.report_of_unrecordable unrecordable]
    exact .single (turn_of_next rfl)

theorem reaches_settle (u : σ) (s : Scheduler) (result : RunResult) (tasks : List Task)
    (callbacks : List Nat) :
    Reaches (turn respond) (u, settle s result tasks callbacks)
      (callbacks.foldl (fun u id => host.hear u id result (s.faultsOf result.cycle)) u,
        ⟨s, tasks, .returned⟩) := by
  induction callbacks generalizing u with
  | nil => exact .refl
  | cons id rest ih =>
    refine (serves.hears u s id result _).trans ?_
    exact .head (turn_of_next rfl) (ih _)

theorem reaches_halt (u : σ) (s : Scheduler) (phase : Phase) (tasks : List Task) :
    Reaches (turn respond) (u, halt s phase tasks)
      ((host.close u s phase).1, ⟨(host.close u s phase).2, tasks, .returned⟩) := by
  by_cases running : s.phase = .running
  · rw [halt_of_running running, Host.close, if_pos running]
    refine (serves.reaches_announce u _ (.programEnd _) trivial _).trans ?_
    exact .head (turn_of_next rfl) (serves.reaches_settle _ _ _ _ _)
  · rw [halt_of_rest running, Host.close, if_neg running]
    exact .refl

theorem reaches_paint (u : σ) (s : Scheduler) {leaf : Command}
    (writable : (Notice.afterPrimitive leaf).Writable) (primitive : Primitive)
    (tasks : List Task) (calls : List Call) :
    Reaches (turn respond) (u, Engine.paint s leaf primitive tasks calls)
      ((host.paint leaf primitive calls u s).1,
        (host.paint leaf primitive calls u s).2.2.engine
          (host.paint leaf primitive calls u s).2.1 tasks) := by
  induction calls generalizing u s with
  | nil =>
    rw [Engine.paint, Host.paint]
    cases s.log (.primitive primitive.name) leaf.location? with
    | ok logged =>
      refine (serves.reaches_announce u _ _ writable _).trans ?_
      exact .single (turn_of_next rfl)
    | error failure => exact .refl
  | cons call rest ih =>
    have asked := serves.draws u (s.ask call) call (.painting leaf primitive rest :: tasks)
    have counted : (s.ask call).calls.length = s.calls.length + 1 := rfl
    rw [counted] at asked
    rw [Host.paint]
    generalize host.draw u (s.calls.length + 1) call = left at asked ⊢
    obtain ⟨drawn, stops, failure?⟩ := left
    refine asked.trans ?_
    cases failure? with
    | none => exact .head (turn_of_next rfl) (ih drawn _)
    | some failure =>
      cases failure with
      | fault fault =>
        exact .head (turn_of_next rfl) (serves.reaches_report drawn _ fault _)
      | _ => exact .single (turn_of_next rfl)

/-- A step that is taken for some tasks comes back to them as a beat. -/
theorem reaches_takeStep (u : σ) (s : Scheduler) (tasks : List Task) :
    Reaches (turn respond) (u, takeStep s tasks)
      ((host.beat u s).1, (host.beat u s).2.2.engine (host.beat u s).2.1 tasks) := by
  unfold takeStep Host.beat
  obtain ⟨next, work, stepped⟩ : ∃ next work, s.step = (next, work) := ⟨_, _, rfl⟩
  rw [stepped]
  cases work with
  | answer more => cases more <;> exact .refl
  | draw leaf primitive calls =>
    exact serves.reaches_paint u next (Notice.writable_of_draws stepped) primitive tasks calls
  | report fault => exact serves.reaches_report u next fault tasks
  | halt phase =>
    exact (serves.reaches_halt u next phase _).trans (.single (turn_of_next rfl))
  | fail failure => exact .refl

/-- What a loop makes of a beat takes it a turn at least. -/
theorem reaches_resume (b : σ × Scheduler × Upshot) :
    Reaches₁ (turn respond) (b.1, b.2.2.engine b.2.1 loop) (host.resume b).engine := by
  obtain ⟨u, s, upshot⟩ := b
  cases upshot with
  | drawn =>
    simp only [Upshot.engine, pause, Host.resume]
    split <;> exact .single (turn_of_next rfl)
  | onward => exact .single (turn_of_next rfl)
  | ended => exact .single (turn_of_next rfl)
  | failed failure =>
    refine .head' (turn_of_next rfl) ((serves.reaches_halt u s .cancelled _).trans ?_)
    exact .single (turn_of_next rfl)

theorem reaches_receive (u : σ) (s : Scheduler) (batch : List Command)
    (callback? : Option Nat) :
    Reaches (turn respond) (u, Engine.receive s batch callback? [.foreign .outside])
      (host.receive u s batch callback?).engine := by
  unfold Engine.receive Host.receive
  split
  · exact .refl
  · split
    · exact .refl
    · exact (serves.reaches_announce u _ .programStart trivial _).trans
        (.single (turn_of_next rfl))

theorem reaches_cue (u : σ) (s : Scheduler) (entries : List Value) (callback? : Option Nat) :
    Reaches (turn respond) (u, Engine.cue s entries callback? [.foreign .outside])
      (host.cue u s entries callback?).engine := by
  unfold Engine.cue Host.cue
  cases commands entries with
  | error failure => exact .refl
  | ok batch =>
    dsimp only
    split
    · refine (serves.reaches_halt u s .cancelled _).trans ?_
      exact .head (turn_of_next rfl) (serves.reaches_receive _ _ _ _)
    · exact serves.reaches_receive u s _ _

end

/-- If the environment does outside what the course of a run says, then turn by turn the run keeps
to its course. -/
theorem respects (serves : Serves respond host)
    {act : σ → Scheduler → Signal → Option (Scene σ)}
    (acts : ∀ u s signal scene, act u s signal = some scene →
      Reaches₁ (turn respond) (u, ⟨s, [.foreign .outside], signal⟩) scene.engine)
    (rests : ∀ u s signal, act u s signal = none →
      respond u ⟨s, [.foreign .outside], signal⟩ = none) :
    Respects (host.course act) (turn respond) fun scene p => scene.engine = p := by
  rintro scene _ rfl
  cases scene with
  | stepping u s =>
    refine ⟨_, rfl, ?_⟩
    exact Relation.TransGen.trans_right (serves.reaches_takeStep u s loop)
      (serves.reaches_resume (host.beat u s))
  | outside u s signal =>
    simp only [Host.course]
    cases acted : act u s signal with
    | none => exact rests u s signal acted
    | some scene => exact ⟨_, rfl, acts u s signal scene acted⟩

end Serves

/-- The run from a scene comes to an end where its course does. -/
theorem Host.eval_turn {σ : Type} {respond : σ → Engine → Option (σ × Engine)} {host : Host σ}
    {act : σ → Scheduler → Signal → Option (Scene σ)}
    (respects : Respects (host.course act) (turn respond) fun scene p => scene.engine = p)
    (scene : Scene σ) :
    eval (turn respond) scene.engine = (eval (host.course act) scene).map Scene.engine :=
  tr_eval' _ _ Scene.engine respects scene

theorem Scene.engine_fire {σ : Type} (u : σ) (s : Scheduler) (signal : Signal) :
    (u, perform ⟨s, [.foreign .outside], signal⟩ (.fire 0)) = (Scene.fire u s).engine := by
  unfold perform Scene.fire
  cases timers : s.timers with
  | nil => rfl
  | cons timer rest =>
    simp only [List.getElem?_cons_zero, Engine.resume, List.eraseIdx_zero, List.tail_cons]
    split <;> rfl

end Turtle
