import Turtle.Proofs.Likeness

/-!
# Clients

A client of the turtle has a plan: it cues batches and lets the oldest timer go off, each time when
what it has done before has come back.  Its observers and callbacks do nothing but keep what they
are given, and its drawing may stop the cycle or fail at any of its calls.
-/

set_option autoImplicit false

namespace Turtle

open Engine StateTransition

inductive Request where
  | cue (entries : List Value) (callback? : Option Nat)
  | fire

def Request.move : Request → Move
  | cue entries callback? => .cue entries callback?
  | fire => .fire 0

/-- What a callback is called with. -/
structure Hearing where
  callback : Nat
  result : RunResult
  faults : List Fault
deriving DecidableEq

/-- A client: what it is still to do, and what its observers and callbacks have been given. -/
structure Client where
  plan : List Request
  told : List (Nat × Notice)
  heard : List Hearing

namespace Client

def planning (plan : List Request) : Client :=
  ⟨plan, [], []⟩

def tell (u : Client) (observer : Nat) (notice : Notice) : Client :=
  { u with told := u.told ++ [(observer, notice)] }

def hear (u : Client) (callback : Nat) (result : RunResult) (faults : List Fault) : Client :=
  { u with heard := u.heard ++ [⟨callback, result, faults⟩] }

/-- The moves of a client.  The manner of a call of the drawing depends on its number. -/
def respond (manner : Nat → Manner) (u : Client) (e : Engine) : Option (Client × Engine) :=
  match e.site? with
  | none => none
  | some .outside =>
    match u.plan with
    | [] => none
    | request :: plan => some ({ u with plan := plan }, e.perform request.move)
  | some (.drawing _) => some (u, e.perform ((manner e.sched.calls.length).move e.signal))
  | some (.observer id notice) => some (u.tell id notice, e.perform .finish)
  | some (.callback id result) =>
    some (u.hear id result (e.sched.faultsOf result.cycle), e.perform .finish)

def host (manner : Nat → Manner) : Host Client where
  draw u number _ := (u, manner number)
  tell := tell
  hear := hear

variable (manner : Nat → Manner)

def request (u : Client) (s : Scheduler) : Request → Scene Client
  | .cue entries callback? => (host manner).cue u s entries callback?
  | .fire => .fire u s

/-- What a client does outside. -/
def act (u : Client) (s : Scheduler) (_ : Signal) : Option (Scene Client) :=
  match u.plan with
  | [] => none
  | request :: plan => some (Client.request manner { u with plan := plan } s request)

theorem act_eq_none_iff {manner : Nat → Manner} {u : Client} {s : Scheduler} {signal : Signal} :
    act manner u s signal = none ↔ u.plan = [] := by
  unfold act
  split
  · rename_i nothing
    simp [nothing]
  · rename_i something
    simp [something]

theorem serves : Serves (respond manner) (host manner) where
  draws u s call tasks := by
    obtain ⟨⟨stops, failure?⟩, drawn⟩ : ∃ m, manner s.calls.length = m := ⟨_, rfl⟩
    have left : Reaches (turn (respond manner))
        (u, ⟨if stops then s.stop else s, .foreign (.drawing call) :: tasks, .returned⟩)
        (u, ⟨if stops then s.stop else s, tasks, Manner.signal ⟨stops, failure?⟩⟩) := by
      have same : manner (if stops then s.stop else s).calls.length = ⟨stops, failure?⟩ := by
        cases stops <;> exact drawn
      refine .single (turn_of_foreign.trans ?_)
      simp only [respond, site?, same, Manner.move]
      cases failure? <;> rfl
    simp only [host, drawn]
    cases stops with
    | true =>
      refine .head (turn_of_foreign.trans ?_) left
      simp only [respond, site?, drawn]
      rfl
    | false =>
      refine .single (turn_of_foreign.trans ?_)
      simp only [respond, site?, drawn]
      cases failure? <;> rfl
  tells _ _ _ _ _ _ := .single rfl
  hears u s id result tasks := .single rfl

theorem respects :
    Respects ((host manner).course (act manner)) (turn (respond manner)) fun scene p =>
      scene.engine = p := by
  refine (serves manner).respects (fun u s signal scene acted => ?_) (fun u s signal acted => ?_)
  · unfold act at acted
    split at acted
    · contradiction
    · rename_i request plan planned
      obtain rfl := Option.some.inj acted
      have responded : turn (respond manner) (u, ⟨s, [.foreign .outside], signal⟩) =
          some ({ u with plan := plan },
            perform ⟨s, [.foreign .outside], signal⟩ request.move) := by
        simp only [turn_of_foreign, respond, site?, planned]
      cases request with
      | cue entries callback? =>
        exact .head' responded ((serves manner).reaches_cue _ s entries callback?)
      | fire =>
        rw [Request.move, Scene.engine_fire] at responded
        exact .single responded
  · unfold act at acted
    split at acted
    · rename_i planned
      simp only [respond, site?, planned]
    · contradiction

/-- What the run of a client with a plan comes to, if it comes to an end. -/
def run (plan : List Request) (e : Engine) : Part (Client × Engine) :=
  eval (turn (respond manner)) (planning plan, e)

theorem exists_run (manner : Nat → Manner) (plan : List Request) (e : Engine) (fuel : Nat)
    (check : Client × Engine → Bool)
    (checked : ((turn (respond manner) (drive (respond manner) fuel (planning plan) e)).isNone &&
      check (drive (respond manner) fuel (planning plan) e)) = true) :
    ∃ q ∈ run manner plan e, check q = true := by
  rw [Bool.and_eq_true, Option.isNone_iff_eq_none] at checked
  exact ⟨_, Engine.mem_eval_turn.mpr ⟨⟨fuel, rfl⟩, checked.1⟩, checked.2⟩

/-! ## What becomes of a client -/

section

variable {manner : Nat → Manner} {u : Client} {s : Scheduler}

theorem announce_eq (notice : Notice) :
    (host manner).announce u s notice =
      { u with told := u.told ++ (s.observersOf notice.event).map fun id => (id, notice) } := by
  unfold Host.announce
  generalize s.observersOf notice.event = ids
  induction ids generalizing u with
  | nil => simp
  | cons id rest ih =>
    rw [List.foldl_cons, ih]
    simp [host, tell]

theorem announce_plan (notice : Notice) :
    ((host manner).announce u s notice).plan = u.plan := by
  rw [announce_eq]

theorem foldl_hear (result : RunResult) (faults : List Fault) (ids : List Nat) (u : Client) :
    ids.foldl (fun u id => (host manner).hear u id result faults) u =
      { u with heard := u.heard ++ ids.map fun id => ⟨id, result, faults⟩ } := by
  induction ids generalizing u with
  | nil => simp
  | cons id rest ih =>
    rw [List.foldl_cons, ih]
    simp [host, hear]

theorem close_eq {phase : Phase} (running : s.phase = .running) :
    (host manner).close u s phase =
      ({ (host manner).announce u (s.endCycle phase).1 (.programEnd ⟨phase, s.cycle, s.steps⟩) with
          heard := u.heard ++ s.callbacks.map fun id =>
            ⟨id, ⟨phase, s.cycle, s.steps⟩, (s.endCycle phase).1.faultsOf s.cycle⟩ },
        (s.endCycle phase).1) := by
  rw [Host.close_of_running running, foldl_hear, announce_eq]

theorem close_plan (phase : Phase) : ((host manner).close u s phase).1.plan = u.plan := by
  by_cases running : s.phase = .running
  · rw [close_eq running]
    exact announce_plan _
  · rw [Host.close, if_neg running]

theorem keeps_plan (plan : List Request) : (host manner).Keeps fun u _ => u.plan = plan where
  enter _ _ _ before := before
  report _ _ before := before
  draw _ before := before
  tell _ _ before := before

theorem beat_plan : ((host manner).beat u s).1.plan = u.plan := by
  by_cases ending : s.Ending
  · obtain ⟨phase, halts⟩ := ending
    rw [Host.beat_of_halt (Prod.ext rfl halts)]
    exact close_plan phase
  · exact Host.beat_keeps (keeps_plan u.plan) ending rfl

theorem resume_plan : ((host manner).resume ((host manner).beat u s)).foreign.plan = u.plan := by
  have beaten : ((host manner).beat u s).1.plan = u.plan := beat_plan
  rw [← beaten]
  obtain ⟨u', s', upshot⟩ := (host manner).beat u s
  cases upshot with
  | drawn =>
    rw [Host.resume]
    split <;> rfl
  | onward => rfl
  | ended => rfl
  | failed failure => exact close_plan _

theorem receive_plan {callback? : Option Nat} (batch : List Command) :
    ((host manner).receive u s batch callback?).foreign.plan = u.plan := by
  unfold Host.receive
  split
  · rfl
  · split
    · rfl
    · exact announce_plan _

theorem cue_plan {entries : List Value} {callback? : Option Nat} :
    ((host manner).cue u s entries callback?).foreign.plan = u.plan := by
  unfold Host.cue
  cases commands entries with
  | error failure => rfl
  | ok batch =>
    dsimp only
    split
    · exact (receive_plan batch).trans (close_plan _)
    · exact receive_plan batch

end

/-- Nothing is planned but to let timers go off. -/
def OnlyFires (u : Client) : Prop :=
  ∀ request ∈ u.plan, request = .fire

theorem fire_eq (u : Client) (s : Scheduler) :
    (Scene.fire u s).foreign = u ∧ (Scene.fire u s).sched.phase = s.phase := by
  unfold Scene.fire
  split
  · exact ⟨rfl, rfl⟩
  · split <;> exact ⟨rfl, rfl⟩

section

variable {manner : Nat → Manner} {scene next last : Scene Client}

theorem act_of_onlyFires {u : Client} {s : Scheduler} {signal : Signal} (fires : u.OnlyFires)
    (went : act manner u s signal = some next) :
    ∃ plan, u.plan = .fire :: plan ∧ next = .fire { u with plan := plan } s := by
  unfold act at went
  split at went
  · contradiction
  · rename_i request plan planned
    obtain rfl := fires request (planned ▸ List.mem_cons_self ..)
    exact ⟨plan, planned, (Option.some.inj went).symm⟩

theorem course_onlyFires (fires : scene.foreign.OnlyFires)
    (went : next ∈ (host manner).course (act manner) scene) : next.foreign.OnlyFires := by
  cases scene with
  | stepping u s =>
    obtain rfl := Option.some.inj went
    unfold OnlyFires
    rw [resume_plan]
    exact fires
  | outside u s signal =>
    have acted : act manner u s signal = some next := went
    obtain ⟨plan, planned, rfl⟩ := act_of_onlyFires fires acted
    rw [(fire_eq _ s).1]
    exact fun request member => fires request (planned ▸ List.mem_cons_of_mem _ member)

theorem reaches_onlyFires (fires : scene.foreign.OnlyFires)
    (reaches : Reaches ((host manner).course (act manner)) scene last) :
    last.foreign.OnlyFires := by
  induction reaches with
  | refl => exact fires
  | tail _ went ih => exact course_onlyFires ih went

end

/-- The run of a client that begins by cueing a batch takes the course from there. -/
theorem run_cue {manner : Nat → Manner} {entries : List Value} {callback? : Option Nat}
    {plan : List Request} {s : Scheduler} {signal : Signal} :
    run manner (.cue entries callback? :: plan) ⟨s, [.foreign .outside], signal⟩ =
      (eval ((host manner).course (act manner))
        ((host manner).cue (planning plan) s entries callback?)).map Scene.engine := by
  have begun : Reaches ((host manner).course (act manner))
      (.outside (planning (.cue entries callback? :: plan)) s signal)
      ((host manner).cue (planning plan) s entries callback?) := .single rfl
  rw [← reaches_eval begun]
  exact Host.eval_turn (respects manner) (.outside (planning _) s signal)

/-- Where a client has nothing left to do, it is outside. -/
theorem outside_of_ended {manner : Nat → Manner} {scene : Scene Client} {u : Client}
    {t : Scheduler} {tasks : List Task} {signal : Signal}
    (ended : (host manner).course (act manner) scene = none)
    (same : scene.engine = (u, ⟨t, tasks, signal⟩)) :
    scene = .outside u t signal ∧ u.plan = [] := by
  cases scene with
  | stepping => contradiction
  | outside v s other =>
    obtain ⟨rfl, here⟩ := Prod.mk.inj same
    obtain ⟨rfl, _, rfl⟩ := Engine.mk.inj here
    have rests : act manner v s other = none := ended
    exact ⟨rfl, act_eq_none_iff.mp rests⟩

end Client

end Turtle
