import Mathlib.Data.List.InsertIdx
import Turtle.Proofs.Pacing
import Turtle.Proofs.Traffic

/-!
# Generations

A cycle takes up two generations, one when it begins and one when it halts, and a timer keeps the
generation that it was asked for in.  So a timer belongs to the running cycle just if no cycle has
ended since it was asked for.  When any other one goes off nothing happens.
-/

set_option autoImplicit false

namespace Turtle

namespace Scheduler

/-- The generations count the beginnings and the ends of cycles. -/
def Numbered (s : Scheduler) : Prop :=
  s.generation + s.isRunning.toNat = 2 * s.cycle

theorem isRunning_of_running {s : Scheduler} (running : s.phase = .running) :
    s.isRunning = true :=
  decide_eq_true running

theorem isRunning_of_rest {s : Scheduler} (rests : s.phase ≠ .running) : s.isRunning = false :=
  decide_eq_false rests

theorem Change.numbered {s next : Scheduler} (before : s.Numbered) (change : s.Change next) :
    next.Numbered := by
  cases change with
  | begin batch callback? rests =>
    have counted : s.generation + s.isRunning.toNat = 2 * s.cycle := before
    rw [isRunning_of_rest rests, Bool.toNat_false] at counted
    show s.generation + 1 + 1 = 2 * (s.cycle + 1)
    omega
  | close phase running ended =>
    have counted : s.generation + s.isRunning.toNat = 2 * s.cycle := before
    rw [isRunning_of_running running, Bool.toNat_true] at counted
    have rests : (s.endCycle phase).1.phase ≠ .running := by
      rcases ended with rfl | rfl
      · exact Phase.noConfusion
      · exact Phase.noConfusion
    rw [Numbered, isRunning_of_rest rests]
    exact counted
  | step =>
    obtain ⟨queue, stack, journal, steps, registry, frame⟩ := s.step_frame
    rw [frame]
    exact before
  | _ => exact before

/-- Two schedulers are at the same step of the same cycle, and the same timers are pending. -/
structure SameStep (s t : Scheduler) : Prop where
  cycle_eq : t.cycle = s.cycle
  steps_eq : t.steps = s.steps
  timers_eq : t.timers = s.timers

theorem Noted.sameStep {s t : Scheduler} (noted : Noted s t) : SameStep s t := by
  obtain ⟨journal, reports, calls, rfl⟩ := noted
  exact ⟨rfl, rfl, rfl⟩

end Scheduler

namespace Engine

open Scheduler

/-- What a turn does to the timers that are pending. -/
inductive Clocks (e : Engine) (turn : Turn) (next : Engine) : Prop where
  | keep (unfired : ∀ position, turn ≠ .move (.fire position))
    (same : next.sched.timers = e.sched.timers) : Clocks e turn next
  | arm (worked : turn = .work) (paced : e.sched.paced = true) (armed : next.sched = e.sched.arm) :
    Clocks e turn next
  | fire (position : Nat) (fired : turn = .move (.fire position))
    (same : next.sched.timers = e.sched.timers.eraseIdx position) : Clocks e turn next

variable {rules : Rules} {e next : Engine} {turn : Turn} {s : Scheduler} {tasks : List Task}

theorem halt_sameStep (phase : Phase) : SameStep s (halt s phase tasks).sched := by
  by_cases running : s.phase = .running
  · rw [halt_of_running running, announce_sched]
    exact ⟨rfl, rfl, rfl⟩
  · rw [halt_of_rest running]
    exact ⟨rfl, rfl, rfl⟩

theorem takeStep_sameStep : SameStep s.step.1 (takeStep s tasks).sched := by
  rcases takeStep_noted s tasks with noted | ⟨after, phase, stepped, halts⟩
  · exact noted.sameStep
  · rw [halts, stepped]
    exact halt_sameStep phase

theorem takeStep_timers : (takeStep s tasks).sched.timers = s.timers := by
  rw [takeStep_sameStep.timers_eq]
  obtain ⟨queue, stack, journal, steps, registry, frame⟩ := s.step_frame
  rw [frame]

theorem receive_timers (batch : List Command) (callback? : Option Nat) :
    (receive s batch callback? tasks).sched.timers = s.timers := by
  unfold receive
  split
  · rfl
  · split
    · rfl
    · rw [announce_sched]
      rfl

theorem Acts.clocks (acts : Acts rules e turn next) : Clocks e turn next := by
  cases acts with
  | receive => exact .keep (by simp) (receive_timers _ _)
  | start => exact .keep (by simp) takeStep_timers
  | goOn => exact .keep (by simp) takeStep_timers
  | cancel => exact .keep (by simp) (halt_sameStep _).timers_eq
  | tell => exact .keep (by simp) (congrArg Scheduler.timers (tell_sched _ _ _ _))
  | complain => exact .keep (by simp) (report_noted _ _ _).sameStep.timers_eq
  | tellFault => exact .keep (by simp) (congrArg Scheduler.timers (tellFault_sched _ _ _ _))
  | paint => exact .keep (by simp) (paint_noted _ _ _ _ _).sameStep.timers_eq
  | spoil => exact .keep (by simp) (report_noted _ _ _).sameStep.timers_eq
  | pause s tasks =>
    by_cases waits : (s.settings.animate && s.paced) = true
    · rw [Engine.pause, if_pos waits]
      exact .arm rfl (Bool.and_eq_true_iff.mp waits).2 rfl
    · rw [Engine.pause, if_neg waits]
      exact .keep (by simp) rfl
  | settle => exact .keep (by simp) (congrArg Scheduler.timers (settle_sched _ _ _ _))
  | supersede => exact .keep (by simp) (halt_sameStep _).timers_eq
  | cue => exact .keep (by simp) (receive_timers _ _)
  | step => exact .keep (by simp) takeStep_timers
  | idle s site tasks signal position allowed missing =>
    refine .fire position rfl ?_
    exact (List.eraseIdx_of_length_le (List.getElem?_eq_none_iff.mp missing)).symm
  | expire s site tasks signal position => exact .fire position rfl rfl
  | resume s site tasks signal position => exact .fire position rfl takeStep_timers
  | _ => exact .keep (by simp) rfl

end Engine

namespace Plays

open Engine

/-- For each timer that is pending, how many cycles had ended when it was asked for. -/
def asked : List Moment → List Nat
  | [] => []
  | m :: past =>
    match m.turn with
    | .move (.fire position) => (asked past).eraseIdx position
    | _ =>
      asked past ++ List.replicate (m.after.sched.timers.length - m.before.sched.timers.length)
        (results past).length

variable {rules : Rules} {settings : Settings} {journal : Journal StepEvent}
  {registry : Registry} {past : List Moment} {now e next : Engine} {turn : Turn} {position : Nat}

theorem asked_of_unfired {m : Moment} (unfired : ∀ position, m.turn ≠ .move (.fire position)) :
    asked (m :: past) = asked past ++
      List.replicate (m.after.sched.timers.length - m.before.sched.timers.length)
        (results past).length := by
  rw [asked]
  split
  · rename_i position fired
    exact absurd fired (unfired position)
  · rfl

theorem numbered (played : Plays rules (.atRest (.fresh settings journal registry)) past now) :
    now.sched.Numbered := by
  have initially : (Scheduler.fresh settings journal registry).Numbered := rfl
  exact played.preserves_sched (fun _ _ before change => change.numbered before) initially

/-- The cycles that have begun are those that have ended, and the one that is running. -/
theorem results_length
    (played : Plays rules (.atRest (.fresh settings journal registry)) past now) :
    (results past).length + now.sched.isRunning.toNat = now.sched.cycle := by
  refine played.by_acts
    (fun past now => (results past).length + now.sched.isRunning.toNat = now.sched.cycle) rfl ?_
  intro past e turn next _ _ acts before
  cases shifts_of_traffic acts.traffic with
  | stays phase_eq cycle_eq =>
    rw [results_cons_none (unended_of_phase turn phase_eq), Scheduler.isRunning, phase_eq, cycle_eq]
    exact before
  | begins batch asked rests running cycle_eq =>
    dsimp only at cycle_eq
    rw [Scheduler.isRunning_of_rest rests, Bool.toNat_false] at before
    rw [results_cons_none (unended_of_rest turn next rests), Scheduler.isRunning_of_running running,
      Bool.toNat_true, cycle_eq]
    omega
  | halts running ended cycle_eq =>
    have rests := rests_of_ended ended
    rw [Scheduler.isRunning_of_running running, Bool.toNat_true] at before
    rw [results_cons_some (ended_of_rest turn running rests), Scheduler.isRunning_of_rest rests,
      Bool.toNat_false, cycle_eq, List.length_cons]
    omega

theorem asked_generation
    (played : Plays rules (.atRest (.fresh settings journal registry)) past now) :
    now.sched.timers.map Timer.generation = (asked past).map fun ended => 2 * ended + 1 := by
  refine played.by_acts (fun past now =>
    now.sched.timers.map Timer.generation = (asked past).map fun ended => 2 * ended + 1) rfl ?_
  intro past e turn next earlier _ acts before
  cases acts.clocks with
  | keep unfired same =>
    rw [asked_of_unfired unfired]
    simp [same, before]
  | arm worked paced armed =>
    have running : e.sched.phase = .running := (earlier.tidy.paced_running paced).1
    have count := earlier.results_length
    have numbered : e.sched.generation + e.sched.isRunning.toNat = 2 * e.sched.cycle :=
      earlier.numbered
    rw [Scheduler.isRunning_of_running running, Bool.toNat_true] at count numbered
    have unfired : ∀ position, turn ≠ .move (.fire position) := by
      rw [worked]
      simp
    rw [asked_of_unfired unfired]
    simp [armed, Scheduler.arm, before]
    omega
  | fire position fired same =>
    subst fired
    rw [same, ← List.eraseIdx_map, before, List.eraseIdx_map]
    rfl

theorem exists_timer (played : Plays rules (.atRest (.fresh settings journal registry)) past now)
    {ended : Nat} (pending : (asked past)[position]? = some ended) :
    ∃ timer, now.sched.timers[position]? = some timer ∧ timer.generation = 2 * ended + 1 := by
  have same := congrArg (fun generations => generations[position]?) played.asked_generation
  simp only [List.getElem?_map, pending, Option.map_some, Option.map_eq_some_iff] at same
  exact same

/-- A timer is up to date just if a cycle is running and none has ended since it was asked for. -/
theorem current_iff (played : Plays rules (.atRest (.fresh settings journal registry)) past now)
    {timer : Timer} {ended : Nat} (stamped : timer.generation = 2 * ended + 1) :
    timer.generation = now.sched.generation ↔
      now.sched.phase = .running ∧ ended = (results past).length := by
  have count := played.results_length
  have numbered : now.sched.generation + now.sched.isRunning.toNat = 2 * now.sched.cycle :=
    played.numbered
  by_cases running : now.sched.phase = .running
  · rw [Scheduler.isRunning_of_running running, Bool.toNat_true] at count numbered
    simp only [running, true_and]
    omega
  · rw [Scheduler.isRunning_of_rest running, Bool.toNat_false] at count numbered
    simp only [running, false_and, iff_false]
    omega

/-- When a timer goes off that was asked for before the last end of a cycle, nothing happens but
that it is not pending any more; no matter how many cycles have begun and ended since. -/
theorem outdated_inert
    (played : Plays rules (.atRest (.fresh settings journal registry)) past now) :
    (asked past).length = now.sched.timers.length ∧
      ∀ position ended next, (asked past)[position]? = some ended →
        ended < (results past).length →
          now.turn? rules (.move (.fire position)) = some next →
            next = ⟨{ now.sched with timers := now.sched.timers.eraseIdx position }, now.tasks,
              .returned⟩ := by
  constructor
  · have lengths := congrArg List.length played.asked_generation
    simpa using lengths.symm
  · intro position ended next pending outdated fired
    obtain ⟨timer, found, stamped⟩ := played.exists_timer pending
    have stale : timer.generation ≠ now.sched.generation := by
      intro current
      have last := ((played.current_iff stamped).mp current).2
      omega
    cases turn?_acts played.shaped fired with
    | idle _ _ _ _ _ _ missing =>
      rw [missing] at found
      contradiction
    | expire => rfl
    | resume s site tasks signal position other _ found' current =>
      rw [found'] at found
      obtain rfl := Option.some.inj found
      exact absurd current stale

def cueTurn : Turn :=
  .move (.cue [.command (.leaf "pu" [] none)] none)

/-- The first primitive of a cycle is drawn, and its step ends with a pause. -/
def pauseTurns : List Turn :=
  [.work, .work, .move .finish, .work, .work, .work]

/-- Two cycles have ended and a third one waits for its timer, while the timer of the first one is
still pending. -/
theorem lifting_outdated :
    ∃ past now next, Plays .clocked (.atRest pacedStart) past now ∧ now.Outside ∧
      now.sched.phase = .running ∧ now.sched.timers.length = 2 ∧ asked past = [0, 2] ∧
      (results past).length = 2 ∧ now.turn? .clocked (.move (.fire 0)) = some next ∧
      next = ⟨{ now.sched with timers := now.sched.timers.eraseIdx 0 }, now.tasks, .returned⟩ := by
  obtain ⟨past, now, played, facts⟩ := exists_of_play? .clocked (.atRest pacedStart)
    (cueTurn :: pauseTurns ++ [.move .stop, cueTurn, .work, .work] ++ pauseTurns ++
      [.move (.fire 1), .work, .work, .work, cueTurn] ++ pauseTurns)
    (fun past now => decide (now.Outside ∧ now.sched.phase = .running ∧ asked past = [0, 2] ∧
      (results past).length = 2 ∧
      (now.turn? .clocked (.move (.fire 0))).isSome = true))
    (by decide)
  obtain ⟨outside, running, stamps, two, fires⟩ := of_decide_eq_true facts
  obtain ⟨next, fired⟩ := Option.isSome_iff_exists.mp fires
  obtain ⟨pending, inert⟩ := outdated_inert played
  have first : (asked past)[0]? = some 0 := by rw [stamps]; rfl
  have outdated : 0 < (results past).length := by omega
  rw [stamps] at pending
  exact ⟨past, now, next, played, outside, running, pending.symm, stamps, two, fired,
    inert 0 0 next first outdated fired⟩

end Plays

end Turtle
