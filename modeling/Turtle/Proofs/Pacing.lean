import Turtle.Proofs.Recordable
import Turtle.Proofs.Tally

/-!
# Pacing

In a paced run a timer takes one step after another up to the next primitive, and asks for the next
timer then.  How many timers are pending is a matter of how many tasks have taken the running cycle
over: one without any, and one more with each.
-/

set_option autoImplicit false

namespace Turtle

structure Scheduler.Paced (s : Scheduler) : Prop where
  tidy : s.Tidy
  animate : s.settings.animate = true
  paced : s.phase = .running → s.paced = true
  timers_le : ∀ timer ∈ s.timers, timer.generation ≤ s.generation
  timers_lt : s.phase ≠ .running → ∀ timer ∈ s.timers, timer.generation < s.generation

namespace Scheduler

variable {s next : Scheduler}

theorem Change.paced (before : s.Paced) (change : s.Change next) : next.Paced := by
  have tidy := change.tidy before.tidy
  obtain ⟨_, animate, paced, timers_le, timers_lt⟩ := before
  cases change with
  | stop => exact ⟨tidy, animate, paced, timers_le, timers_lt⟩
  | attach event observer => exact ⟨tidy, animate, paced, timers_le, timers_lt⟩
  | define name params body => exact ⟨tidy, animate, paced, timers_le, timers_lt⟩
  | join batch callback? running => exact ⟨tidy, animate, paced, timers_le, timers_lt⟩
  | begin batch callback? rests clocked =>
    refine ⟨tidy, animate, fun _ => animate, ?_, fun other => absurd rfl other⟩
    exact fun timer member => Nat.le_succ_of_le (timers_le timer member)
  | close phase running ended =>
    obtain ⟨journal, frame⟩ := s.endCycle_frame phase
    rw [frame] at tidy ⊢
    refine ⟨tidy, animate, ?_, ?_, ?_⟩
    · rcases ended with rfl | rfl <;> exact Phase.noConfusion
    · exact fun timer member => Nat.le_succ_of_le (timers_le timer member)
    · exact fun _ timer member => Nat.lt_succ_of_le (timers_le timer member)
  | step =>
    obtain ⟨queue, stack, journal, steps, registry, frame⟩ := s.step_frame
    rw [frame] at tidy ⊢
    exact ⟨tidy, animate, paced, timers_le, timers_lt⟩
  | enter event at? stack? => exact ⟨tidy, animate, paced, timers_le, timers_lt⟩
  | draw call => exact ⟨tidy, animate, paced, timers_le, timers_lt⟩
  | file fault => exact ⟨tidy, animate, paced, timers_le, timers_lt⟩
  | arm _ waits =>
    refine ⟨tidy, animate, paced, ?_, fun rests => absurd (tidy.paced_running waits).1 rests⟩
    intro timer member
    rcases List.mem_append.mp member with earlier | latest
    · exact timers_le timer earlier
    · obtain rfl := List.mem_singleton.mp latest
      exact Nat.le_refl _
  | expire position =>
    refine ⟨tidy, animate, paced, ?_, ?_⟩
    · exact fun timer member => timers_le timer (List.mem_of_mem_eraseIdx member)
    · exact fun rests timer member => timers_lt rests timer (List.mem_of_mem_eraseIdx member)

theorem Paced.armed_of_rest (paced : s.Paced) (rests : s.phase ≠ .running) : s.armed = 0 := by
  rw [armed, List.countP_eq_zero]
  intro timer member
  have less := paced.timers_lt rests timer member
  simp only [decide_eq_true_eq]
  omega

theorem Paced.armed_begun (paced : s.Paced) (batch : List Command) (callback? : Option Nat) :
    (s.accept batch callback?).beginCycle.armed = 0 := by
  rw [armed, List.countP_eq_zero]
  intro timer member
  have bound := paced.timers_le timer member
  have later : timer.generation ≠ s.generation + 1 := by omega
  exact fun same => later (of_decide_eq_true same)

end Scheduler

namespace Plays

variable {rules : Rules} {start now : Engine} {past : List Moment}

/-! ## Turns -/

section Turns

open Engine

variable {s : Scheduler} {top : Task} {rest tasks : List Task} {signal : Signal} {turn : Turn}
  {next : Engine}

theorem undispatched_of_rest (e : Engine) (rests : e.sched.phase ≠ .running) :
    dispatches e.sched.cycle past ⟨e, turn, next⟩ = false := by
  have none : ∀ s : Scheduler, s.phase = e.sched.phase → s.dispatches = false := by
    intro s same
    rw [Scheduler.dispatches, Scheduler.step_of_rest (same ▸ rests)]
  rw [dispatches]
  cases stepping : e.stepping? turn with
  | none => simp
  | some s => simp [none s (e.stepping?_phase stepping)]

theorem advance_rest (e : Engine) (rests : e.sched.phase ≠ .running)
    (same : next.sched.phase = e.sched.phase) : Advance past ⟨e, turn, next⟩ :=
  .rest (fun running => rests (same.symm.trans running)) (undispatched_of_rest e rests)

/-- What a turn leaves above the tasks that it does not touch decides how the drivers advance. -/
theorem advance_keeps {drivers steps : Nat} (keeps : Keeps s rest drivers steps next)
    (running : s.phase = .running) (fine : failing ⟨s, top :: rest, signal⟩ = false)
    (drivers_eq : next.failing = true ∨
      drivers = (top.drives && cycleAt (rest.length + 2) past = s.cycle).toNat +
        ready ⟨s, top :: rest, signal⟩ +
        (takesOver s.cycle past ⟨⟨s, top :: rest, signal⟩, turn, next⟩).toNat)
    (steps_le : (dispatches s.cycle past ⟨⟨s, top :: rest, signal⟩, turn, next⟩).toNat + steps ≤
      (top.steps && cycleAt (rest.length + 2) past = s.cycle).toNat +
        ready ⟨s, top :: rest, signal⟩ +
        (takesOver s.cycle past ⟨⟨s, top :: rest, signal⟩, turn, next⟩).toNat +
        (spoils s.cycle past ⟨⟨s, top :: rest, signal⟩, turn, next⟩).toNat +
        (isOutside ⟨s, top :: rest, signal⟩).toNat) :
    Advance past ⟨⟨s, top :: rest, signal⟩, turn, next⟩ := by
  obtain ⟨phase_eq, cycle_eq, above, tasks_eq, adds, bound⟩ := keeps
  have counted : ∀ kind, tally kind next.sched.cycle
      (⟨⟨s, top :: rest, signal⟩, turn, next⟩ :: past) next.tasks =
        tally kind s.cycle past rest + above.countP kind := by
    intro kind
    rw [tasks_eq, ← cycle_eq]
    exact tally_moment (m := ⟨⟨s, top :: rest, signal⟩, turn, next⟩) rfl rfl
  refine .goOn running fine cycle_eq ?_ ?_
  · rcases adds with failing | adds
    · exact Or.inl failing
    · rcases drivers_eq with failing | drivers_eq
      · exact Or.inl failing
      · refine Or.inr ?_
        simp only [Plays.drivers, counted, tally]
        omega
  · simp only [steppers, counted, tally]
    omega

theorem advance_quiet (keeps : Keeps s rest 0 0 next) (undriven : top.drives = false)
    (still : ready ⟨s, top :: rest, signal⟩ = 0 ∧ failing ⟨s, top :: rest, signal⟩ = false ∧
      spoilt ⟨s, top :: rest, signal⟩ = false ∧ resumes ⟨s, top :: rest, signal⟩ = false)
    (unstepped : stepping? ⟨s, top :: rest, signal⟩ turn = none) :
    Advance past ⟨⟨s, top :: rest, signal⟩, turn, next⟩ := by
  obtain ⟨unready, fine, unspoilt, unresumed⟩ := still
  by_cases running : s.phase = .running
  · have undrawn : dispatches s.cycle past ⟨⟨s, top :: rest, signal⟩, turn, next⟩ = false := by
      simp [dispatches, unstepped]
    refine advance_keeps keeps running fine (Or.inr ?_) ?_
    · simp [takesOver, undriven, unready, unresumed]
    · rw [undrawn]
      exact Nat.zero_le _
  · exact advance_rest _ running keeps.phase_eq

/-- A task that drives a cycle goes on, in the cycle that is running now. -/
theorem advance_resumed {steps : Nat} (running : s.phase = .running)
    (keeps : Keeps s rest 1 steps next) (driving : top.drives = true)
    (still : ready ⟨s, top :: rest, signal⟩ = 0 ∧ failing ⟨s, top :: rest, signal⟩ = false)
    (resumed : resumes ⟨s, top :: rest, signal⟩ = true)
    (steps_le : (dispatches s.cycle past ⟨⟨s, top :: rest, signal⟩, turn, next⟩).toNat + steps ≤
      top.steps.toNat + (spoilt ⟨s, top :: rest, signal⟩).toNat) :
    Advance past ⟨⟨s, top :: rest, signal⟩, turn, next⟩ := by
  obtain ⟨unready, fine⟩ := still
  have running' : s.isRunning = true := decide_eq_true running
  have taken : takesOver s.cycle past ⟨⟨s, top :: rest, signal⟩, turn, next⟩ =
      decide (cycleAt (rest.length + 2) past ≠ s.cycle) := by
    simp [takesOver, running', resumed]
  have spoiled : spoils s.cycle past ⟨⟨s, top :: rest, signal⟩, turn, next⟩ =
      spoilt ⟨s, top :: rest, signal⟩ := by
    simp [spoils]
  refine advance_keeps keeps running fine (Or.inr ?_) ?_
  · rw [taken, driving, unready]
    by_cases here : cycleAt (rest.length + 2) past = s.cycle <;> simp [here]
  · rw [taken, spoiled, unready]
    refine Nat.le_trans steps_le ?_
    by_cases here : cycleAt (rest.length + 2) past = s.cycle <;> cases top.steps <;> simp [here]
    omega

theorem advance_unstepped {steps : Nat} (keeps : Keeps s rest 1 steps next)
    (driving : top.drives = true)
    (still : ready ⟨s, top :: rest, signal⟩ = 0 ∧ failing ⟨s, top :: rest, signal⟩ = false)
    (resumed : resumes ⟨s, top :: rest, signal⟩ = true)
    (unstepped : stepping? ⟨s, top :: rest, signal⟩ turn = none)
    (steps_le : steps ≤ top.steps.toNat + (spoilt ⟨s, top :: rest, signal⟩).toNat) :
    Advance past ⟨⟨s, top :: rest, signal⟩, turn, next⟩ := by
  by_cases running : s.phase = .running
  · have undrawn : dispatches s.cycle past ⟨⟨s, top :: rest, signal⟩, turn, next⟩ = false := by
      simp [dispatches, unstepped]
    refine advance_resumed running keeps driving still resumed ?_
    rw [undrawn, Bool.toNat_false, Nat.zero_add]
    exact steps_le
  · exact advance_rest _ running keeps.phase_eq

theorem advance_failing {failure : Failure}
    (fine : failing ⟨s, top :: .running :: tasks, signal⟩ = false)
    (unstepped : stepping? ⟨s, top :: .running :: tasks, signal⟩ turn = none) :
    Advance past ⟨⟨s, top :: .running :: tasks, signal⟩, turn,
      ⟨s, .running :: tasks, .raised failure⟩⟩ := by
  by_cases running : s.phase = .running
  · have keeps : Keeps s (.running :: tasks) 0 0 ⟨s, .running :: tasks, .raised failure⟩ :=
      ⟨rfl, rfl, [], rfl, Or.inl rfl, Nat.le_refl 0⟩
    refine advance_keeps keeps running fine (Or.inl rfl) ?_
    simp [dispatches, unstepped]
  · exact advance_rest _ running rfl

theorem advance_starting (tasks : List Task) :
    Advance past ⟨⟨s, .starting :: tasks, .returned⟩, .work, takeStep s (.running :: tasks)⟩ := by
  by_cases running : s.phase = .running
  · rcases takeStep_keeps running tasks with ⟨rests, undrawn⟩ | keeps
    · refine .rest rests ?_
      simpa [dispatches, stepping?] using undrawn
    · refine advance_resumed running keeps rfl ⟨rfl, rfl⟩ rfl ?_
      have drawn : dispatches s.cycle past ⟨⟨s, .starting :: tasks, .returned⟩, .work,
          takeStep s (.running :: tasks)⟩ = s.dispatches := by
        simp [dispatches, stepping?]
      rw [drawn]
      cases s.dispatches <;> exact Nat.le_refl 1
  · refine advance_rest _ running ?_
    rw [takeStep_of_rest running]

theorem advance_running (tasks : List Task) :
    Advance past
      ⟨⟨s, .running :: tasks, .answered true⟩, .work, takeStep s (.running :: tasks)⟩ := by
  by_cases running : s.phase = .running
  · rcases takeStep_keeps running tasks with ⟨rests, undrawn⟩ | keeps
    · refine .rest rests ?_
      simpa [dispatches, stepping?] using undrawn
    · have drawn : dispatches s.cycle past ⟨⟨s, .running :: tasks, .answered true⟩, .work,
          takeStep s (.running :: tasks)⟩ = s.dispatches := by
        simp [dispatches, stepping?]
      have untaken : takesOver s.cycle past ⟨⟨s, .running :: tasks, .answered true⟩, .work,
          takeStep s (.running :: tasks)⟩ = false := by
        simp [takesOver, resumes, spoilt]
      refine advance_keeps keeps running rfl (Or.inr ?_) ?_
      · rw [untaken]
        rfl
      · rw [drawn, untaken]
        cases s.dispatches <;> simp [Task.steps, ready] <;> omega
  · refine advance_rest _ running ?_
    rw [takeStep_of_rest running]

/-- A timer goes off, and its place is taken by the driver that it makes. -/
theorem advance_timer {position : Nat} {timer : Timer} (paced : s.Paced)
    (found : s.timers[position]? = some timer) (current : timer.generation = s.generation) :
    Advance past
      ⟨⟨s, [.foreign .outside], signal⟩, .move (.fire position),
        takeStep { s with timers := s.timers.eraseIdx position }
          [.running, .foreign .outside]⟩ := by
  have running : s.phase = .running := by
    apply Classical.byContradiction
    intro rests
    have less := paced.timers_lt rests timer (List.mem_of_getElem? found)
    omega
  have armed_eq := Scheduler.armed_erase found
  rw [if_pos current] at armed_eq
  have stepping : stepping? ⟨s, [.foreign .outside], signal⟩ (.move (.fire position)) =
      some { s with timers := s.timers.eraseIdx position } := by
    simp [stepping?, found, current]
  obtain ⟨unready, fine, _, unresumed⟩ := of_foreign s .outside [] signal
  generalize same : ({ s with timers := s.timers.eraseIdx position } : Scheduler) = left
    at armed_eq stepping
  have running' : left.phase = .running := by rw [← same]; exact running
  have cycle_eq : left.cycle = s.cycle := by rw [← same]
  rcases takeStep_keeps running' [.foreign .outside] with ⟨rests, undrawn⟩ | keeps
  · refine .rest rests ?_
    simpa [dispatches, stepping] using undrawn
  · have drawn : dispatches s.cycle past ⟨⟨s, [.foreign .outside], signal⟩,
        .move (.fire position), takeStep left [.running, .foreign .outside]⟩ =
          left.dispatches := by
      simp [dispatches, stepping]
    have keeps' : Keeps s [] 0 (1 - left.dispatches.toNat) _ :=
      keeps.foreign.transfer (running'.trans running.symm) cycle_eq armed_eq.symm
    have untaken : takesOver s.cycle past ⟨⟨s, [.foreign .outside], signal⟩,
        .move (.fire position), takeStep left [.running, .foreign .outside]⟩ = false := by
      simp [takesOver, unresumed]
    refine advance_keeps keeps' running fine (Or.inr ?_) ?_
    · rw [unready, untaken]
      rfl
    · rw [drawn, unready, untaken]
      have outside : isOutside ⟨s, [.foreign .outside], signal⟩ = true := rfl
      rw [outside]
      cases left.dispatches <;> simp

theorem advance_begun {begun : Scheduler}
    (played : Plays rules start past ⟨s, top :: rest, signal⟩) (rests : s.phase ≠ .running)
    (keeps : Keeps begun rest 1 1 next) (cycle_eq : begun.cycle = s.cycle + 1)
    (fine : next.failing = false) (unarmed : begun.armed = 0) :
    Advance past ⟨⟨s, top :: rest, signal⟩, turn, next⟩ := by
  obtain ⟨_, same, above, tasks_eq, adds, bound⟩ := keeps
  have later : s.cycle < next.sched.cycle := by omega
  have counted : ∀ kind, tally kind next.sched.cycle
      (⟨⟨s, top :: rest, signal⟩, turn, next⟩ :: past) next.tasks = above.countP kind := by
    intro kind
    have counted : tally kind next.sched.cycle
        (⟨⟨s, top :: rest, signal⟩, turn, next⟩ :: past) (above ++ rest) =
          tally kind next.sched.cycle past rest + above.countP kind := tally_moment rfl rfl
    rw [tasks_eq, counted, tally_unbegun played later, Nat.zero_add]
  refine .begun rests (same.trans cycle_eq) ?_ ?_ (undispatched_of_rest _ rests)
  · rcases adds with failing | adds
    · rw [fine] at failing
      contradiction
    · simp only [drivers, counted]
      omega
  · simp only [steppers, counted]
    exact bound

/-- A batch that is taken in begins a cycle with one driver, or leaves the running one as it is. -/
theorem advance_receive {site : Site} {below : List Task}
    (played : Plays rules start past ⟨s, top :: rest, signal⟩) (paced : s.Paced)
    (above : List Task) (split : .foreign site :: below = above ++ rest)
    (others : above.countP Task.drives = 0 ∧ above.countP Task.steps = 0)
    (undriven : top.drives = false)
    (still : ready ⟨s, top :: rest, signal⟩ = 0 ∧ failing ⟨s, top :: rest, signal⟩ = false ∧
      spoilt ⟨s, top :: rest, signal⟩ = false ∧ resumes ⟨s, top :: rest, signal⟩ = false)
    (unstepped : stepping? ⟨s, top :: rest, signal⟩ turn = none) (batch : List Command)
    (callback? : Option Nat) :
    Advance past ⟨⟨s, top :: rest, signal⟩, turn,
      receive s batch callback? (.foreign site :: below)⟩ := by
  unfold receive
  split
  · refine advance_quiet ⟨rfl, rfl, above, split, Or.inr ?_, ?_⟩ undriven still unstepped
    · rw [others.1]
      rfl
    · rw [others.2]
      exact Nat.le_refl _
  · rename_i rests
    split
    · exact advance_rest _ rests rfl
    · have keeps : Keeps (s.accept batch callback?).beginCycle rest _ _
          (announce (s.accept batch callback?).beginCycle .programStart
            (.starting :: above ++ rest)) := announce_keeps (.starting :: above) .programStart
      rw [List.cons_append, ← split, List.countP_cons_of_pos rfl, List.countP_cons_of_pos rfl,
        others.1, others.2] at keeps
      exact advance_begun played rests keeps rfl (announce_fine _ _)
        (paced.armed_begun batch callback?)

/-- What a turn does to the drivers. -/
theorem advance_acts {e : Engine} (played : Plays .clocked start past e)
    (shaped : e.Shaped .clocked) (sheltered : e.Sheltered) (paced : e.sched.Paced)
    (acts : Acts .clocked e turn next) : Advance past ⟨e, turn, next⟩ := by
  cases acts with
  | receive s batch callback? tasks =>
    obtain ⟨stacked, _⟩ := shaped
    cases stacked with
    | on upper below =>
      cases upper with
      | cueing _ _ site =>
        exact advance_receive played paced [] rfl ⟨rfl, rfl⟩ rfl ⟨rfl, rfl, rfl, rfl⟩ rfl batch
          callback?
  | start s tasks => exact advance_starting tasks
  | goOn s tasks => exact advance_running tasks
  | leaveOff s tasks =>
    exact advance_quiet ⟨rfl, rfl, [], rfl, Or.inr rfl, Nat.le_refl 0⟩ rfl ⟨rfl, rfl, rfl, rfl⟩ rfl
  | cancel s failure tasks =>
    exact .rest (halt_rests s Phase.noConfusion _) (by simp [dispatches, stepping?])
  | rethrow s failure tasks =>
    obtain ⟨stacked, _⟩ := shaped
    cases stacked with
    | on upper below =>
      cases upper
      exact advance_quiet ⟨rfl, rfl, [], rfl, Or.inr rfl, Nat.le_refl 0⟩ rfl ⟨rfl, rfl, rfl, rfl⟩
        rfl
  | tell s notice rest tasks =>
    exact advance_quiet (tell_keeps [] notice rest) rfl ⟨rfl, rfl, rfl, rfl⟩ rfl
  | complain s notice rest failure tasks =>
    exact advance_quiet (report_keeps [] _) rfl ⟨rfl, rfl, rfl, rfl⟩ rfl
  | tellFault s fault rest tasks =>
    exact advance_quiet (tellFault_keeps [] fault rest) rfl ⟨rfl, rfl, rfl, rfl⟩ rfl
  | giveUp s fault rest failure tasks =>
    exact advance_quiet ⟨rfl, rfl, [], rfl, Or.inr rfl, Nat.le_refl 0⟩ rfl ⟨rfl, rfl, rfl, rfl⟩ rfl
  | paint s leaf primitive rest tasks =>
    obtain ⟨stacked, _⟩ := shaped
    cases stacked with
    | @on _ lower tasks upper below =>
      cases upper with
      | painting _ _ _ drives =>
        cases drives with
        | foreign allowed => simp [Rules.clocked] at allowed
        | running =>
          have keeps : Keeps s (.running :: tasks) 1 0
              (Engine.paint s leaf primitive (.running :: tasks) rest) :=
            paint_keeps [] leaf primitive rest (Or.inl ⟨tasks, rfl⟩)
          exact advance_unstepped keeps rfl ⟨rfl, rfl⟩ rfl rfl (Nat.zero_le _)
  | spoil s leaf primitive rest fault tasks =>
    have keeps : Keeps s tasks 1 1 (report s fault (.stepped true :: tasks)) :=
      report_keeps [.stepped true] fault
    exact advance_unstepped keeps rfl ⟨rfl, rfl⟩ rfl rfl (Nat.le_refl 1)
  | pause s tasks =>
    by_cases running : s.phase = .running
    · have keeps : Keeps s tasks 1 0 (Engine.pause s tasks) :=
        pause_keeps paced.animate (paced.paced running)
      exact advance_unstepped keeps rfl ⟨rfl, rfl⟩ rfl rfl (Nat.zero_le _)
    · refine advance_rest _ running ?_
      unfold Engine.pause
      split <;> rfl
  | settle s result rest tasks =>
    exact advance_quiet (settle_keeps result rest) rfl ⟨rfl, rfl, rfl, rfl⟩ rfl
  | answer s more tasks =>
    obtain ⟨stacked, _⟩ := shaped
    cases stacked with
    | @on _ lower tasks upper below =>
      cases upper with
      | stepped _ drives =>
        cases drives with
        | foreign allowed => simp [Rules.clocked] at allowed
        | running =>
          cases more with
          | false =>
            exact advance_quiet ⟨rfl, rfl, [], rfl, Or.inr rfl, Nat.le_refl 0⟩ rfl
              ⟨rfl, rfl, rfl, rfl⟩ rfl
          | true =>
            have keeps : Keeps s (.running :: tasks) 1 1
                ⟨s, .running :: tasks, .answered true⟩ :=
              ⟨rfl, rfl, [], rfl, Or.inr rfl, Nat.le_refl 1⟩
            exact advance_unstepped keeps rfl ⟨rfl, rfl⟩ rfl rfl (Nat.le_refl 1)
  | pass s task failure tasks passes =>
    have keeps : Keeps s tasks 0 0 ⟨s, tasks, .raised failure⟩ :=
      ⟨rfl, rfl, [], rfl, Or.inr rfl, Nat.le_refl 0⟩
    cases passes with
    | cueing => exact advance_quiet keeps rfl ⟨rfl, rfl, rfl, rfl⟩ rfl
    | starting => exact absurd (sheltered .starting tasks failure rfl rfl) (by decide)
    | rethrow => exact advance_quiet keeps rfl ⟨rfl, rfl, rfl, rfl⟩ rfl
    | pausing => exact absurd (sheltered .pausing tasks failure rfl rfl) (by decide)
    | settling => exact advance_quiet keeps rfl ⟨rfl, rfl, rfl, rfl⟩ rfl
    | stepped more =>
      cases more with
      | true => exact absurd (sheltered (.stepped true) tasks failure rfl rfl) (by decide)
      | false => exact advance_quiet keeps rfl ⟨rfl, rfl, rfl, rfl⟩ rfl
    | painting leaf primitive rest other =>
      -- The driver is gone, but then so is the cycle: the failure comes to the loop of steps.
      obtain ⟨stacked, _⟩ := shaped
      cases stacked with
      | on upper below =>
        cases upper with
        | painting _ _ _ drives =>
          cases drives with
          | foreign allowed => simp [Rules.clocked] at allowed
          | running => exact advance_failing rfl rfl
  | refuse s site tasks signal entries callback? failure =>
    exact advance_quiet ⟨rfl, rfl, [.foreign site], rfl, Or.inr rfl, Nat.le_refl 0⟩ rfl
      (of_foreign s site tasks signal) rfl
  | supersede s site tasks signal entries callback? batch =>
    exact .rest (halt_rests s Phase.noConfusion _) (by simp [dispatches, stepping?])
  | cue s site tasks signal entries callback? batch =>
    exact advance_receive played paced [.foreign site] rfl ⟨rfl, rfl⟩ rfl
      (of_foreign s site tasks signal) rfl batch callback?
  | stop s site tasks signal =>
    exact advance_quiet ⟨rfl, rfl, [.foreign site], rfl, Or.inr rfl, Nat.le_refl 0⟩ rfl
      (of_foreign s site tasks signal) rfl
  | step s site tasks signal allowed => simp [Rules.clocked] at allowed
  | idle s site tasks signal position allowed missing =>
    exact advance_quiet ⟨rfl, rfl, [.foreign site], rfl, Or.inr rfl, Nat.le_refl 0⟩ rfl
      (of_foreign s site tasks signal) (by simp [stepping?, missing])
  | expire s site tasks signal position timer allowed found stale =>
    have armed_eq := Scheduler.armed_erase found
    rw [if_neg stale] at armed_eq
    exact advance_quiet ⟨rfl, rfl, [.foreign site], rfl, Or.inr armed_eq.symm, Nat.le_refl 0⟩ rfl
      (of_foreign s site tasks signal) (by simp [stepping?, found, stale])
  | resume s site tasks signal position timer allowed found current =>
    cases site with
    | outside =>
      obtain ⟨stacked, _⟩ := shaped
      cases stacked with
      | outside => exact advance_timer paced found current
      | on upper => cases upper
    | _ => simp [Rules.clocked] at allowed
  | attach s site tasks signal =>
    exact advance_quiet ⟨rfl, rfl, [.foreign site], rfl, Or.inr rfl, Nat.le_refl 0⟩ rfl
      (of_foreign s site tasks signal) rfl
  | define s site tasks signal =>
    exact advance_quiet ⟨rfl, rfl, [.foreign site], rfl, Or.inr rfl, Nat.le_refl 0⟩ rfl
      (of_foreign s site tasks signal) rfl
  | finish s site tasks signal =>
    exact advance_quiet ⟨rfl, rfl, [], rfl, Or.inr rfl, Nat.le_refl 0⟩ rfl
      (of_foreign s site tasks signal) rfl
  | raise s site tasks signal failure inside =>
    exact advance_quiet ⟨rfl, rfl, [], rfl, Or.inr rfl, Nat.le_refl 0⟩ rfl
      (of_foreign s site tasks signal) rfl

end Turns

/-! ## Plays -/

variable {settings : Settings} {journal : Journal StepEvent} {registry : Registry}

theorem paced (animated : settings.animate = true)
    (played : Plays rules (.atRest (.fresh settings journal registry)) past now) :
    now.sched.Paced := by
  have initially : (Scheduler.fresh settings journal registry).Paced := {
    tidy := Scheduler.tidy_fresh settings journal registry
    animate := animated
    paced := fun running => absurd running Phase.noConfusion
    timers_le := fun timer member => absurd member List.not_mem_nil
    timers_lt := fun _ timer member => absurd member List.not_mem_nil }
  exact played.preserves_sched (fun _ _ before change => change.paced before) initially

theorem driven (animated : settings.animate = true)
    (played : Plays .clocked (.atRest (.fresh settings journal registry)) past now) :
    Driven past now := by
  refine played.by_acts Driven ?_ ?_
  · refine ⟨fun running => absurd running Phase.noConfusion, fun cycle => ?_⟩
    have none : stepsLeft cycle [] (.atRest (.fresh settings journal registry)) = 0 :=
      if_neg fun both => absurd both.1 Phase.noConfusion
    rw [none]
    exact Nat.zero_le _
  · intro past e turn next earlier shaped acts before
    have sheltered := earlier.sheltered fun site => by cases site <;> rfl
    exact before.advance earlier
      (advance_acts earlier shaped sheltered (earlier.paced animated) acts)

/-- While code outside of everything has control, a running cycle has one pending timer and one more
for each task that has taken it over, and so it has no two of them if and only if none has.  Between
two moves of that code, the steps of a cycle dispatch one primitive, and no more than one more for
each task that takes the cycle over and each primitive that is spoilt by a fault. -/
theorem armed_le_one_iff (animated : settings.animate = true)
    (played : Plays .clocked (.atRest (.fresh settings journal registry)) past now) :
    (now.Outside →
      (now.sched.phase = .running →
        now.sched.armed = 1 + ever (takesOver now.sched.cycle) past) ∧
      (now.sched.armed ≤ 1 ↔
        (now.sched.phase = .running → ever (takesOver now.sched.cycle) past = 0))) ∧
      ∀ cycle, lately (dispatches cycle) past ≤
        1 + lately (takesOver cycle) past + lately (spoils cycle) past := by
  have counted := played.driven animated
  constructor
  · intro outside
    have same : now.sched.phase = .running →
        now.sched.armed = 1 + ever (takesOver now.sched.cycle) past := by
      intro running
      obtain ⟨s, tasks, signal⟩ := now
      obtain rfl : tasks = [.foreign .outside] := outside
      obtain ⟨unready, fine, _, _⟩ := Engine.of_foreign s .outside [] signal
      rw [← counted.drivers_eq running fine, drivers, unready]
      rfl
    refine ⟨same, fun few running => ?_, fun none => ?_⟩
    · have exactly := same running
      omega
    · by_cases running : now.sched.phase = .running
      · exact Nat.le_of_eq (by rw [same running, none running])
      · rw [(played.paced animated).armed_of_rest running]
        exact Nat.zero_le 1
  · intro cycle
    have bound := counted.lately_le cycle
    omega

def pacedStart : Scheduler :=
  .fresh ⟨true, 0.04, true, false⟩ (.empty 10) .empty

/-- A cycle that lifts the pen twice is begun, and someone who watches the starts of cycles is
told. -/
def liftingTurns : List Turn :=
  [.move (.attach .programStart 0),
    .move (.cue (List.replicate 2 (.command (.leaf "pu" [] none))) none)]

theorem lifting_armed :
    ∃ past now, Plays .clocked (.atRest pacedStart) past now ∧ now.Outside ∧
      now.sched.phase = .running ∧ now.sched.armed = 1 ∧ now.sched.armed ≤ 1 ∧
      lately (dispatches 1) past = 1 ∧
      lately (dispatches 1) past ≤
        1 + lately (takesOver 1) past + lately (spoils 1) past := by
  obtain ⟨past, now, played, facts⟩ := exists_of_play? .clocked (.atRest pacedStart)
    (liftingTurns ++
      [.move .finish, .work, .work, .work, .move .finish, .work, .work, .work])
    (fun past now => decide (now.Outside ∧ now.sched.phase = .running ∧ now.sched.armed = 1 ∧
      ever (takesOver now.sched.cycle) past = 0 ∧ lately (dispatches 1) past = 1))
    (by decide)
  obtain ⟨outside, running, one, untaken, dispatched⟩ := of_decide_eq_true facts
  obtain ⟨timers, steps⟩ := armed_le_one_iff rfl played
  have few := (timers outside).2.mpr fun _ => untaken
  exact ⟨past, now, played, outside, running, one, few, dispatched, steps 1⟩

/-- If that one stops the cycle, and begins another one, then the other one dispatches two
primitives at once, and two timers are left that go on with it. -/
theorem lifting_armed_twice :
    ∃ past now, Plays .clocked (.atRest pacedStart) past now ∧ now.Outside ∧
      now.sched.phase = .running ∧ now.sched.armed = 2 ∧ lately (dispatches 2) past = 2 ∧
      lately (spoils 2) past = 0 := by
  obtain ⟨past, now, played, facts⟩ := exists_of_play? .clocked (.atRest pacedStart)
    (liftingTurns ++
      [.move .stop, .move (.cue (List.replicate 2 (.command (.leaf "pu" [] none))) none), .work,
        .work, .move .finish, .work, .work, .work, .move .finish, .work, .work, .work,
        .move .finish, .work, .work, .work, .move .finish, .work, .work, .work])
    (fun past now => decide (now.Outside ∧ now.sched.phase = .running ∧ now.sched.armed = 2 ∧
      lately (dispatches 2) past = 2 ∧ lately (spoils 2) past = 0))
    (by decide)
  exact ⟨past, now, played, of_decide_eq_true facts⟩

end Plays

end Turtle
