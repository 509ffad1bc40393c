import Turtle.Proofs.Completion

/-!
# Attribution

Which cycle a reported fault is charged to.  A fault is found out on behalf of some cycle, but it is
put among the faults of whatever cycle is current then.  So the faults of a cycle are its own if and
only if no cycle begins between what a fault is found out about and its report.
-/

set_option autoImplicit false

namespace Turtle

/-- A fault as it is reported, with its number, if it can be. -/
def Scheduler.reported? (s : Scheduler) (fault : Fault) : Option Fault :=
  (s.report fault).toOption.map Prod.snd

theorem Scheduler.reported?_of_snapshot {s : Scheduler} {stack? : Option (List String)}
    (recorded : s.snapshot = .ok stack?) (fault : Fault) :
    s.reported? fault = some { fault with step? := some s.journal.next } := by
  rw [reported?, report, recorded]
  rfl

theorem Scheduler.reported?_of_unrecordable {s : Scheduler} (unrecordable : ¬s.Recordable)
    (fault : Fault) : s.reported? fault = none := by
  rw [reported?, report, snapshot_of_unrecordable unrecordable]
  rfl

/-- The fault that a step reports, with its number. -/
def Scheduler.stepFault? (s : Scheduler) : Option Fault :=
  match s.step with
  | (next, .report fault) => next.reported? fault
  | _ => none

namespace Engine

/-- The fault that a task makes of a failure above it. -/
def faultOf? (e : Engine) (failure : Failure) : Option Fault :=
  match e.tasks, failure with
  | .announcing notice _ :: _, failure =>
    e.sched.reported? (observerFault e.sched notice.event failure)
  | .reporting fault _ :: _, failure => some (secondaryFault fault failure)
  | .painting _ _ _ :: _, .fault fault => e.sched.reported? fault
  | _, _ => none

end Engine

namespace Moment

def fault? (m : Moment) : Option Fault :=
  match m.turn, m.before.signal with
  | .work, .raised failure => m.before.faultOf? failure
  | turn, _ => (m.before.stepping? turn).bind Scheduler.stepFault?

end Moment

structure Filing where
  /-- The cycle that the report was made for. -/
  owner : Nat
  /-- The cycle that was current when it was made. -/
  cycle : Nat
  /-- A callback of the current cycle had been called before. -/
  late : Bool
  fault : Fault

namespace Plays

/-- The cycle that a fault of the present moment belongs to: observers are told and primitives are
drawn for the cycle that was current when that was begun, and a step is one of the current cycle. -/
def owner (past : List Moment) (e : Engine) : Nat :=
  match e.tasks with
  | .announcing _ _ :: _ | .reporting _ _ :: _ | .painting _ _ _ :: _ =>
    cycleAt e.tasks.length past
  | _ => e.sched.cycle

/-- The reports of a play, newest first. -/
def filings : List Moment → List Filing
  | [] => []
  | m :: past =>
    match m.fault? with
    | some fault =>
      ⟨owner past m.before, m.before.sched.cycle,
        (calls past).any fun call => call.2.cycle = m.before.sched.cycle, fault⟩ :: filings past
    | none => filings past

/-- The faults that were reported for a cycle, in their order. -/
def reported (cycle : Nat) (past : List Moment) : List Fault :=
  (((filings past).filter fun filing => filing.owner = cycle).map Filing.fault).reverse

end Plays

/-! ## What a turn reports -/

namespace Scheduler

theorem step_reports (s : Scheduler) : s.step.1.reports = s.reports := by
  obtain ⟨queue, stack, journal, steps, registry, frame⟩ := s.step_frame
  rw [frame]

end Scheduler

namespace Engine

variable {rules : Rules} {e next : Engine} {s : Scheduler} {tasks : List Task}

/-- What a scheduler has reported more than before. -/
def Reports (s : Scheduler) (fault? : Option Fault) (done : Engine) : Prop :=
  done.sched.reports = (fault?.map (Report.mk s.cycle)).toList ++ s.reports

theorem Reports.faultsOf {fault? : Option Fault} {done : Engine} (reports : Reports s fault? done)
    (cycle : Nat) :
    done.sched.faultsOf cycle =
      s.faultsOf cycle ++ if s.cycle = cycle then fault?.toList else [] := by
  rw [Scheduler.faultsOf, reports, Scheduler.faultsOf]
  cases fault? with
  | none => simp
  | some fault => by_cases same : s.cycle = cycle <;> simp [same]

theorem report_reports (fault : Fault) :
    Reports s (s.reported? fault) (report s fault tasks) := by
  rcases report_cases s fault tasks with ⟨_, recorded, reported⟩ | ⟨unrecordable, reported⟩
  · rw [Reports, reported, tellFault_sched, Scheduler.reported?_of_snapshot recorded]
    rfl
  · rw [Reports, reported, Scheduler.reported?_of_unrecordable unrecordable]
    rfl

theorem halt_reports (phase : Phase) : Reports s none (halt s phase tasks) := by
  unfold Reports halt
  split
  · dsimp only
    rw [announce_sched]
    rfl
  · rfl

theorem paint_reports (leaf : Command) (primitive : Primitive) (calls : List Call) :
    Reports s none (paint s leaf primitive tasks calls) := by
  unfold Reports
  cases calls with
  | nil =>
    rcases paint_nil_cases s leaf primitive tasks with ⟨_, _, painted⟩ | ⟨_, painted⟩
    · rw [painted, announce_sched]
      rfl
    · rw [painted]
      rfl
  | cons call rest => rfl

theorem pause_reports : Reports s none (pause s tasks) := by
  unfold Reports pause
  split <;> rfl

theorem receive_reports (batch : List Command) (callback? : Option Nat) :
    Reports s none (receive s batch callback? tasks) := by
  unfold Reports receive
  split
  · rfl
  · split
    · rfl
    · rw [announce_sched]
      rfl

theorem takeStep_reports : Reports s s.stepFault? (takeStep s tasks) := by
  obtain ⟨after, work, stepped⟩ : ∃ after work, s.step = (after, work) := ⟨_, _, rfl⟩
  have cycle_eq := s.step_cycle
  have reports_eq := s.step_reports
  rw [stepped] at cycle_eq reports_eq
  dsimp only at cycle_eq reports_eq
  rw [Reports, ← cycle_eq, ← reports_eq, Scheduler.stepFault?, takeStep, stepped]
  cases work with
  | answer more => rfl
  | draw leaf primitive calls => exact paint_reports leaf primitive calls
  | report fault => exact report_reports fault
  | halt phase => exact halt_reports phase
  | fail failure => rfl

theorem Acts.reports {turn : Turn} (acts : Acts rules e turn next) :
    Reports e.sched (Moment.mk e turn next).fault? next := by
  cases acts with
  | receive s batch callback? tasks => exact receive_reports batch callback?
  | start s tasks => exact takeStep_reports
  | goOn s tasks => exact takeStep_reports
  | leaveOff => rfl
  | cancel => exact halt_reports _
  | rethrow => rfl
  | tell s notice rest tasks =>
    rw [Reports, tell_sched]
    rfl
  | complain => exact report_reports _
  | tellFault s fault rest tasks =>
    rw [Reports, tellFault_sched]
    rfl
  | giveUp => rfl
  | paint => exact paint_reports _ _ _
  | spoil => exact report_reports _
  | pause => exact pause_reports
  | settle s result rest tasks =>
    rw [Reports, settle_sched]
    rfl
  | answer => rfl
  | pass s task failure tasks passes =>
    cases passes with
    | painting leaf primitive rest other =>
      cases failure with
      | fault fault => exact absurd rfl (other fault)
      | _ => rfl
    | _ => rfl
  | refuse => rfl
  | supersede => exact halt_reports _
  | cue s site tasks signal entries callback? batch => exact receive_reports batch callback?
  | stop => rfl
  | step => exact takeStep_reports
  | idle s site tasks signal position allowed missing =>
    simp [Reports, Moment.fault?, stepping?, missing]
  | expire s site tasks signal position timer allowed found stale =>
    simp [Reports, Moment.fault?, stepping?, found, stale]
  | resume s site tasks signal position timer allowed found current =>
    simp only [Moment.fault?, stepping?, found, current, if_true, Option.bind_some]
    exact takeStep_reports
  | attach => rfl
  | define => rfl
  | finish => rfl
  | raise => rfl

/-- A turn that takes a step does nothing else, and what it reports is what the step has found. -/
theorem Acts.eq_takeStep {turn : Turn} (acts : Acts rules e turn next)
    (stepping : e.stepping? turn = some s) :
    (∃ tasks, next = takeStep s tasks) ∧ (Moment.mk e turn next).fault? = s.stepFault? ∧
      s.calls = e.sched.calls ∧ s.cycle = e.sched.cycle ∧ s.journal = e.sched.journal := by
  cases acts with
  | start | goOn | step =>
    obtain rfl := Option.some.inj stepping
    exact ⟨⟨_, rfl⟩, rfl, rfl, rfl, rfl⟩
  | resume s site tasks signal position timer allowed found current =>
    simp only [stepping?, found, current, if_true] at stepping
    obtain rfl := Option.some.inj stepping
    refine ⟨⟨_, rfl⟩, ?_, rfl, rfl, rfl⟩
    simp only [Moment.fault?, stepping?, found, current, if_true, Option.bind_some]
  | idle s site tasks signal position allowed missing => simp [stepping?, missing] at stepping
  | expire s site tasks signal position timer allowed found stale =>
    simp [stepping?, found, stale] at stepping
  | _ => simp [stepping?] at stepping

end Engine

/-! ## What a play reports -/

namespace Plays

variable {rules : Rules} {settings : Settings} {journal : Journal StepEvent} {registry : Registry}
  {past : List Moment} {now : Engine}

theorem filings_cons_none {m : Moment} (none : m.fault? = none) :
    filings (m :: past) = filings past := by
  simp [filings, none]

theorem filings_cons_some {m : Moment} {fault : Fault} (some : m.fault? = some fault) :
    filings (m :: past) =
      ⟨owner past m.before, m.before.sched.cycle,
        (calls past).any fun call => call.2.cycle = m.before.sched.cycle, fault⟩ ::
        filings past := by
  simp [filings, some]

theorem reports_eq (played : Plays rules (.atRest (.fresh settings journal registry)) past now) :
    now.sched.reports = (filings past).map fun filing => ⟨filing.cycle, filing.fault⟩ := by
  refine played.by_acts
    (fun past now =>
      now.sched.reports = (filings past).map fun filing => ⟨filing.cycle, filing.fault⟩) rfl ?_
  intro past e turn next _ _ acts before
  have reports := acts.reports
  rw [Engine.Reports, before] at reports
  cases fault : (Moment.mk e turn next).fault? with
  | none =>
    rw [fault] at reports
    rw [filings_cons_none fault]
    exact reports
  | some fault' =>
    rw [fault] at reports
    rw [filings_cons_some fault]
    exact reports

theorem faultsOf_eq (played : Plays rules (.atRest (.fresh settings journal registry)) past now)
    (cycle : Nat) :
    now.sched.faultsOf cycle =
      (((filings past).filter fun filing => filing.cycle = cycle).map Filing.fault).reverse := by
  rw [Scheduler.faultsOf, played.reports_eq, List.filter_map, List.map_map]
  rfl

theorem owner_le (played : Plays rules (.atRest (.fresh settings journal registry)) past now) :
    owner past now ≤ now.sched.cycle := by
  unfold owner
  split
  · exact played.cycleAt_le _
  · exact played.cycleAt_le _
  · exact played.cycleAt_le _
  · exact Nat.le_refl _

theorem filing_owner_le
    (played : Plays rules (.atRest (.fresh settings journal registry)) past now) :
    ∀ filing ∈ filings past, filing.owner ≤ filing.cycle := by
  induction played with
  | start => simp [filings]
  | @turn past e next turn before _ ih =>
    cases fault : (Moment.mk e turn next).fault? with
    | none =>
      rw [filings_cons_none fault]
      exact ih
    | some fault' =>
      rw [filings_cons_some fault]
      intro filing member
      rcases List.mem_cons.mp member with rfl | earlier
      · exact before.owner_le
      · exact ih filing earlier

/-- If two numberings of the same entries put the same entries under every number, and the one is
never above the other, then they are the same. -/
theorem numbering_eq {α β : Type} {entries : List α} {low high : α → Nat} (text : α → β)
    (le : ∀ entry ∈ entries, low entry ≤ high entry)
    (same : ∀ number,
      (entries.filter fun entry => high entry = number).map text =
        (entries.filter fun entry => low entry = number).map text) :
    ∀ entry ∈ entries, low entry = high entry := by
  suffices every : ∀ number, ∀ entry ∈ entries, low entry = number → high entry = number by
    intro entry member
    exact (every (low entry) entry member rfl).symm
  intro number
  induction number using Nat.strongRecOn with
  | ind number ih =>
    -- What is above the number in the one numbering is so in the other one.
    have within : ∀ entry ∈ entries, high entry = number → low entry = number := by
      intro entry member top
      rcases Nat.lt_or_eq_of_le (le entry member) with less | equal
      · have lower := ih (low entry) (by omega) entry member rfl
        omega
      · omega
    have sub : (entries.filter fun entry => high entry = number) =
        (entries.filter fun entry => low entry = number).filter fun entry =>
          high entry = number := by
      rw [List.filter_filter]
      refine List.filter_congr fun entry member => ?_
      have within := within entry member
      by_cases top : high entry = number <;> simp [top, within]
    have length_eq := congrArg List.length (same number)
    rw [List.length_map, List.length_map] at length_eq
    have all : (entries.filter fun entry => high entry = number) =
        entries.filter fun entry => low entry = number := by
      refine List.Sublist.eq_of_length ?_ length_eq
      rw [sub]
      exact List.filter_sublist
    intro entry member low_eq
    have inside : entry ∈ entries.filter fun entry => low entry = number :=
      List.mem_filter.mpr ⟨member, decide_eq_true low_eq⟩
    rw [← all] at inside
    exact of_decide_eq_true (List.mem_filter.mp inside).2

theorem mem_calls_iff {call : Nat × RunResult} :
    call ∈ calls past ↔ ∃ m ∈ past, m.after.calling? = some call := by
  induction past with
  | nil => simp [calls]
  | cons m past ih =>
    rw [calls, List.mem_append, ih, Option.mem_toList]
    constructor
    · rintro (⟨m', member, calling⟩ | calling)
      · exact ⟨m', List.mem_cons_of_mem _ member, calling⟩
      · exact ⟨m, List.mem_cons_self .., calling⟩
    · rintro ⟨m', member, calling⟩
      rcases List.mem_cons.mp member with rfl | earlier
      · exact Or.inr calling
      · exact Or.inl ⟨m', earlier, calling⟩

theorem faultsOf_prefix
    (played : Plays rules (.atRest (.fresh settings journal registry)) past now) :
    ∀ m ∈ past, ∀ cycle, m.after.sched.faultsOf cycle <+: now.sched.faultsOf cycle := by
  refine played.by_acts
    (fun past now => ∀ m ∈ past, ∀ cycle,
      m.after.sched.faultsOf cycle <+: now.sched.faultsOf cycle) (by simp) ?_
  intro past e turn next _ _ acts before m member cycle
  rcases List.mem_cons.mp member with rfl | earlier
  · exact List.prefix_refl _
  · rw [acts.reports.faultsOf cycle]
    exact (before m earlier cycle).trans (List.prefix_append _ _)

/-- The faults of a cycle have been the same since its callbacks were called if and only if none was
reported later than that. -/
theorem kept_iff (played : Plays rules (.atRest (.fresh settings journal registry)) past now) :
    (∀ m ∈ past, ∀ callback result, m.after.calling? = some (callback, result) →
        m.after.sched.faultsOf result.cycle = now.sched.faultsOf result.cycle) ↔
      ∀ filing ∈ filings past, filing.late = false := by
  refine played.by_acts
    (fun past now => (∀ m ∈ past, ∀ callback result,
        m.after.calling? = some (callback, result) →
          m.after.sched.faultsOf result.cycle = now.sched.faultsOf result.cycle) ↔
      ∀ filing ∈ filings past, filing.late = false) (by simp [filings]) ?_
  intro past e turn next played shaped acts before
  have grown := acts.reports.faultsOf
  rw [List.forall_mem_cons, and_iff_right (fun _ _ _ => rfl)]
  cases fault : (Moment.mk e turn next).fault? with
  | none =>
    rw [filings_cons_none fault, ← before]
    simp only [fault, Option.toList, ite_self, List.append_nil] at grown
    simp only [grown]
  | some fault' =>
    rw [filings_cons_some fault, List.forall_mem_cons, ← before]
    rw [fault] at grown
    -- No callback has been called for the cycle that the fault is put in.
    have unlate : ((calls past).any fun call => call.2.cycle = e.sched.cycle) = false ↔
        ∀ m ∈ past, ∀ callback result, m.after.calling? = some (callback, result) →
          e.sched.cycle ≠ result.cycle := by
      rw [List.any_eq_false]
      constructor
      · intro none m member callback result calling same
        exact none _ (mem_calls_iff.mpr ⟨m, member, calling⟩) (decide_eq_true same.symm)
      · intro none call member same
        obtain ⟨m, inside, calling⟩ := mem_calls_iff.mp member
        exact none m inside call.1 call.2 calling (of_decide_eq_true same).symm
    dsimp only
    rw [unlate]
    constructor
    · intro kept
      have apart : ∀ m ∈ past, ∀ callback result, m.after.calling? = some (callback, result) →
          e.sched.cycle ≠ result.cycle := by
        intro m member callback result calling same
        have equal := kept m member callback result calling
        have bound := (played.faultsOf_prefix m member result.cycle).length_le
        rw [equal, grown, if_pos same, List.length_append] at bound
        simp only [Option.toList, List.length_singleton] at bound
        omega
      refine ⟨apart, fun m member callback result calling => ?_⟩
      rw [kept m member callback result calling, grown,
        if_neg (apart m member callback result calling), List.append_nil]
    · rintro ⟨apart, kept⟩ m member callback result calling
      rw [kept m member callback result calling, grown,
        if_neg (apart m member callback result calling), List.append_nil]

/-- Every fault is among those of the cycle it was reported for, and of no other, and the faults of
a cycle stay as its callbacks found them, if and only if no report came late: no cycle had begun
since what it was made for, and no callback of the cycle had been called. -/
theorem attributed_iff
    (played : Plays rules (.atRest (.fresh settings journal registry)) past now) :
    ((∀ cycle, now.sched.faultsOf cycle = reported cycle past) ∧
        ∀ m ∈ past, ∀ callback result, m.after.calling? = some (callback, result) →
          m.after.sched.faultsOf result.cycle = now.sched.faultsOf result.cycle) ↔
      ∀ filing ∈ filings past, filing.owner = filing.cycle ∧ filing.late = false := by
  rw [played.kept_iff]
  constructor
  · rintro ⟨same, unlate⟩ filing member
    refine ⟨?_, unlate filing member⟩
    refine numbering_eq Filing.fault played.filing_owner_le ?_ filing member
    intro cycle
    have both := same cycle
    rw [played.faultsOf_eq, reported] at both
    exact List.reverse_inj.mp both
  · intro each
    refine ⟨fun cycle => ?_, fun filing member => (each filing member).2⟩
    rw [played.faultsOf_eq, reported]
    refine congrArg (fun found : List Filing => (found.map Filing.fault).reverse) ?_
    refine List.filter_congr fun filing member => ?_
    rw [(each filing member).1]

/-- Someone watches the ends of cycles, and fails when the first one ends. -/
theorem failing_attributed :
    ∃ past now, Plays .free (.atRest plainStart) past now ∧
      (reported 1 past).map Fault.cause = [.observerFailed "program_end" "x"] ∧
      calls past = [(1, ⟨.exhausted, 1, 1⟩)] ∧
      (∀ cycle, now.sched.faultsOf cycle = reported cycle past) ∧
      ∀ m ∈ past, ∀ callback result, m.after.calling? = some (callback, result) →
        m.after.sched.faultsOf result.cycle = now.sched.faultsOf result.cycle := by
  obtain ⟨past, now, played, facts⟩ := exists_of_play? .free (.atRest plainStart)
    [.move (.attach .programEnd 0), .move (.cue [] (some 1)), .work,
      .move (.raise (.breakdown "x")), .work, .work, .move .finish, .work, .work, .work]
    (fun past _ => decide (
      (∀ filing ∈ filings past, filing.owner = filing.cycle ∧ filing.late = false) ∧
      (reported 1 past).map Fault.cause = [.observerFailed "program_end" "x"] ∧
      calls past = [(1, ⟨.exhausted, 1, 1⟩)]))
    (by decide)
  obtain ⟨each, fault, called⟩ := of_decide_eq_true facts
  exact ⟨past, now, played, fault, called, played.attributed_iff.mpr each⟩

/-- If a cycle runs before that failure, the fault goes to the later cycle, and the callback of the
first one never sees it. -/
theorem failing_misattributed :
    ∃ past now, Plays .free (.atRest plainStart) past now ∧ now.Outside ∧
      calls past = [(1, ⟨.exhausted, 1, 1⟩)] ∧
      (reported 1 past).map Fault.cause = [.observerFailed "program_end" "x"] ∧
      now.sched.faultsOf 1 = [] ∧
      (now.sched.faultsOf 2).map Fault.cause = [.observerFailed "program_end" "x"] := by
  obtain ⟨past, now, played, facts⟩ := exists_of_play? .free (.atRest plainStart)
    [.move (.attach .programEnd 0), .move (.cue [] (some 1)), .work, .move (.cue [] none), .work,
      .move .finish, .work, .work, .work, .work, .move (.raise (.breakdown "x")), .work, .work,
      .move .finish, .work, .work, .work]
    (fun past now => decide (now.Outside ∧ calls past = [(1, ⟨.exhausted, 1, 1⟩)] ∧
      (reported 1 past).map Fault.cause = [.observerFailed "program_end" "x"] ∧
      now.sched.faultsOf 1 = [] ∧
      (now.sched.faultsOf 2).map Fault.cause = [.observerFailed "program_end" "x"]))
    (by decide)
  exact ⟨past, now, played, of_decide_eq_true facts⟩

end Plays

end Turtle
