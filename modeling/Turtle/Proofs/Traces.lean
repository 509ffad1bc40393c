import Turtle.Proofs.Announcements

/-!
# Traces of plays

The trace of a play is cut into cycles, as the protocol says, as long as observers and callbacks
start nothing by themselves and only observers fail.  Every primitive that goes to the drawing is
announced in its turn, every fault that is reported is announced in its turn, unless it is about an
observer of faults, and every cycle calls the callbacks that were given for it.
-/

set_option autoImplicit false

namespace Turtle

namespace Occurrence

def dispatched? : Occurrence → Option Command
  | dispatched leaf _ => some leaf
  | _ => none

/-- It is announced that a primitive has been drawn. -/
def drawn? : Occurrence → Option Command
  | announced (.afterPrimitive leaf) _ => some leaf
  | _ => none

def call? : Occurrence → Option (Nat × RunResult)
  | called callback result => some (callback, result)
  | _ => none

end Occurrence

/-! ## What stages tell of a trace -/

namespace Stage

/-- The primitive that has gone to the drawing and has not been announced. -/
def unannounced? : Stage → Option Command
  | drawing leaf _ => some leaf
  | _ => none

theorem unannounced?_after (complains : Bool) (result? : Option RunResult) :
    (after complains result?).unannounced? = none := by
  cases result? <;> rfl

/-- What goes to the drawing is announced in its turn. -/
theorem Steps.dispatched_eq {n m : Nat} {first last : Stage} {trace : List Occurrence}
    (steps : Steps n first trace m last) :
    first.unannounced?.toList ++ trace.filterMap Occurrence.dispatched? =
      trace.filterMap Occurrence.drawn? ++ last.unannounced?.toList := by
  induction steps with
  | refl => simp
  | @cons n m k first second last occurrence? later step _ ih =>
    have here : first.unannounced?.toList ++ occurrence?.toList.filterMap Occurrence.dispatched? =
        occurrence?.toList.filterMap Occurrence.drawn? ++ second.unannounced?.toList := by
      cases step with
      | fail notice left result? failure => rw [unannounced?_after]; rfl
      | finishTelling notice begun result? => rw [unannounced?_after]; rfl
      | _ => rfl
    rw [List.filterMap_append, List.filterMap_append, ← List.append_assoc, here,
      List.append_assoc, ih, List.append_assoc]

end Stage

theorem filterMap_map_none {α : Type} (items : List α) (occurrence : α → Occurrence)
    (none : ∀ item, (occurrence item).call? = none) :
    (items.map occurrence).filterMap Occurrence.call? = [] := by
  rw [List.filterMap_map, List.filterMap_eq_nil_iff]
  exact fun item _ => none item

theorem Emission.trace_calls (emission : Emission) :
    emission.trace.filterMap Occurrence.call? = [] := by
  rw [trace, List.filterMap_cons_none rfl, List.filterMap_append,
    filterMap_map_none _ _ fun _ => rfl, filterMap_map_none _ _ fun _ => rfl]
  rfl

theorem Incident.trace_calls (incident : Incident) :
    incident.trace.filterMap Occurrence.call? = [] := by
  cases incident with
  | drawn leaf calls emission =>
    rw [trace, List.filterMap_cons_none rfl, List.filterMap_append,
      filterMap_map_none _ _ fun _ => rfl, emission.trace_calls]
    rfl
  | reported emission => exact emission.trace_calls

namespace Cycle

theorem opening_calls (start : Emission) (course : List Incident) :
    (opening start course).filterMap Occurrence.call? = [] := by
  rw [opening, List.filterMap_append, start.trace_calls, List.nil_append, List.filterMap_flatMap,
    List.flatMap_eq_nil_iff]
  exact fun incident _ => incident.trace_calls

theorem trace_calls (cycle : Cycle) :
    cycle.trace.filterMap Occurrence.call? = cycle.called.map fun id => (id, cycle.result) := by
  have complaint : (cycle.complaint?.toList.flatMap Emission.trace).filterMap Occurrence.call? =
      [] := by
    rw [List.filterMap_flatMap, List.flatMap_eq_nil_iff]
    exact fun emission _ => emission.trace_calls
  have called : (cycle.called.map (Occurrence.called · cycle.result)).filterMap Occurrence.call? =
      cycle.called.map fun id => (id, cycle.result) := by
    rw [List.filterMap_map]
    exact congrFun List.filterMap_eq_map' cycle.called
  simp only [trace, List.filterMap_append, opening_calls, Emission.trace_calls, complaint, called,
    List.nil_append]

theorem calls_numbered (cycle : Cycle) (number : Nat) :
    (cycle.trace.filterMap Occurrence.call?).filter (fun call => call.2.cycle = number) =
      if cycle.result.cycle = number then cycle.called.map fun id => (id, cycle.result)
      else [] := by
  rw [cycle.trace_calls, List.filter_map, Function.comp_def]
  split
  · rename_i same
    simp [same]
  · rename_i different
    simp [different]

theorem calls_eq_nil {cycles : List Cycle} {number : Nat}
    (absent : number ∉ cycles.map (·.result.cycle)) :
    ((cycles.flatMap Cycle.trace).filterMap Occurrence.call?).filter
      (fun call => call.2.cycle = number) = [] := by
  rw [List.filterMap_flatMap, List.filter_flatMap, List.flatMap_eq_nil_iff]
  intro cycle inside
  rw [cycle.calls_numbered, if_neg]
  exact fun same => absent (List.mem_map.mpr ⟨cycle, inside, same⟩)

/-- If cycles have different numbers, the calls with the result of one are those of that one. -/
theorem calls_of_mem {cycles : List Cycle} {cycle : Cycle} (member : cycle ∈ cycles)
    (distinct : (cycles.map (·.result.cycle)).Nodup) :
    ((cycles.flatMap Cycle.trace).filterMap Occurrence.call?).filter
        (fun call => call.2.cycle = cycle.result.cycle) =
      cycle.called.map fun id => (id, cycle.result) := by
  obtain ⟨earlier, later, rfl⟩ := List.append_of_mem member
  rw [List.map_append, List.map_cons, List.nodup_middle, List.nodup_cons, List.mem_append,
    not_or] at distinct
  rw [List.flatMap_append, List.flatMap_cons, List.filterMap_append, List.filterMap_append,
    List.filter_append, List.filter_append, calls_eq_nil distinct.1.1, calls_eq_nil distinct.1.2,
    cycle.calls_numbered, if_pos rfl, List.nil_append, List.append_nil]

end Cycle

namespace Stage

open Turtle.Cycle

theorem begun_calls {trace : List Occurrence} (begun : Begun trace) :
    trace.filterMap Occurrence.call? = [] := by
  obtain ⟨_, _, _⟩ := begun
  exact opening_calls _ _

theorem announcing_calls {notice : Notice} {result? : Option RunResult}
    {trace : List Occurrence} (announcing : Announcing notice result? trace) :
    trace.filterMap Occurrence.call? = [] := by
  cases announcing with
  | start => rfl
  | drawn leaf calls begun =>
    rw [List.filterMap_append, begun_calls begun, List.filterMap_cons_none rfl,
      filterMap_map_none _ _ fun _ => rfl]
    rfl
  | reported fault begun => exact begun_calls begun
  | finish result begun => exact begun_calls begun
  | complaint result fault begun =>
    rw [List.filterMap_append, begun_calls begun, Emission.trace_calls]
    rfl

/-- Callbacks are called with the result of a cycle that has ended. -/
theorem Reached.calls {stage : Stage} {rest : List Occurrence} (reached : Reached stage rest) :
    ∀ call ∈ rest.filterMap Occurrence.call?, stage.result? = some call.2 := by
  suffices some : rest.filterMap Occurrence.call? = [] ∨
      ∃ cycle : Cycle, rest = cycle.trace ∧ stage.result? = Option.some cycle.result by
    rcases some with none | ⟨cycle, rfl, result_eq⟩
    · simp [none]
    · rw [cycle.trace_calls, result_eq]
      intro call member
      obtain ⟨id, _, rfl⟩ := List.mem_map.mp member
      rfl
  cases reached with
  | between => exact Or.inl rfl
  | within begun => exact Or.inl (begun_calls begun)
  | drawing leaf asked left begun =>
    left
    rw [List.filterMap_append, begun_calls begun, List.filterMap_cons_none rfl,
      filterMap_map_none _ _ fun _ => rfl]
    rfl
  | telling told left begun announcing =>
    left
    rw [List.filterMap_append, announcing_calls announcing, Emission.trace_calls]
    rfl
  | complaining begun =>
    left
    rw [List.filterMap_append, begun_calls begun, Emission.trace_calls]
    rfl
  | ended => exact Or.inr ⟨_, rfl, rfl⟩

end Stage

/-! ## What plays tell -/

namespace Engine

variable {rules : Rules} {e next : Engine} {turn : Turn} {s : Scheduler} {tasks : List Task}

theorem halt_observers (phase : Phase) : (halt s phase tasks).sched.observers = s.observers := by
  by_cases running : s.phase = .running
  · rw [halt_of_running running, announce_sched]
    rfl
  · rw [halt_of_rest running]

theorem takeStep_observers : (takeStep s tasks).sched.observers = s.observers := by
  rcases takeStep_noted s tasks with ⟨journal, reports, calls, noted⟩ | ⟨next, phase, halts, halted⟩
  · rw [noted]
    exact s.step_observers
  · have same := s.step_observers
    rw [halts] at same
    rw [halted, halt_observers]
    exact same

theorem paint_observers (leaf : Command) (primitive : Primitive) (calls : List Call) :
    (paint s leaf primitive tasks calls).sched.observers = s.observers := by
  obtain ⟨journal, reports, calls, noted⟩ := paint_noted s tasks leaf primitive calls
  rw [noted]

theorem report_observers (fault : Fault) :
    (report s fault tasks).sched.observers = s.observers := by
  obtain ⟨journal, reports, calls, noted⟩ := report_noted s tasks fault
  rw [noted]

theorem receive_observers (batch : List Command) (callback? : Option Nat) :
    (receive s batch callback? tasks).sched.observers = s.observers := by
  unfold receive
  split
  · rfl
  · split
    · rfl
    · rw [announce_sched]
      rfl

/-- Observers are attached, and nothing else happens to them. -/
theorem Acts.observersOf_eq (acts : Acts rules e turn next) (event : Event) :
    next.sched.observersOf event = e.sched.observersOf event ++ turn.attaches event := by
  have kept : next.sched.observers = e.sched.observers →
      next.sched.observersOf event = e.sched.observersOf event ++ [] := by
    intro same
    rw [Scheduler.observersOf, same, List.append_nil, Scheduler.observersOf]
  cases acts with
  | receive => exact kept (receive_observers _ _)
  | start => exact kept takeStep_observers
  | goOn => exact kept takeStep_observers
  | cancel => exact kept (halt_observers _)
  | tell => exact kept (by rw [tell_sched])
  | complain => exact kept (report_observers _)
  | tellFault => exact kept (by rw [tellFault_sched])
  | paint => exact kept (paint_observers _ _ _)
  | spoil => exact kept (report_observers _)
  | pause =>
    refine kept ?_
    unfold Engine.pause
    split <;> rfl
  | settle => exact kept (by rw [settle_sched])
  | supersede => exact kept (halt_observers _)
  | cue => exact kept (receive_observers _ _)
  | step => exact kept takeStep_observers
  | resume => exact kept takeStep_observers
  | attach s site tasks signal event' observer =>
    rw [Turn.attaches, Scheduler.observersOf, Scheduler.attach, List.filter_append,
      List.map_append, Scheduler.observersOf]
    by_cases same : event' = event <;> simp [same]
  | _ => exact kept rfl

theorem spoken?_faults (e : Engine) : e.spoken?.toList.flatMap Occurrence.faults = [] := by
  unfold spoken?
  split <;> rfl

theorem spoken?_calls (e : Engine) :
    e.spoken?.toList.filterMap Occurrence.call? = e.calling?.toList := by
  obtain ⟨s, tasks, signal⟩ := e
  cases signal with
  | called =>
    cases tasks with
    | nil => rfl
    | cons task tasks =>
      cases task with
      | foreign site => cases site <;> rfl
      | _ => rfl
  | _ => rfl

variable {n : Nat} {stage : Stage}

/-- The primitive that has gone to the drawing and has not been announced. -/
def unannounced? (e : Engine) : Option Command :=
  e.tasks.findSome? fun
    | .painting leaf _ _ => some leaf
    | _ => none

theorem Awaits.unannounced?_eq {result? : Option RunResult} (awaits : Awaits n s tasks result?)
    (signal : Signal) : unannounced? ⟨s, tasks, signal⟩ = none := by
  cases awaits with
  | settling result rest remains => cases remains <;> rfl
  | _ => rfl

theorem Placed.unannounced?_eq (placed : Placed n stage e) :
    e.unannounced? = stage.unannounced? := by
  cases placed with
  | outside signal poised => cases poised <;> rfl
  | looping more poised => cases poised <;> rfl
  | awaiting awaits => rw [awaits.unannounced?_eq, Stage.unannounced?_after]
  | telling id rest signal awaits => exact awaits.unannounced?_eq signal
  | announcing rest awaits => exact awaits.unannounced?_eq .returned
  | complaining rest failure awaits => exact awaits.unannounced?_eq (.raised failure)
  | tellingFault id fault rest signal awaits => exact awaits.unannounced?_eq signal
  | reporting fault rest awaits => exact awaits.unannounced?_eq .returned
  | givingUp fault rest failure awaits => exact awaits.unannounced?_eq (.raised failure)
  | calling id result rest signal remains => cases remains <;> rfl
  | leaving remains => cases remains <;> rfl
  | _ => rfl

theorem Remains.owes (remains : Remains tasks) : tasks.filterMap Task.owes? = [] := by
  cases remains <;> rfl

theorem Awaits.owes {result? : Option RunResult} (awaits : Awaits n s tasks result?) :
    ∀ owed ∈ tasks.filterMap Task.owes?, result? = some owed.1 := by
  cases awaits with
  | settling result rest remains =>
    intro owed member
    simp only [List.filterMap_cons, Task.owes?, remains.owes, List.mem_singleton] at member
    rw [member]
  | _ => simp [Task.owes?, loop]

/-- Callbacks are still to be called only with the result of the cycle that has just ended. -/
theorem Placed.owes (placed : Placed n stage e) :
    ∀ owed ∈ e.tasks.filterMap Task.owes?, stage.result? = some owed.1 := by
  cases placed with
  | awaiting awaits => rw [Stage.result?_after]; exact awaits.owes
  | telling id rest signal awaits => exact awaits.owes
  | announcing rest awaits => exact awaits.owes
  | complaining rest failure awaits => exact awaits.owes
  | tellingFault id fault rest signal awaits => exact awaits.owes
  | reporting fault rest awaits => exact awaits.owes
  | givingUp fault rest failure awaits => exact awaits.owes
  | calling id result rest signal remains rests cycle_eq =>
    exact (Awaits.settling result rest remains rests cycle_eq).owes
  | leaving remains => simp [remains.owes]
  | _ => simp [Task.owes?, loop]

theorem Awaits.cycle_eq {result? : Option RunResult} (awaits : Awaits n s tasks result?) :
    s.cycle = n + 1 := by
  cases awaits with
  | starting under => exact under.cycle_eq
  | pausing under => exact under.cycle_eq
  | stepped under => exact under.cycle_eq
  | settling result rest remains rests cycle_eq => exact cycle_eq

theorem Placed.cycle_eq (placed : Placed n stage e) :
    e.sched.cycle = n + 1 ∨ e.sched.cycle = n ∧ e.sched.phase ≠ .running := by
  cases placed with
  | outside signal poised =>
    cases poised with
    | within under => exact Or.inl under.cycle_eq
    | between rests cycle_eq => exact Or.inr ⟨cycle_eq, rests⟩
  | looping more poised =>
    cases poised with
    | within under => exact Or.inl under.cycle_eq
    | between rests cycle_eq => exact Or.inr ⟨cycle_eq, rests⟩
  | leaving remains rests cycle_eq => exact Or.inr ⟨cycle_eq, rests⟩
  | failing failure under => exact Or.inl under.cycle_eq
  | drawing call leaf primitive rest signal under => exact Or.inl under.cycle_eq
  | painting leaf primitive rest under => exact Or.inl under.cycle_eq
  | awaiting awaits => exact Or.inl awaits.cycle_eq
  | telling id rest signal awaits => exact Or.inl awaits.cycle_eq
  | announcing rest awaits => exact Or.inl awaits.cycle_eq
  | complaining rest failure awaits => exact Or.inl awaits.cycle_eq
  | tellingFault id fault rest signal awaits => exact Or.inl awaits.cycle_eq
  | reporting fault rest awaits => exact Or.inl awaits.cycle_eq
  | givingUp fault rest failure awaits => exact Or.inl awaits.cycle_eq
  | calling id result rest signal remains rests cycle_eq => exact Or.inl cycle_eq

theorem Placed.between_of_outside (placed : Placed n stage e) (outside : e.Outside)
    (rests : e.sched.phase ≠ .running) : stage = .between := by
  cases placed with
  | outside signal poised =>
    cases poised with
    | within under => exact absurd under.running rests
    | between => rfl
  | leaving => rfl
  | awaiting awaits => cases awaits <;> simp [Outside] at outside
  | _ => simp [Outside, loop] at outside

end Engine

namespace Moment

theorem occurrences_calls (audience : Event → List Nat) (m : Moment) :
    (m.occurrences audience).filterMap Occurrence.call? = m.after.calling?.toList := by
  have failed : m.failed?.toList.filterMap Occurrence.call? = [] := by
    unfold failed?
    split <;> rfl
  have dispatched : m.dispatched?.toList.filterMap Occurrence.call? = [] := by
    unfold dispatched?
    cases m.before.stepping? m.turn with
    | none => rfl
    | some s =>
      rw [Option.bind_some, Scheduler.dispatch?]
      split <;> rfl
  have announced : (m.notice?.map fun notice => Occurrence.announced notice
      (audience notice.event)).toList.filterMap Occurrence.call? = [] := by
    cases m.notice? <;> rfl
  rw [occurrences, List.filterMap_append, List.filterMap_append, List.filterMap_append, failed,
    dispatched, announced, m.after.spoken?_calls]
  rfl

end Moment

namespace Plays

open Engine Stage

theorem calls_traced (past : List Moment) :
    (trace past).filterMap Occurrence.call? = calls past := by
  induction past with
  | nil => rfl
  | cons m past ih => rw [trace, List.filterMap_append, ih, m.occurrences_calls, calls]

variable {settings : Settings} {journal : Journal StepEvent} {registry : Registry}
  {past : List Moment} {now : Engine}

theorem attached_eq {rules : Rules}
    (played : Plays rules (.atRest (.fresh settings journal registry)) past now) (event : Event) :
    now.sched.observersOf event = attached event past := by
  refine played.by_acts (fun past now => now.sched.observersOf event = attached event past) rfl ?_
  intro past e turn next _ _ acts before
  rw [acts.observersOf_eq, before, attached]

/-- A play leads from stage to stage, and what has been reported is told on the way. -/
theorem staged (played : Plays .modest (.atRest (.fresh settings journal registry)) past now) :
    (∃ n stage, Steps 0 .between (trace past) n stage ∧ Placed n stage now) ∧
      (now.sched.reports.map Report.fault).reverse = (trace past).flatMap Occurrence.faults := by
  induction played with
  | start =>
    refine ⟨⟨0, .between, .refl 0 .between, ?_⟩, rfl⟩
    exact .outside .returned (.between Phase.noConfusion rfl)
  | @turn past e next turn earlier taken ih =>
    obtain ⟨⟨n, stage, steps, placed⟩, reports⟩ := ih
    have recordable := earlier.recordable fun site => by cases site <;> rfl
    obtain ⟨front, occurrences_eq, faults_eq, n', stage', steps', placed'⟩ :=
      placed.leads recordable taken
    have audience_eq : (fun event => attached event past) = e.sched.observersOf := by
      funext event
      exact (earlier.attached_eq event).symm
    have happens : trace (⟨e, turn, next⟩ :: past) = trace past ++ (front ++ next.spoken?.toList) :=
      by rw [trace, audience_eq, occurrences_eq]
    refine ⟨⟨n', stage', happens ▸ steps.append steps', placed'⟩, ?_⟩
    have reported := (turn?_acts earlier.shaped taken).reports
    rw [Reports] at reported
    rw [happens, List.flatMap_append, List.flatMap_append, spoken?_faults, faults_eq, ← reports,
      reported]
    cases (Moment.mk e turn next).fault? <;> simp

theorem abandoned_of_modest
    (played : Plays .modest (.atRest (.fresh settings journal registry)) past now) (cycle : Nat) :
    abandoned cycle past = [] := by
  refine played.by_acts (fun past _ => abandoned cycle past = []) rfl ?_
  intro past e turn next earlier shaped acts before
  rw [abandoned, before, List.nil_append, uncalled_eq_nil_iff acts shaped]
  rintro (⟨s, id, result, first, rest, tasks, signal, failure, _, rfl⟩ |
    ⟨s, result, others, first, rest, tasks, failure, _, rfl, unrecordable⟩)
  · cases acts with
    | raise s site tasks signal failure inside allowed => simp [Rules.modest] at allowed
  · have recordable := earlier.recordable fun site => by cases site <;> rfl
    exact unrecordable (recordable.resolve_left Bool.false_ne_true)

/-- The callbacks of the cycles that are over have been called. -/
theorem called_of_over
    (played : Plays .modest (.atRest (.fresh settings journal registry)) past now)
    {n : Nat} {stage : Stage} (placed : Placed n stage now)
    (number : ∀ result ∈ stage.result?, result.cycle = n + 1) {cycle : Nat} (ended : cycle ≤ n) :
    accepted cycle past = invoked cycle past := by
  have nothing : (now.books.owed.flatMap fun owed =>
      if owed.1.cycle = cycle then owed.2 else []) = [] := by
    rw [List.flatMap_eq_nil_iff]
    intro owed member
    have last := number owed.1 (placed.owes owed (now.mem_of_owed member))
    exact if_neg (by omega)
  have waiting : (if now.books.cycle = cycle then now.books.waiting else []) = [] := by
    split
    · rename_i same
      have same : now.sched.cycle = cycle := same
      rcases placed.cycle_eq with later | ⟨_, rests⟩
      · omega
      · exact played.tidy.callbacks_eq rests
    · rfl
  have balanced := played.books.1.accepted_eq cycle
  rw [played.abandoned_of_modest, Books.due, nothing, waiting] at balanced
  simpa using balanced

/-- The callbacks that were called with a result of a cycle, read off the parts of a trace. -/
theorem invoked_traced {cycles : List Cycle} {rest : List Occurrence}
    (trace_eq : trace past = cycles.flatMap Cycle.trace ++ rest) (cycle : Nat) :
    invoked cycle past =
      ((((cycles.flatMap Cycle.trace).filterMap Occurrence.call?).filter
          (fun call => call.2.cycle = cycle)) ++
        (rest.filterMap Occurrence.call?).filter (fun call => call.2.cycle = cycle)).map
          Prod.fst := by
  rw [invoked, ← calls_traced, trace_eq, List.filterMap_append, List.filter_append]

section Numbered

variable {cycles : List Cycle} {rest : List Occurrence} {n : Nat}
  (trace_eq : trace past = cycles.flatMap Cycle.trace ++ rest)
  (numbers : cycles.map (·.result.cycle) = List.range' 1 n)
  (later : ∀ call ∈ rest.filterMap Occurrence.call?, call.2.cycle = n + 1)
include trace_eq numbers later

/-- The callbacks that a whole cycle calls are those that are called with its result at all. -/
theorem invoked_of_mem {cycle : Cycle} (member : cycle ∈ cycles) (ended : cycle.result.cycle ≤ n) :
    invoked cycle.result.cycle past = cycle.called := by
  have distinct : (cycles.map (·.result.cycle)).Nodup := by
    rw [numbers]
    exact List.nodup_range'
  have none_left : (rest.filterMap Occurrence.call?).filter
      (fun call => call.2.cycle = cycle.result.cycle) = [] := by
    rw [List.filter_eq_nil_iff]
    intro call called
    have last := later call called
    simp only [decide_eq_true_eq]
    omega
  rw [invoked_traced trace_eq, Cycle.calls_of_mem member distinct, none_left]
  simp [Function.comp_def]

/-- The callbacks that are called in the rest of a trace belong to the cycle after the others. -/
theorem invoked_rest :
    invoked (n + 1) past = (rest.filterMap Occurrence.call?).map Prod.fst := by
  have absent : n + 1 ∉ cycles.map (·.result.cycle) := by
    rw [numbers, List.mem_range'_1]
    omega
  have all_left : (rest.filterMap Occurrence.call?).filter (fun call => call.2.cycle = n + 1) =
      rest.filterMap Occurrence.call? := by
    rw [List.filter_eq_self]
    exact fun call called => decide_eq_true (later call called)
  rw [invoked_traced trace_eq, Cycle.calls_eq_nil absent, all_left, List.nil_append]

end Numbered

/-- A play keeps to the protocol, with some whole cycles and what is left of its trace. -/
structure Keeps (past : List Moment) (now : Engine) (cycles : List Cycle)
    (rest : List Occurrence) : Prop where
  trace_eq : trace past = cycles.flatMap Cycle.trace ++ rest
  proper : ∀ cycle ∈ cycles, cycle.Proper
  numbered : cycles.map (·.result.cycle) = List.range' 1 cycles.length
  /-- The callbacks of a cycle are called in the order in which they were taken in. -/
  called_eq : ∀ cycle ∈ cycles, cycle.called = accepted cycle.result.cycle past
  /-- What is left is the first part of a further cycle, -/
  begun : ∃ cycle : Cycle, cycle.Proper ∧ rest <+: cycle.trace
  /-- which calls its callbacks in that order too, -/
  calling : (rest.filterMap Occurrence.call?).map Prod.fst <+: accepted (cycles.length + 1) past
  /-- and nothing is left when no cycle is running and code outside of everything has control. -/
  nothing_left : now.Outside → now.sched.phase ≠ .running → rest = []
  /-- What goes to the drawing is announced, but for what is still being drawn. -/
  drawn_eq : (trace past).filterMap Occurrence.dispatched? =
    (trace past).filterMap Occurrence.drawn? ++ now.unannounced?.toList
  /-- What is reported is announced, but for the failures of observers of faults. -/
  reported_eq : (now.sched.reports.map Report.fault).reverse =
    (trace past).flatMap Occurrence.faults

/-- Whatever foreign code does, and in whatever order, as long as observers and callbacks start
nothing by themselves and only observers fail: what happens keeps to the protocol of cycles. -/
theorem keeps_protocol
    (played : Plays .modest (.atRest (.fresh settings journal registry)) past now) :
    ∃ cycles rest, Keeps past now cycles rest := by
  obtain ⟨⟨n, stage, steps, placed⟩, reports⟩ := played.staged
  obtain ⟨cycles, rest, trace_eq, proper, numbers, reached, number⟩ := splits_nil.steps steps
  rw [List.nil_append] at trace_eq
  have count : cycles.length = n := by simpa using congrArg List.length numbers
  -- The calls that are left over belong to the cycle after these.
  have later : ∀ call ∈ rest.filterMap Occurrence.call?, call.2.cycle = n + 1 :=
    fun call member => number call.2 (reached.calls call member)
  have called_eq : ∀ cycle ∈ cycles, cycle.called = accepted cycle.result.cycle past := by
    intro cycle member
    have ended : cycle.result.cycle ≤ n := by
      have inside : cycle.result.cycle ∈ List.range' 1 n := by
        rw [← numbers]
        exact List.mem_map_of_mem member
      rw [List.mem_range'_1] at inside
      omega
    rw [played.called_of_over placed number ended,
      invoked_of_mem trace_eq numbers later member ended]
  have calling : (rest.filterMap Occurrence.call?).map Prod.fst <+: accepted (n + 1) past := by
    rw [← invoked_rest trace_eq numbers later, played.books.1.accepted_eq]
    exact List.prefix_append _ _
  have nothing_left : now.Outside → now.sched.phase ≠ .running → rest = [] := by
    intro outside rests
    have between := placed.between_of_outside outside rests
    subst between
    cases reached
    rfl
  have drawn_eq := steps.dispatched_eq
  rw [← placed.unannounced?_eq] at drawn_eq
  exact ⟨cycles, rest, {
    trace_eq := trace_eq
    proper := proper
    numbered := by rw [numbers, count]
    called_eq := called_eq
    begun := reached.extends
    calling := count ▸ calling
    nothing_left := nothing_left
    drawn_eq := drawn_eq
    reported_eq := reports }⟩

/-- Observers of the start and of the end fail, and so does the one that is told of the second
failure.  An observer that is attached while the start is announced is not told of it. -/
theorem failing_keeps :
    ∃ past now cycles rest, Plays .modest (.atRest plainStart) past now ∧
      Keeps past now cycles rest ∧ rest = [] ∧ (trace past).length = 15 ∧
      now.sched.reports.length = 3 ∧ (calls past).map Prod.fst = [9] := by
  obtain ⟨past, now, played, facts⟩ := exists_of_play? .modest (.atRest plainStart)
    [.move (.attach .programStart 0), .move (.attach .programEnd 1), .move (.attach .onError 2),
      .move (.cue [.command (.leaf "pu" [] none)] (some 9)), .move (.attach .programStart 3),
      .move (.raise (.breakdown "x")), .work, .move .finish, .work, .work, .work, .move .finish,
      .work, .work, .work, .move (.raise (.breakdown "x")), .work, .move (.raise (.breakdown "x")),
      .work, .work, .move .finish, .work, .work, .work]
    (fun past now => decide (now.Outside ∧ now.sched.phase ≠ .running ∧
      (trace past).length = 15 ∧ now.sched.reports.length = 3 ∧
      (calls past).map Prod.fst = [9]))
    (by decide)
  obtain ⟨outside, rests, length, reported, called⟩ := of_decide_eq_true facts
  obtain ⟨cycles, rest, keeps⟩ := keeps_protocol played
  exact ⟨past, now, cycles, rest, played, keeps, keeps.nothing_left outside rests, length, reported,
    called⟩

end Plays

end Turtle
