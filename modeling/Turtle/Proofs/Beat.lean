import Turtle.Proofs.Meaning
import Turtle.Proofs.Recordable

/-!
# Beats

With nobody watching and a drawing that only draws, a step of a scheduler and all that follows from
it is one beat.  This module says, for each kind of command on top of the stack, what a beat does to
the world and to the stack.
-/

set_option autoImplicit false

namespace Turtle

/-- A fault without the number of the step that reported it. -/
def Fault.unnumbered (fault : Fault) : Fault :=
  { fault with step? := none }

namespace Scheduler

/-- A step with all that follows from it while nobody watches and the drawing only draws.  There is
none if the step ends the cycle or fails, or if what follows from it cannot be recorded. -/
def beat? (s : Scheduler) : Option Scheduler :=
  match s.step with
  | (next, .answer true) => some next
  | (next, .draw leaf primitive calls) =>
    (({ next with calls := calls.reverse ++ next.calls } : Scheduler).log
      (.primitive primitive.name) leaf.location?).toOption
  | (next, .report fault) => (next.report fault).toOption.map Prod.fst
  | _ => none

theorem log_eq_some {s next : Scheduler} {event : StepEvent} {at? : Option Location}
    (logged : (s.log event at?).toOption = some next) :
    ∃ stack?, s.snapshot = .ok stack? ∧ next = s.enter event at? stack? := by
  rw [log] at logged
  cases recorded : s.snapshot with
  | ok stack? =>
    rw [recorded] at logged
    exact ⟨stack?, rfl, (Option.some.inj logged).symm⟩
  | error failure =>
    rw [recorded] at logged
    contradiction

theorem report_eq_some {s next : Scheduler} {fault : Fault}
    (reported : (s.report fault).toOption.map Prod.fst = some next) :
    ∃ stack?, s.snapshot = .ok stack? ∧ next = (s.reportWith fault stack?).1 := by
  rw [report] at reported
  cases recorded : s.snapshot with
  | ok stack? =>
    rw [recorded] at reported
    exact ⟨stack?, rfl, (Option.some.inj reported).symm⟩
  | error failure =>
    rw [recorded] at reported
    contradiction

/-- What a beat consists of: a step that answers, or one that leaves a primitive to be drawn or a
fault to be reported, and that too is entered into the journal. -/
theorem beat?_cases {s next : Scheduler} (beat : s.beat? = some next) :
    s.step = (next, .answer true) ∨
      (∃ after leaf primitive calls stack?, s.step = (after, .draw leaf primitive calls) ∧
        after.snapshot = .ok stack? ∧
        next = ({ after with calls := calls.reverse ++ after.calls } : Scheduler).enter
          (.primitive primitive.name) leaf.location? stack?) ∨
      ∃ after fault stack?, s.step = (after, .report fault) ∧ after.snapshot = .ok stack? ∧
        next = (after.reportWith fault stack?).1 := by
  obtain ⟨after, work, stepped⟩ : ∃ after work, s.step = (after, work) := ⟨_, _, rfl⟩
  rw [beat?, stepped] at beat
  cases work with
  | answer more =>
    cases more with
    | true => exact Or.inl (Option.some.inj beat ▸ stepped)
    | false => contradiction
  | draw leaf primitive calls =>
    obtain ⟨stack?, recorded, same⟩ := log_eq_some beat
    exact Or.inr (Or.inl ⟨after, leaf, primitive, calls, stack?, stepped, recorded, same⟩)
  | report fault =>
    obtain ⟨stack?, recorded, same⟩ := report_eq_some beat
    exact Or.inr (Or.inr ⟨after, fault, stack?, stepped, recorded, same⟩)
  | halt phase => contradiction
  | fail failure => contradiction

theorem beat_fail {s next : Scheduler} {failure : Failure}
    (fails : s.step = (next, .fail failure)) :
    s.beat? = none := by
  rw [beat?, fails]

/-- What a beat can change. -/
theorem beat?_frame {s next : Scheduler} (beat : s.beat? = some next) :
    ∃ queue stack journal steps registry reports made,
      next = { s with
        queue := queue, stack := stack, journal := journal, steps := steps, registry := registry,
        reports := reports, calls := made ++ s.calls } := by
  obtain ⟨queue, stack, journal, steps, registry, frame⟩ := s.step_frame
  rcases beat?_cases beat with
    stepped | ⟨after, leaf, primitive, calls, stack?, stepped, _, rfl⟩ |
      ⟨after, fault, stack?, stepped, _, rfl⟩ <;> rw [stepped] at frame
  · exact ⟨_, _, _, _, _, _, [], frame⟩
  · obtain rfl : after = _ := frame
    exact ⟨_, _, _, _, _, _, calls.reverse, rfl⟩
  · obtain rfl : after = _ := frame
    exact ⟨_, _, _, _, _, _, [], rfl⟩

theorem beat?_settings {s next : Scheduler} (beat : s.beat? = some next) :
    next.settings = s.settings := by
  obtain ⟨queue, stack, journal, steps, registry, reports, made, rfl⟩ := beat?_frame beat
  rfl

/-- After a beat too the stack can be recorded. -/
theorem beat?_recordable {s next : Scheduler} (recordable : s.Recordable)
    (beat : s.beat? = some next) : next.Recordable := by
  rcases beat?_cases beat with
    stepped | ⟨after, leaf, primitive, calls, stack?, _, recorded, rfl⟩ |
      ⟨after, fault, stack?, _, recorded, rfl⟩
  · rcases step_recordable recordable with stays | ⟨failure, fails⟩
    · rwa [stepped] at stays
    · simp [stepped] at fails
  · exact Recordable.mono ⟨stack?, recorded⟩ rfl (List.Subset.refl _)
  · exact Recordable.mono ⟨stack?, recorded⟩ rfl (List.Subset.refl _)

/-- A step fails that has put a command on the stack that cannot be written down. -/
theorem step_unwritten {s t : Scheduler} {command : Command} {event : StepEvent}
    {at? : Option Location} (stepped : s.step = t.complete event at?)
    (loaded : Frame.ofCommand command ∈ t.stack) (unwritten : ¬t.settings.Writes command) :
    s.step = (t, .fail .unwritableNumber) := by
  rw [stepped]
  refine complete_of_unrecordable (fun recordable => unwritten ?_) event at?
  have written := (recordable_iff t).mp recordable _ loaded
  rwa [Frame.command_ofCommand] at written

inductive Beats : Nat → Scheduler → Scheduler → Prop where
  | zero (s : Scheduler) : Beats 0 s s
  | succ {count : Nat} {s next last : Scheduler} :
    s.beat? = some next → Beats count next last → Beats (count + 1) s last

theorem Beats.append {first second : Nat} {s middle last : Scheduler}
    (before : Beats first s middle) (after : Beats second middle last) :
    Beats (first + second) s last := by
  induction before with
  | zero s => simpa using after
  | succ beat _ ih =>
    rw [Nat.add_right_comm]
    exact .succ beat (ih after)

theorem Beats.settings {count : Nat} {s last : Scheduler} (beats : Beats count s last) :
    last.settings = s.settings := by
  induction beats with
  | zero => rfl
  | succ beat _ ih => exact ih.trans (beat?_settings beat)

theorem Beats.calls {count : Nat} {s last : Scheduler} (beats : Beats count s last) :
    ∃ made : List Call, last.calls = made.reverse ++ s.calls := by
  induction beats with
  | zero => exact ⟨[], rfl⟩
  | succ beat _ ih =>
    obtain ⟨queue, stack, journal, steps, registry, reports, first, rfl⟩ := beat?_frame beat
    obtain ⟨later, later_eq⟩ := ih
    exact ⟨first.reverse ++ later, by simp [later_eq]⟩

/-- A scheduler in the middle of a cycle that nobody has stopped. -/
structure Current (cycle : Nat) (s : Scheduler) : Prop where
  running : s.phase = .running
  live : s.live = true
  cycle_eq : s.cycle = cycle
  recordable : s.Recordable

/-- A running cycle with the world as it has left it so far, what is on the stack and what waits.
The drawing had been asked for some calls before the cycle began. -/
structure At (cycle : Nat) (before : List Call) (w : World) (stack : List Frame)
    (waiting : List Command) (s : Scheduler) : Prop extends Current cycle s where
  registry_eq : s.registry = w.registry
  calls_eq : s.calls = w.calls.reverse ++ before
  faults_eq : (s.faultsOf cycle).map Fault.unnumbered = w.faults
  stack_eq : s.stack = stack
  waiting_eq : s.queue.pending = waiting

section Current

variable {cycle : Nat} {s : Scheduler}

theorem Current.shows (here : s.Current cycle) {drawn before : List Call}
    (calls_eq : s.calls = drawn ++ before) :
    ∃ w, s.At cycle before w s.stack s.queue.pending :=
  ⟨⟨s.registry, drawn.reverse, (s.faultsOf cycle).map Fault.unnumbered⟩, {
    here with
    registry_eq := rfl
    calls_eq := by simp [calls_eq]
    faults_eq := rfl
    stack_eq := rfl
    waiting_eq := rfl }⟩

/-- A cycle without a further beat is exhausted, or its next step fails. -/
theorem Current.step_of_last (here : s.Current cycle) (last : s.beat? = none) :
    (s.stack = [] ∧ s.queue.pending = []) ∨ ∃ next failure, s.step = (next, .fail failure) := by
  obtain ⟨after, work, stepped⟩ : ∃ after work, s.step = (after, work) := ⟨_, _, rfl⟩
  have stays := step_recordable here.recordable
  rw [stepped] at stays
  rw [Scheduler.beat?, stepped] at last
  cases work with
  | answer more =>
    cases more with
    | true => simp at last
    | false => exact absurd here.running (Scheduler.step_eq_answer_false stepped)
  | draw leaf primitive calls =>
    obtain ⟨stack?, recorded⟩ : after.Recordable := by simpa using stays
    have same : ({ after with calls := calls.reverse ++ after.calls } : Scheduler).snapshot =
      .ok stack? := recorded
    simp [log, same, Except.map, Except.toOption] at last
  | report fault =>
    obtain ⟨stack?, recorded⟩ : after.Recordable := by simpa using stays
    simp [report, recorded, Except.map, Except.toOption] at last
  | halt phase =>
    rcases (Scheduler.step_eq_halt stepped).2 with ⟨stopped, _⟩ | ⟨_, _, empty, none, _⟩
    · simp [here.live] at stopped
    · have size := (s.queue.next?_eq_none_iff).mp none
      exact Or.inl ⟨empty, List.length_eq_zero_iff.mp size⟩
  | fail failure => exact Or.inr ⟨after, failure, stepped⟩

/-- A batch that is cued while no cycle is running begins one. -/
theorem Tidy.begins (tidy : s.Tidy) (rests : s.phase ≠ .running) (batch : List Command)
    (callback? : Option Nat) :
    (s.accept batch callback?).beginCycle.At (s.cycle + 1) s.calls
      ⟨s.registry.defineAll batch, [], []⟩ []
      (batch.filter fun command => !command.isDefinition) where
  running := rfl
  live := rfl
  cycle_eq := rfl
  recordable := recordable_of_nil (tidy.stack_eq rests)
  registry_eq := rfl
  calls_eq := rfl
  faults_eq := by
    have none : (s.accept batch callback?).beginCycle.faultsOf (s.cycle + 1) = [] := by
      simp only [Scheduler.faultsOf, List.reverse_eq_nil_iff, List.map_eq_nil_iff,
        List.filter_eq_nil_iff, decide_eq_true_eq]
      intro report member same
      have earlier := tidy.reported report member
      omega
    rw [none]
    rfl
  stack_eq := tidy.stack_eq rests
  waiting_eq := by
    simp [Scheduler.beginCycle, Scheduler.accept, CommandQueue.append, tidy.waiting_eq rests]

end Current

end Scheduler

/-- The frame of a loop of which some rounds have begun. -/
def Frame.ofLoop (count : Int) (body : List Command) (at? : Option Location) (begun : Nat) :
    Frame :=
  ⟨.loop count body at?, some begun, some body⟩

namespace Scheduler.At

variable {cycle : Nat} {before : List Call} {w : World} {below : List Frame}
  {waiting : List Command} {s : Scheduler}

theorem step_eq {frame : Frame} (here : s.At cycle before w (frame :: below) waiting) :
    s.step = ({ s with steps := s.steps + 1 } : Scheduler).advance frame below := by
  simp [step, here.running, here.live, here.stack_eq]

theorem written {stack : List Frame} (here : s.At cycle before w stack waiting) :
    ∀ frame ∈ stack, s.settings.Writes frame.command := by
  have written := (recordable_iff s).mp here.recordable
  rwa [here.stack_eq] at written

theorem moved {stack : List Frame} (here : s.At cycle before w stack waiting) (queue : CommandQueue)
    {other : List Frame} (written : ∀ frame ∈ other, s.settings.Writes frame.command)
    (journal : Journal StepEvent) (steps : Nat) :
    ({ s with queue := queue, stack := other, journal := journal, steps := steps } : Scheduler).At
      cycle before w other queue.pending :=
  { here with recordable := (recordable_iff _).mpr written, stack_eq := rfl, waiting_eq := rfl }

/-- The topmost frame is taken from the stack. -/
theorem popped {frame : Frame} (here : s.At cycle before w (frame :: below) waiting)
    (journal : Journal StepEvent) (steps : Nat) :
    ({ s with stack := below, journal := journal, steps := steps } : Scheduler).At cycle before w
      below waiting :=
  here.waiting_eq ▸
    here.moved s.queue (fun other member => here.written other (List.mem_cons_of_mem _ member))
      journal steps

theorem defined {stack : List Frame} (here : s.At cycle before w stack waiting) (name : String)
    (params : List String) (body : List Command) :
    (s.define name params body).At cycle before (w.define name params body) stack waiting :=
  { here with
    registry_eq := congrArg (fun registry => registry.define name params body) here.registry_eq }

theorem drawn {stack : List Frame} (here : s.At cycle before w stack waiting)
    (calls : List Call) :
    ({ s with calls := calls.reverse ++ s.calls } : Scheduler).At cycle before (w.draw calls) stack
      waiting :=
  { here with calls_eq := by simp [World.draw, here.calls_eq] }

theorem entered {stack : List Frame} (here : s.At cycle before w stack waiting)
    (event : StepEvent) (at? : Option Location) (stack? : Option (List String)) :
    (s.enter event at? stack?).At cycle before w stack waiting :=
  { here with }

theorem reported {stack : List Frame} (here : s.At cycle before w stack waiting) (fault : Fault)
    (stack? : Option (List String)) :
    (s.reportWith fault stack?).1.At cycle before (w.find fault.cause fault.at?) stack waiting :=
  { here with
    faults_eq := by
      have own : s.cycle = cycle := here.cycle_eq
      have earlier := here.faults_eq
      simp only [faultsOf, reportWith, addReport, enter, own, decide_true, List.filter_cons_of_pos,
        List.map_cons, List.reverse_cons, List.map_append, World.find] at earlier ⊢
      rw [earlier]
      rfl }

/-- The step is over when it has left a stack that can be recorded. -/
theorem step_complete {t : Scheduler} {stack : List Frame} {event : StepEvent}
    {at? : Option Location} (there : t.At cycle before w stack waiting)
    (stepped : s.step = t.complete event at?) :
    ∃ next, s.step = (next, .answer true) ∧ next.At cycle before w stack waiting := by
  obtain ⟨stack?, recorded⟩ := there.recordable
  rw [complete_of_snapshot recorded] at stepped
  exact ⟨_, stepped, there.entered event at? stack?⟩

theorem beat_complete {t : Scheduler} {stack : List Frame} {event : StepEvent}
    {at? : Option Location} (there : t.At cycle before w stack waiting)
    (stepped : s.step = t.complete event at?) :
    ∃ next, s.beat? = some next ∧ next.At cycle before w stack waiting := by
  obtain ⟨next, answers, done⟩ := there.step_complete stepped
  exact ⟨next, by rw [beat?, answers], done⟩

theorem beat_report {t : Scheduler} {stack : List Frame} {fault : Fault}
    (there : t.At cycle before w stack waiting) (stepped : s.step = (t, .report fault)) :
    ∃ next, s.beat? = some next ∧
      next.At cycle before (w.find fault.cause fault.at?) stack waiting := by
  obtain ⟨stack?, recorded⟩ := there.recordable
  refine ⟨_, ?_, there.reported fault stack?⟩
  rw [beat?, stepped]
  dsimp only
  rw [report, recorded]
  rfl

theorem beat_define {name : String} {params : List String} {body : List Command}
    {at? : Option Location}
    (here : s.At cycle before w (Frame.ofCommand (.define name params body at?) :: below) waiting) :
    ∃ next, s.beat? = some next ∧
      next.At cycle before (w.define name params body) below waiting :=
  ((here.popped s.journal (s.steps + 1)).defined name params body).beat_complete here.step_eq

section Loop

variable {count : Int} {body : List Command} {at? : Option Location} {begun : Nat}

/-- The frames of a body can be recorded if each of its commands can be written down. -/
theorem written_load {stack : List Frame} (here : s.At cycle before w stack waiting)
    (written : ∀ command ∈ body, s.settings.Writes command) :
    ∀ frame ∈ Frame.load body stack, s.settings.Writes frame.command := by
  intro frame member
  rcases List.mem_append.mp member with loaded | lower
  · obtain ⟨command, listed, rfl⟩ := List.mem_map.mp loaded
    rw [Frame.command_ofCommand]
    exact written command listed
  · exact here.written frame lower

theorem step_round (left : (begun : Int) < count)
    (here : s.At cycle before w (Frame.ofLoop count body at? begun :: below) waiting) :
    s.step =
      ({ s with
        steps := s.steps + 1,
        stack := Frame.load body (Frame.ofLoop count body at? (begun + 1) :: below) } :
          Scheduler).complete (.round (begun + 1)) at? := by
  rw [here.step_eq]
  simp only [advance, Frame.ofLoop, left, if_true]

theorem beat_round (left : (begun : Int) < count)
    (written : ∀ command ∈ body, s.settings.Writes command)
    (here : s.At cycle before w (Frame.ofLoop count body at? begun :: below) waiting) :
    ∃ next, s.beat? = some next ∧
      next.At cycle before w
        (Frame.load body (Frame.ofLoop count body at? (begun + 1) :: below)) waiting := by
  have again : ({ s with stack := Frame.ofLoop count body at? (begun + 1) :: below } :
      Scheduler).At cycle before w (Frame.ofLoop count body at? (begun + 1) :: below) waiting := by
    have counted : ∀ frame ∈ Frame.ofLoop count body at? (begun + 1) :: below,
        s.settings.Writes frame.command := by
      refine List.forall_mem_cons.mpr ⟨?_, fun frame member => ?_⟩
      · exact here.written (Frame.ofLoop count body at? begun) (List.mem_cons_self ..)
      · exact here.written frame (List.mem_cons_of_mem _ member)
    exact here.waiting_eq ▸ here.moved s.queue counted s.journal s.steps
  have loaded := again.moved s.queue (again.written_load written) s.journal (s.steps + 1)
  exact beat_complete (here.waiting_eq ▸ loaded) (here.step_round left)

theorem beat_over (complete : ¬(begun : Int) < count)
    (here : s.At cycle before w (Frame.ofLoop count body at? begun :: below) waiting) :
    ∃ next, s.beat? = some next ∧ next.At cycle before w below waiting := by
  have stepped : s.step = ({ s with stack := below, steps := s.steps + 1 } : Scheduler).complete
      .roundsOver at? := by
    rw [here.step_eq]
    simp only [advance, Frame.ofLoop, complete, if_false]
  exact (here.popped s.journal (s.steps + 1)).beat_complete stepped

end Loop

section Leaf

variable {op : String} {args : List String} {at? : Option Location}

/-- The step on a leaf takes it from the stack and operates on what is left. -/
theorem step_leaf
    (here : s.At cycle before w (Frame.ofCommand (.leaf op args at?) :: below) waiting) :
    ∃ popped : Scheduler, popped.settings = s.settings ∧ popped.At cycle before w below waiting ∧
      s.step = popped.operate op args at? :=
  ⟨{ s with steps := s.steps + 1, stack := below }, rfl, here.popped s.journal (s.steps + 1),
    here.step_eq⟩

theorem step_call {procedure : Procedure} {body : List Command}
    (found : w.registry.get? op = some procedure) (bound : procedure.bind args at? = .ok body)
    (here : s.At cycle before w (Frame.ofCommand (.leaf op args at?) :: below) waiting) :
    ∃ popped : Scheduler, popped.settings = s.settings ∧ popped.At cycle before w below waiting ∧
      s.step = ({ popped with stack := Frame.load body below } : Scheduler).complete
        (.call procedure.name) at? := by
  obtain ⟨popped, settings_eq, there, stepped⟩ := here.step_leaf
  have lookup : popped.registry.get? op = some procedure := there.registry_eq ▸ found
  refine ⟨popped, settings_eq, there, ?_⟩
  rw [stepped, operate, lookup]
  simp only [bound, there.stack_eq]

theorem beat_call {procedure : Procedure} {body : List Command}
    (found : w.registry.get? op = some procedure) (bound : procedure.bind args at? = .ok body)
    (written : ∀ command ∈ body, s.settings.Writes command)
    (here : s.At cycle before w (Frame.ofCommand (.leaf op args at?) :: below) waiting) :
    ∃ next, s.beat? = some next ∧ next.At cycle before w (Frame.load body below) waiting := by
  obtain ⟨popped, settings_eq, there, stepped⟩ := here.step_call found bound
  rw [← settings_eq] at written
  have loaded :=
    there.moved popped.queue (there.written_load written) popped.journal popped.steps
  exact beat_complete (there.waiting_eq ▸ loaded) stepped

theorem beat_refused {procedure : Procedure} {fault : Fault}
    (found : w.registry.get? op = some procedure) (refused : procedure.bind args at? = .error fault)
    (here : s.At cycle before w (Frame.ofCommand (.leaf op args at?) :: below) waiting) :
    ∃ next, s.beat? = some next ∧
      next.At cycle before (w.find fault.cause fault.at?) below waiting := by
  obtain ⟨popped, _, there, stepped⟩ := here.step_leaf
  have lookup : popped.registry.get? op = some procedure := there.registry_eq ▸ found
  exact there.beat_report (by rw [stepped]; simp only [operate, lookup, refused])

theorem beat_unknown (undefined : w.registry.get? op = none) (unknown : Primitive.ofWord? op = none)
    (here : s.At cycle before w (Frame.ofCommand (.leaf op args at?) :: below) waiting) :
    ∃ next, s.beat? = some next ∧
      next.At cycle before (w.find (.unknownOperator op) at?) below waiting := by
  obtain ⟨popped, _, there, stepped⟩ := here.step_leaf
  have lookup : popped.registry.get? op = none := there.registry_eq ▸ undefined
  have refused : s.step = (popped, .report ⟨.unknownOperator op, at?, none⟩) := by
    rw [stepped]
    simp only [operate, lookup, unknown]
  exact there.beat_report refused

theorem beat_unfit {primitive : Primitive} {cause : FaultCause}
    (undefined : w.registry.get? op = none) (known : Primitive.ofWord? op = some primitive)
    (unfit : primitive.calls args = .error cause)
    (here : s.At cycle before w (Frame.ofCommand (.leaf op args at?) :: below) waiting) :
    ∃ next, s.beat? = some next ∧ next.At cycle before (w.find cause at?) below waiting := by
  obtain ⟨popped, _, there, stepped⟩ := here.step_leaf
  have lookup : popped.registry.get? op = none := there.registry_eq ▸ undefined
  have refused : s.step = (popped, .report ⟨cause, at?, none⟩) := by
    rw [stepped]
    simp only [operate, lookup, known, unfit]
  exact there.beat_report refused

theorem step_draw {primitive : Primitive} {calls : List Call}
    (undefined : w.registry.get? op = none) (known : Primitive.ofWord? op = some primitive)
    (fit : primitive.calls args = .ok calls)
    (here : s.At cycle before w (Frame.ofCommand (.leaf op args at?) :: below) waiting) :
    ∃ next, s.step = (next, .draw (.leaf op args at?) primitive calls) ∧
      next.At cycle before w below waiting := by
  obtain ⟨popped, _, there, stepped⟩ := here.step_leaf
  have lookup : popped.registry.get? op = none := there.registry_eq ▸ undefined
  exact ⟨popped, by rw [stepped]; simp only [operate, lookup, known, fit], there⟩

theorem beat_draw {primitive : Primitive} {calls : List Call}
    (undefined : w.registry.get? op = none) (known : Primitive.ofWord? op = some primitive)
    (fit : primitive.calls args = .ok calls)
    (here : s.At cycle before w (Frame.ofCommand (.leaf op args at?) :: below) waiting) :
    ∃ next, s.beat? = some next ∧ next.At cycle before (w.draw calls) below waiting := by
  obtain ⟨next, stepped, there⟩ := here.step_draw undefined known fit
  have drawn := there.drawn calls
  obtain ⟨stack?, recorded⟩ := drawn.recordable
  refine ⟨_, ?_, drawn.entered (.primitive primitive.name) at? stack?⟩
  rw [beat?, stepped]
  dsimp only
  rw [log, recorded]
  rfl

end Leaf

theorem beat_stray {shown? : Option String}
    (here : s.At cycle before w (Frame.ofCommand (.stray shown?) :: below) waiting) :
    s.beat? = none := by
  rw [beat?, here.step_eq]
  rfl

theorem step_dequeue {command : Command} (here : s.At cycle before w [] (command :: waiting)) :
    s.step =
      ({ s with
        steps := s.steps + 1, queue := ⟨waiting, s.queue.cursor + 1⟩,
        stack := [Frame.ofCommand command] } : Scheduler).complete .dequeue command.location? := by
  have taken : s.queue.next? = some (command, ⟨waiting, s.queue.cursor + 1⟩) := by
    simp [CommandQueue.next?, here.waiting_eq]
  simp [step, here.running, here.live, here.stack_eq, taken]

theorem step_taken {command : Command} (written : s.settings.Writes command)
    (here : s.At cycle before w [] (command :: waiting)) :
    ∃ next, s.step = (next, .answer true) ∧
      next.At cycle before w [Frame.ofCommand command] waiting := by
  have alone : ∀ frame ∈ [Frame.ofCommand command], s.settings.Writes frame.command :=
    List.forall_mem_singleton.mpr (by rwa [Frame.command_ofCommand])
  exact (here.moved ⟨waiting, s.queue.cursor + 1⟩ alone s.journal (s.steps + 1)).step_complete
    here.step_dequeue

theorem beat_dequeue {command : Command} (written : s.settings.Writes command)
    (here : s.At cycle before w [] (command :: waiting)) :
    ∃ next, s.beat? = some next ∧ next.At cycle before w [Frame.ofCommand command] waiting := by
  obtain ⟨next, answers, done⟩ := here.step_taken written
  exact ⟨next, by rw [beat?, answers], done⟩

/-! What cannot be written down makes the step fail that puts it on the stack. -/

theorem round_cases {count : Int} {body : List Command} {at? : Option Location} {begun : Nat}
    (left : (begun : Int) < count)
    (here : s.At cycle before w (Frame.ofLoop count body at? begun :: below) waiting) :
    (∃ next, s.beat? = some next ∧
        next.At cycle before w
          (Frame.load body (Frame.ofLoop count body at? (begun + 1) :: below)) waiting) ∨
      (∃ command ∈ body, ¬s.settings.Writes command) ∧
        ∃ next, s.step = (next, .fail .unwritableNumber) := by
  by_cases written : ∀ command ∈ body, s.settings.Writes command
  · exact Or.inl (here.beat_round left written)
  · push Not at written
    obtain ⟨command, member, unwritten⟩ := written
    exact Or.inr ⟨⟨command, member, unwritten⟩, _,
      step_unwritten (here.step_round left) (Frame.mem_load member _) unwritten⟩

theorem call_cases {op : String} {args : List String} {at? : Option Location}
    {procedure : Procedure} {body : List Command} (found : w.registry.get? op = some procedure)
    (bound : procedure.bind args at? = .ok body)
    (here : s.At cycle before w (Frame.ofCommand (.leaf op args at?) :: below) waiting) :
    (∃ next, s.beat? = some next ∧ next.At cycle before w (Frame.load body below) waiting) ∨
      (∃ command ∈ body, ¬s.settings.Writes command) ∧
        ∃ next, s.step = (next, .fail .unwritableNumber) := by
  by_cases written : ∀ command ∈ body, s.settings.Writes command
  · exact Or.inl (here.beat_call found bound written)
  · push Not at written
    obtain ⟨command, member, unwritten⟩ := written
    obtain ⟨popped, settings_eq, _, stepped⟩ := here.step_call found bound
    refine Or.inr ⟨⟨command, member, unwritten⟩, _,
      step_unwritten stepped (Frame.mem_load member _) ?_⟩
    rwa [← settings_eq] at unwritten

theorem dequeue_cases {command : Command} (here : s.At cycle before w [] (command :: waiting)) :
    (∃ next, s.beat? = some next ∧ next.At cycle before w [Frame.ofCommand command] waiting) ∨
      ¬s.settings.Writes command ∧ ∃ next, s.step = (next, .fail .unwritableNumber) := by
  by_cases written : s.settings.Writes command
  · exact Or.inl (here.beat_dequeue written)
  · exact Or.inr
      ⟨written, _, step_unwritten here.step_dequeue (List.mem_singleton_self _) written⟩

theorem step_exhausted (here : s.At cycle before w [] []) :
    s.step = ({ s with steps := s.steps + 1 }, .halt .exhausted) := by
  have none : s.queue.next? = none := by simp [CommandQueue.next?, here.waiting_eq]
  simp [step, here.running, here.live, here.stack_eq, none]

end Scheduler.At

end Turtle
