import Turtle.Run.Engine

/-!
# The protocol of a cycle

What observers and callbacks see of a run is cut into cycles.  A cycle has its start announced, then
the primitives that are drawn and the faults that are reported, in whatever order they come, and
then its end, which may leave one fault to be reported; after that its callbacks are called.  Each
announcement is made to the observers that are attached when it begins, one after another, until one
of them fails.

The grammar of such cycles is given twice: as the traces of cycles that are put together from their
parts, and as stages that what happens leads through, one after another.  The stages lead through
whole cycles only, and perhaps some first part of a further one.
-/

set_option autoImplicit false

namespace Turtle

/-- What happens to foreign code in a play. -/
inductive Occurrence where
  /-- A primitive goes to the drawing, which is to be asked for some calls. -/
  | dispatched (leaf : Command) (calls : List Call)
  | asked (call : Call)
  /-- An announcement begins, to some observers. -/
  | announced (notice : Notice) (audience : List Nat)
  | told (id : Nat) (notice : Notice)
  /-- The observer that has just been told fails. -/
  | failed (notice : Notice) (failure : Failure)
  | called (callback : Nat) (result : RunResult)

def Notice.isError : Notice → Bool
  | onError _ => true
  | _ => false

/-! ## Cycles and their traces -/

/-- An announcement, the observers that were told of it, and the failure that has ended it. -/
structure Emission where
  notice : Notice
  audience : List Nat
  told : List Nat
  failure? : Option Failure

namespace Emission

def trace (emission : Emission) : List Occurrence :=
  .announced emission.notice emission.audience ::
    (emission.told.map (.told · emission.notice) ++
      emission.failure?.toList.map (.failed emission.notice))

/-- The whole audience has been told, or all up to the first one that has failed. -/
def Whole (emission : Emission) : Prop :=
  match emission.failure? with
  | none => emission.told = emission.audience
  | some _ => emission.told ≠ [] ∧ emission.told <+: emission.audience

end Emission

/-- What a cycle is made of between its start and its end. -/
inductive Incident where
  | drawn (leaf : Command) (calls : List Call) (emission : Emission)
  | reported (emission : Emission)

namespace Incident

def trace : Incident → List Occurrence
  | drawn leaf calls emission => .dispatched leaf calls :: (calls.map .asked ++ emission.trace)
  | reported emission => emission.trace

/-- A primitive is announced when the drawing has been asked for all of its calls, and a fault is
announced when it has been reported. -/
inductive Proper : Incident → Prop where
  | drawn {leaf : Command} (calls : List Call) {emission : Emission} :
    emission.notice = .afterPrimitive leaf → emission.Whole → Proper (.drawn leaf calls emission)
  | reported {fault : Fault} {emission : Emission} :
    emission.notice = .onError fault → emission.Whole → Proper (.reported emission)

end Incident

structure Cycle where
  start : Emission
  course : List Incident
  finish : Emission
  /-- The report of the fault that an observer of the end has left. -/
  complaint? : Option Emission
  result : RunResult
  called : List Nat

namespace Cycle

/-- What happens in a cycle before its end is announced. -/
def opening (start : Emission) (course : List Incident) : List Occurrence :=
  start.trace ++ course.flatMap Incident.trace

def trace (cycle : Cycle) : List Occurrence :=
  opening cycle.start cycle.course ++
    (cycle.finish.trace ++
      (cycle.complaint?.toList.flatMap Emission.trace ++
        cycle.called.map (.called · cycle.result)))

structure Proper (cycle : Cycle) : Prop where
  start_eq : cycle.start.notice = .programStart
  start_whole : cycle.start.Whole
  course_proper : ∀ incident ∈ cycle.course, incident.Proper
  finish_eq : cycle.finish.notice = .programEnd cycle.result
  finish_whole : cycle.finish.Whole
  /-- A fault is reported after the end if and only if an observer of the end has failed. -/
  complains : cycle.complaint?.isSome = cycle.finish.failure?.isSome
  complaint_proper : ∀ emission ∈ cycle.complaint?, (Incident.reported emission).Proper

end Cycle

/-! ## Stages -/

/-- How far a trace has come. -/
inductive Stage where
  /-- No cycle has begun, or all of them are over. -/
  | between
  /-- A cycle has begun, and nothing is being announced. -/
  | within
  /-- The drawing is still to be asked for some calls of a primitive. -/
  | drawing (leaf : Command) (left : List Call)
  /-- Observers are being told; some are left, and somebody has been told.  The cycle may have
  ended, with a result. -/
  | telling (notice : Notice) (left : List Nat) (begun : Bool) (result? : Option RunResult)
  /-- The end of a cycle has been announced, and perhaps it has left a fault. -/
  | ended (result : RunResult) (complains : Bool)

namespace Stage

/-- The stage that an announcement leads to. -/
def after (complains : Bool) : Option RunResult → Stage
  | none => within
  | some result => ended result complains

/-- What may happen next, and where it leads.  Stages are counted with the cycles that are over. -/
inductive Step : Nat → Stage → Option Occurrence → Nat → Stage → Prop where
  | begin (n : Nat) (audience : List Nat) :
    Step n between (some (.announced .programStart audience)) n
      (telling .programStart audience false none)
  | dispatch (n : Nat) (leaf : Command) (calls : List Call) :
    Step n within (some (.dispatched leaf calls)) n (drawing leaf calls)
  | ask (n : Nat) (leaf : Command) (call : Call) (left : List Call) :
    Step n (drawing leaf (call :: left)) (some (.asked call)) n (drawing leaf left)
  | draw (n : Nat) (leaf : Command) (audience : List Nat) :
    Step n (drawing leaf []) (some (.announced (.afterPrimitive leaf) audience)) n
      (telling (.afterPrimitive leaf) audience false none)
  | report (n : Nat) (fault : Fault) (audience : List Nat) :
    Step n within (some (.announced (.onError fault) audience)) n
      (telling (.onError fault) audience false none)
  | finish (n : Nat) (result : RunResult) (audience : List Nat) : result.cycle = n + 1 →
    Step n within (some (.announced (.programEnd result) audience)) n
      (telling (.programEnd result) audience false (some result))
  | complain (n : Nat) (result : RunResult) (fault : Fault) (audience : List Nat) :
    Step n (ended result true) (some (.announced (.onError fault) audience)) n
      (telling (.onError fault) audience false (some result))
  | tell (n : Nat) (notice : Notice) (id : Nat) (left : List Nat) (begun : Bool)
    (result? : Option RunResult) :
    Step n (telling notice (id :: left) begun result?) (some (.told id notice)) n
      (telling notice left true result?)
  | fail (n : Nat) (notice : Notice) (left : List Nat) (result? : Option RunResult)
    (failure : Failure) :
    Step n (telling notice left true result?) (some (.failed notice failure)) n
      (after (!notice.isError) result?)
  | finishTelling (n : Nat) (notice : Notice) (begun : Bool) (result? : Option RunResult) :
    Step n (telling notice [] begun result?) none n (after false result?)
  | call (n : Nat) (result : RunResult) (callback : Nat) :
    Step n (ended result false) (some (.called callback result)) n (ended result false)
  | close (n : Nat) (result : RunResult) : Step n (ended result false) none (n + 1) between

inductive Steps : Nat → Stage → List Occurrence → Nat → Stage → Prop where
  | refl (n : Nat) (stage : Stage) : Steps n stage [] n stage
  | cons {n m k : Nat} {first second last : Stage} {occurrence? : Option Occurrence}
    {later : List Occurrence} : Step n first occurrence? m second → Steps m second later k last →
    Steps n first (occurrence?.toList ++ later) k last

theorem Steps.append {n m k : Nat} {first second last : Stage} {trace later : List Occurrence}
    (steps : Steps n first trace m second) (steps' : Steps m second later k last) :
    Steps n first (trace ++ later) k last := by
  induction steps with
  | refl => exact steps'
  | cons step _ ih =>
    rw [List.append_assoc]
    exact .cons step (ih steps')

theorem Step.single {n m : Nat} {first second : Stage} {occurrence : Occurrence}
    (step : Step n first (some occurrence) m second) : Steps n first [occurrence] m second :=
  .cons step (.refl m second)

theorem Step.silent {n m : Nat} {first second : Stage} (step : Step n first none m second) :
    Steps n first [] m second :=
  .cons step (.refl m second)

end Stage

/-! ## Stages lead through cycles -/

namespace Cycle

/-- What has happened in a cycle that has begun and has not ended. -/
inductive Begun : List Occurrence → Prop where
  | intro {start : Emission} {course : List Incident} : start.notice = .programStart →
    start.Whole → (∀ incident ∈ course, incident.Proper) → Begun (opening start course)

theorem Begun.incident {trace : List Occurrence} (begun : Begun trace) {incident : Incident}
    (proper : incident.Proper) : Begun (trace ++ incident.trace) := by
  obtain @⟨start, course, start_eq, whole, course_proper⟩ := begun
  have longer : opening start course ++ incident.trace = opening start (course ++ [incident]) := by
    simp [opening]
  rw [longer]
  refine .intro start_eq whole fun other member => ?_
  rcases List.mem_append.mp member with earlier | last
  · exact course_proper other earlier
  · rw [List.mem_singleton.mp last]
    exact proper

/-- What has happened in a cycle when an announcement begins. -/
inductive Announcing : Notice → Option RunResult → List Occurrence → Prop where
  | start : Announcing .programStart none []
  | drawn {trace : List Occurrence} (leaf : Command) (calls : List Call) : Begun trace →
    Announcing (.afterPrimitive leaf) none (trace ++ .dispatched leaf calls :: calls.map .asked)
  | reported {trace : List Occurrence} (fault : Fault) : Begun trace →
    Announcing (.onError fault) none trace
  | finish {trace : List Occurrence} (result : RunResult) : Begun trace →
    Announcing (.programEnd result) (some result) trace
  | complaint {trace : List Occurrence} {finish : Emission} (result : RunResult) (fault : Fault) :
    Begun trace → finish.notice = .programEnd result → finish.Whole →
    finish.failure?.isSome = true →
    Announcing (.onError fault) (some result) (trace ++ finish.trace)

end Cycle

namespace Stage

open Turtle.Cycle

/-- What has happened since the last cycle was over. -/
inductive Reached : Stage → List Occurrence → Prop where
  | between : Reached between []
  | within {trace : List Occurrence} : Begun trace → Reached within trace
  | drawing {trace : List Occurrence} (leaf : Command) (asked left : List Call) : Begun trace →
    Reached (drawing leaf left)
      (trace ++ .dispatched leaf (asked ++ left) :: asked.map .asked)
  | telling {trace : List Occurrence} {notice : Notice} {result? : Option RunResult}
    (told left : List Nat) (begun : Bool) : Announcing notice result? trace →
    (begun = true → told ≠ []) →
    Reached (telling notice left begun result?)
      (trace ++ Emission.trace ⟨notice, told ++ left, told, none⟩)
  | complaining {trace : List Occurrence} {finish : Emission} {result : RunResult} : Begun trace →
    finish.notice = .programEnd result → finish.Whole → finish.failure?.isSome = true →
    Reached (ended result true) (trace ++ finish.trace)
  | ended {cycle : Cycle} : cycle.Proper → Reached (ended cycle.result false) cycle.trace

/-- A whole announcement leads on. -/
theorem reached_after {trace : List Occurrence} {emission : Emission} {result? : Option RunResult}
    (announcing : Announcing emission.notice result? trace) (whole : emission.Whole) :
    Reached (after (emission.failure?.isSome && !emission.notice.isError) result?)
      (trace ++ emission.trace) := by
  generalize same : emission.notice = notice at announcing
  cases announcing with
  | start =>
    have opened : opening emission [] = [] ++ emission.trace := by simp [opening]
    exact .within (opened ▸ .intro same whole (by simp))
  | @drawn trace leaf calls begun =>
    have longer := begun.incident (.drawn calls same whole)
    rw [List.append_assoc]
    exact .within longer
  | reported fault begun => exact .within (begun.incident (.reported same whole))
  | finish result begun =>
    cases failed : emission.failure? with
    | some failure => exact .complaining begun same whole (by rw [failed]; rfl)
    | none =>
      obtain @⟨start, course, start_eq, start_whole, course_proper⟩ := begun
      have proper : Cycle.Proper ⟨start, course, emission, none, result, []⟩ := {
        start_eq := start_eq
        start_whole := start_whole
        course_proper := course_proper
        finish_eq := same
        finish_whole := whole
        complains := by rw [failed]; rfl
        complaint_proper := by simp }
      simpa [Cycle.trace, after] using Reached.ended proper
  | @complaint trace finish result fault begun finish_eq finish_whole failed =>
    obtain @⟨start, course, start_eq, start_whole, course_proper⟩ := begun
    have proper : Cycle.Proper ⟨start, course, finish, some emission, result, []⟩ := {
      start_eq := start_eq
      start_whole := start_whole
      course_proper := course_proper
      finish_eq := finish_eq
      finish_whole := finish_whole
      complains := failed.symm
      complaint_proper := by
        intro complaint member
        obtain rfl := Option.mem_some.mp member
        exact .reported same whole }
    simpa [Cycle.trace, Notice.isError, after] using Reached.ended proper

/-- The result of the cycle that has ended. -/
def result? : Stage → Option RunResult
  | telling _ _ _ result? => result?
  | ended result _ => some result
  | _ => none

/-- A trace is cut into whole cycles, which are numbered in their order, and some first part of a
further one. -/
def Splits (trace : List Occurrence) (n : Nat) (stage : Stage) : Prop :=
  ∃ (cycles : List Cycle) (rest : List Occurrence),
    trace = cycles.flatMap Cycle.trace ++ rest ∧ (∀ cycle ∈ cycles, cycle.Proper) ∧
      cycles.map (·.result.cycle) = List.range' 1 n ∧ Reached stage rest ∧
        ∀ result ∈ stage.result?, result.cycle = n + 1

theorem result?_after (complains : Bool) (result? : Option RunResult) :
    (after complains result?).result? = result? := by
  cases result? <;> rfl

/-- The last part of the trace grows. -/
theorem Splits.grow {trace : List Occurrence} {n : Nat} {stage stage' : Stage}
    {occurrence? : Option Occurrence} (splits : Splits trace n stage)
    (reached : ∀ rest, Reached stage rest → Reached stage' (rest ++ occurrence?.toList))
    (numbered : ∀ result ∈ stage'.result?, result ∈ stage.result? ∨ result.cycle = n + 1) :
    Splits (trace ++ occurrence?.toList) n stage' := by
  obtain ⟨cycles, rest, rfl, proper, numbers, before, number⟩ := splits
  refine ⟨cycles, rest ++ occurrence?.toList, List.append_assoc .., proper, numbers,
    reached rest before, fun result member => ?_⟩
  rcases numbered result member with earlier | last
  · exact number result earlier
  · exact last

/-- An announcement begins. -/
theorem reached_announced {rest : List Occurrence} {notice : Notice} {result? : Option RunResult}
    (audience : List Nat) (announcing : Announcing notice result? rest) :
    Reached (telling notice audience false result?)
      (rest ++ [.announced notice audience]) :=
  .telling [] audience false announcing (by simp)

theorem Splits.step {trace : List Occurrence} {n m : Nat} {stage stage' : Stage}
    {occurrence? : Option Occurrence} (splits : Splits trace n stage)
    (step : Step n stage occurrence? m stage') : Splits (trace ++ occurrence?.toList) m stage' := by
  cases step with
  | begin audience =>
    refine splits.grow (fun rest reached => ?_) (by simp [Stage.result?])
    cases reached
    exact reached_announced audience .start
  | dispatch leaf calls =>
    refine splits.grow (fun rest reached => ?_) (by simp [Stage.result?])
    cases reached with
    | within begun => exact .drawing leaf [] calls begun
  | ask leaf call left =>
    refine splits.grow (fun rest reached => ?_) (by simp [Stage.result?])
    cases reached with
    | drawing _ asked _ begun =>
      have longer := Reached.drawing leaf (asked ++ [call]) left begun
      simpa using longer
  | draw leaf audience =>
    refine splits.grow (fun rest reached => ?_) (by simp [Stage.result?])
    cases reached with
    | drawing _ asked _ begun =>
      rw [List.append_nil]
      exact reached_announced audience (.drawn leaf asked begun)
  | report fault audience =>
    refine splits.grow (fun rest reached => ?_) (by simp [Stage.result?])
    cases reached with
    | within begun => exact reached_announced audience (.reported fault begun)
  | finish result audience number =>
    refine splits.grow (fun rest reached => ?_) (by simp [Stage.result?, number])
    cases reached with
    | within begun => exact reached_announced audience (.finish result begun)
  | complain result fault audience =>
    refine splits.grow (fun rest reached => ?_) (by simp [Stage.result?])
    cases reached with
    | complaining begun finish_eq whole failed =>
      exact reached_announced audience (.complaint result fault begun finish_eq whole failed)
  | tell notice id left begun result? =>
    refine splits.grow (fun rest reached => ?_) (fun _ member => Or.inl member)
    cases reached with
    | telling told _ _ announcing _ =>
      have longer := Reached.telling (told ++ [id]) left true announcing (by simp)
      simpa [Emission.trace] using longer
  | fail notice left result? failure =>
    refine splits.grow (fun rest reached => ?_)
      (fun _ member => Or.inl (result?_after _ result? ▸ member))
    cases reached with
    | telling told _ _ announcing begun =>
      have whole : Emission.Whole ⟨notice, told ++ left, told, some failure⟩ :=
        ⟨begun rfl, List.prefix_append told left⟩
      simpa [Emission.trace] using reached_after announcing whole
  | finishTelling notice begun result? =>
    refine splits.grow (fun rest reached => ?_)
      (fun _ member => Or.inl (result?_after _ result? ▸ member))
    cases reached with
    | telling told _ _ announcing _ =>
      have whole : Emission.Whole ⟨notice, told ++ [], told, none⟩ := (List.append_nil told).symm
      simpa [Emission.trace] using reached_after announcing whole
  | call result callback =>
    refine splits.grow (fun rest reached => ?_) (by simp [Stage.result?])
    cases reached with
    | @ended cycle proper =>
      have longer : Cycle.Proper { cycle with called := cycle.called ++ [callback] } :=
        { proper with }
      simpa [Cycle.trace] using Reached.ended longer
  | close result =>
    obtain ⟨cycles, rest, rfl, proper, numbers, reached, number⟩ := splits
    cases reached with
    | @ended cycle whole =>
      refine ⟨cycles ++ [cycle], [], by simp, ?_, ?_, .between, by simp [Stage.result?]⟩
      · intro other member
        rcases List.mem_append.mp member with earlier | last
        · exact proper other earlier
        · rw [List.mem_singleton.mp last]
          exact whole
      · rw [List.map_append, numbers, List.range'_1_concat]
        simp [number cycle.result rfl, Nat.add_comm]

theorem Splits.steps {trace later : List Occurrence} {n m : Nat} {stage stage' : Stage}
    (splits : Splits trace n stage) (steps : Steps n stage later m stage') :
    Splits (trace ++ later) m stage' := by
  induction steps generalizing trace with
  | refl => simpa using splits
  | cons step _ ih =>
    rw [← List.append_assoc]
    exact ih (splits.step step)

theorem splits_nil : Splits [] 0 between :=
  ⟨[], [], rfl, by simp, rfl, .between, by simp [Stage.result?]⟩

/-! ## Whatever has begun can be brought to an end -/

theorem extends_of_begun {trace : List Occurrence} (begun : Begun trace) :
    ∃ cycle : Cycle, cycle.Proper ∧ trace <+: cycle.trace := by
  obtain @⟨start, course, start_eq, start_whole, course_proper⟩ := begun
  let result : RunResult := ⟨.exhausted, 0, 0⟩
  refine ⟨⟨start, course, ⟨.programEnd result, [], [], none⟩, none, result, []⟩, ?_,
    List.prefix_append _ _⟩
  exact {
    start_eq := start_eq
    start_whole := start_whole
    course_proper := course_proper
    finish_eq := rfl
    finish_whole := rfl
    complains := rfl
    complaint_proper := by simp }

theorem extends_of_after {result? : Option RunResult} {rest : List Occurrence}
    (reached : Reached (after false result?) rest) :
    ∃ cycle : Cycle, cycle.Proper ∧ rest <+: cycle.trace := by
  cases result? with
  | none =>
    cases reached with
    | within begun => exact extends_of_begun begun
  | some result =>
    cases reached with
    | ended proper => exact ⟨_, proper, List.prefix_rfl⟩

/-- What has happened since the last cycle was over is the first part of some cycle. -/
theorem Reached.extends {stage : Stage} {rest : List Occurrence} (reached : Reached stage rest) :
    ∃ cycle : Cycle, cycle.Proper ∧ rest <+: cycle.trace := by
  -- Whatever is missing is announced to nobody.
  let unheard (notice : Notice) : Emission := ⟨notice, [], [], none⟩
  cases reached with
  | between =>
    have begun : Begun (opening (unheard .programStart) []) := .intro rfl rfl (by simp)
    obtain ⟨cycle, proper, _⟩ := extends_of_begun begun
    exact ⟨cycle, proper, List.nil_prefix⟩
  | within begun => exact extends_of_begun begun
  | @drawing trace leaf asked left begun =>
    have drawn : (Incident.drawn leaf (asked ++ left) (unheard (.afterPrimitive leaf))).Proper :=
      .drawn _ rfl rfl
    obtain ⟨cycle, proper, longer⟩ := extends_of_begun (begun.incident drawn)
    refine ⟨cycle, proper, List.IsPrefix.trans ?_ longer⟩
    simp [Incident.trace]
  | @telling trace notice result? told left begun announcing some =>
    have whole : Emission.Whole ⟨notice, told ++ left, told ++ left, none⟩ := rfl
    obtain ⟨cycle, proper, longer⟩ := extends_of_after (reached_after announcing whole)
    refine ⟨cycle, proper, List.IsPrefix.trans ?_ longer⟩
    simp [Emission.trace]
  | @complaining trace finish result begun finish_eq whole failed =>
    let fault : Fault := ⟨.unknownOperator "", none, none⟩
    have announcing : Announcing (.onError fault) (some result) (trace ++ finish.trace) :=
      .complaint result fault begun finish_eq whole failed
    have reported : (unheard (.onError fault)).Whole := rfl
    obtain ⟨cycle, proper, longer⟩ := extends_of_after (reached_after announcing reported)
    exact ⟨cycle, proper, (List.prefix_append _ _).trans longer⟩
  | ended proper => exact ⟨_, proper, List.prefix_rfl⟩

end Stage

end Turtle
