import Turtle.Proofs.Chronicle
import Turtle.Proofs.Lowered
import Turtle.Proofs.Refinement
import Turtle.Proofs.WordForWord
import Turtle.Session.Basic

/-!
# Calls from outside

A call from outside is looked at twice: when it is made, and again when the leaf that stands for it
is carried out.  Both agree on the procedure and on whether it accepts the arguments, so that a call
which was not refused is carried out as a call, whatever primitive its name stands for besides.
-/

set_option autoImplicit false

namespace Turtle

namespace Registry

variable {registry : Registry} {name : String} {procedure : Procedure}

section Found

variable (found : registry.get? name = some procedure) {args : List Value}
include found

end Found

end Registry

namespace Scheduler

variable {cycle : Nat} {before : List Call} {w : World} {s : Scheduler} {waiting : List Command}

section Leaf

variable {op : String} {args : List String} {at? : Option Location}

theorem At.dequeues (here : s.At cycle before w [] (.leaf op args at? :: waiting)) :
    ∃ next, s.step = (next, .answer true) ∧ next.settings = s.settings ∧
      next.At cycle before w [Frame.ofCommand (.leaf op args at?)] waiting ∧
      s.journal.Writes next.journal (some .dequeue) := by
  have alone : ∀ frame ∈ [Frame.ofCommand (.leaf op args at?)], s.settings.Writes frame.command :=
    List.forall_mem_singleton.mpr fun _ => Option.some_ne_none _
  have there := here.moved ⟨waiting, s.queue.cursor + 1⟩ alone s.journal (s.steps + 1)
  obtain ⟨stack?, recorded⟩ := there.recordable
  have stepped := here.step_dequeue
  rw [complete_of_snapshot recorded] at stepped
  exact ⟨_, stepped, rfl, there.entered _ _ stack?, _, stack?, rfl⟩

/-- A call is taken up, or it fails because its body cannot be recorded. -/
theorem At.takes_up {procedure : Procedure} {body : List Command} {below : List Frame}
    (found : w.registry.get? op = some procedure) (bound : procedure.bind args at? = .ok body)
    (here : s.At cycle before w (Frame.ofCommand (.leaf op args at?) :: below) waiting) :
    (∃ next, s.step = (next, .answer true) ∧ next.settings = s.settings ∧
        next.At cycle before w (Frame.load body below) waiting ∧
        s.journal.Writes next.journal (some (.call procedure.name))) ∨
      (∃ command ∈ body, ¬s.settings.Writes command) ∧
        ∃ next, s.step = (next, .fail .unwritableNumber) := by
  refine (here.call_cases found bound).imp_left ?_
  rintro ⟨next, beat, there⟩
  have writes : s.journal.Writes next.journal (some (.call procedure.name)) := by
    refine here.writes beat ?_
    simp only [Frame.event?, Frame.ofCommand, Registry.eventOf, found, bound]
  obtain ⟨popped, _, _, stepped⟩ := here.step_call found bound
  rcases complete_cases _ (.call procedure.name) at? with
    ⟨stack?, _, completed⟩ | ⟨_, completed⟩ <;> rw [completed] at stepped
  · rw [beat?, stepped] at beat
    obtain rfl := Option.some.inj beat
    have settings_eq := s.step_settings
    rw [stepped] at settings_eq
    exact ⟨_, stepped, settings_eq, there, writes⟩
  · rw [beat_fail stepped] at beat
    contradiction

end Leaf

end Scheduler

namespace Engine

open StateTransition

/-- A call from outside is performed: its cycle begins with taking the call from the queue and
taking it up as a call of the procedure, and after that the bound body is all there is to do.  The
cycle is exhausted if and only if the body has a chronicle, and then what has been drawn, reported,
defined and logged is told by this.  Only if stacks are recorded, and the body cannot be, the call
is not taken up, and the run fails. -/
structure Performs (s : Scheduler) (callback? : Option Nat) (name : String) (args : List String)
    (body : List Command) : Prop where
  called : ∃ begun dequeued : Scheduler,
    (∀ tasks, cue s [.command (.leaf name args none)] callback? tasks =
      ⟨begun, .starting :: tasks, .returned⟩) ∧
    begun.step = (dequeued, .answer true) ∧ s.journal.Records [.dequeue] dequeued.journal ∧
    ((∃ loaded, dequeued.step = (loaded, .answer true) ∧
        loaded.At (s.cycle + 1) s.calls ⟨s.registry, [], []⟩ (Frame.load body []) [] ∧
        s.journal.Records [.dequeue, .call name] loaded.journal) ∨
      (∃ command ∈ body, ¬s.settings.Writes command) ∧
        ∃ final, Aborts s [.command (.leaf name args none)] callback? .unwritableNumber final)
  exhausts_iff : (∃ final, Exhausts s [.command (.leaf name args none)] callback? final) ↔
    ∃ events w, Chronicles s.settings.verbose (.all body) ⟨s.registry, [], []⟩ events w
  shows : ∀ {final : Scheduler} {events : List StepEvent} {w : World},
    Exhausts s [.command (.leaf name args none)] callback? final →
      Chronicles s.settings.verbose (.all body) ⟨s.registry, [], []⟩ events w →
      final.cycle = s.cycle + 1 ∧ final.registry = w.registry ∧
        final.calls = w.calls.reverse ++ s.calls ∧
        final.faults.map Fault.unnumbered = w.faults ∧
        s.journal.Records (.dequeue :: .call name :: (events ++ [.halt .exhausted])) final.journal

section Called

variable {s : Scheduler} {procedure : Procedure} {op : String} {args : List String}
  {body : List Command}

theorem executes_body {verbose : Bool} {w w' : World}
    (found : w.registry.get? op = some procedure) (bound : procedure.bind args none = .ok body)
    (executes : Executes verbose (.all [.leaf op args none]) w w') :
    Executes verbose (.all body) w w' := by
  cases executes with
  | next first rest =>
    cases rest
    cases first with
    | call found' bound' executes =>
      obtain rfl := Option.some.inj (found.symm.trans found')
      obtain rfl := Except.ok.inj (bound.symm.trans bound')
      exact executes
    | refused found' refused =>
      obtain rfl := Option.some.inj (found.symm.trans found')
      rw [bound] at refused
      contradiction
    | unknown undefined _ => simp [found] at undefined
    | unfit undefined _ _ => simp [found] at undefined
    | draw undefined _ _ => simp [found] at undefined

variable (tidy : s.Tidy) (rests : s.phase ≠ .running)
include tidy rests

theorem plain_of_call (plain : s.settings.animate = false) (unobserved : s.observers = [])
    (callback? : Option Nat) :
    (s.accept [.leaf op args none] callback?).beginCycle.Plain (s.cycle + 1) :=
  ⟨(tidy.begins rests [.leaf op args none] callback?).toCurrent, plain, unobserved⟩

/-- A call whose body cannot be recorded fails at the step that takes it up. -/
theorem aborts_of_unwritten (plain : s.settings.animate = false) (unobserved : s.observers = [])
    {callback? : Option Nat} {dequeued next : Scheduler}
    (stepped : (s.accept [.leaf op args none] callback?).beginCycle.step = (dequeued, .answer true))
    (fails : dequeued.step = (next, .fail .unwritableNumber)) :
    ∃ final, Aborts s [.command (.leaf op args none)] callback? .unwritableNumber final :=
  aborts_of_beats (plain_of_call tidy rests plain unobserved callback?)
    (obliging_cue rests plain rfl callback?)
    (.succ (by rw [Scheduler.beat?, stepped]) (.zero dequeued)) fails

variable (plain : s.settings.animate = false) (unobserved : s.observers = [])
  (found : s.registry.get? op = some procedure) (bound : procedure.bind args none = .ok body)
  (callback? : Option Nat)
include found bound

/-- The first two steps of the cycle of a call. -/
theorem steps_of_call :
    ∃ dequeued : Scheduler,
      (s.accept [.leaf op args none] callback?).beginCycle.step = (dequeued, .answer true) ∧
      s.journal.Records [.dequeue] dequeued.journal ∧
      ((∃ loaded, dequeued.step = (loaded, .answer true) ∧ loaded.settings = s.settings ∧
          loaded.At (s.cycle + 1) s.calls ⟨s.registry, [], []⟩ (Frame.load body []) [] ∧
          s.journal.Records [.dequeue, .call procedure.name] loaded.journal) ∨
        (∃ command ∈ body, ¬s.settings.Writes command) ∧
          ∃ next, dequeued.step = (next, .fail .unwritableNumber)) := by
  have begun := tidy.begins rests [.leaf op args none] callback?
  obtain ⟨dequeued, stepped, settings_eq, there, writes⟩ := begun.dequeues
  refine ⟨dequeued, stepped, .single writes, ?_⟩
  rcases there.takes_up found bound with
    ⟨loaded, stepped', settings_eq', here, writes'⟩ | ⟨unwritten, fails⟩
  · exact Or.inl ⟨loaded, stepped', settings_eq'.trans settings_eq, here,
      .next writes (.single writes')⟩
  · rw [settings_eq] at unwritten
    exact Or.inr ⟨unwritten, fails⟩

include plain unobserved

theorem exhausts_of_chronicles {events : List StepEvent} {w : World}
    (chronicles : Chronicles s.settings.verbose (.all body) ⟨s.registry, [], []⟩ events w) :
    ∃ final, Exhausts s [.command (.leaf op args none)] callback? final ∧
      final.cycle = s.cycle + 1 ∧ final.registry = w.registry ∧
      final.calls = w.calls.reverse ++ s.calls ∧
      final.faults.map Fault.unnumbered = w.faults ∧
      s.journal.Records (.dequeue :: .call procedure.name :: (events ++ [.halt .exhausted]))
        final.journal := by
  obtain ⟨dequeued, stepped, _, taken⟩ := steps_of_call tidy rests found bound callback?
  obtain ⟨loaded, stepped', settings_eq, here, records⟩ :=
    taken.resolve_right fun ⟨⟨command, member, unwritten⟩, _⟩ =>
      unwritten (chronicles.executes.writes_all command member)
  obtain ⟨count, last, beats, ended, later⟩ := chronicles.beats settings_eq (.all body) here
  obtain ⟨_, reaches⟩ :=
    reaches_of_beats (plain_of_call tidy rests plain unobserved callback?)
      (.succ (by rw [Scheduler.beat?, stepped]) (.succ (by rw [Scheduler.beat?, stepped']) beats))
  refine ⟨(({ last with steps := last.steps + 1 } : Scheduler).endCycle .exhausted).1,
    Engine.exhausts_iff.mpr ⟨rfl, ?_⟩, ended.cycle_eq, ended.registry_eq, ended.calls_eq, ?_, ?_⟩
  · rw [obliging_cue rests plain rfl callback?]
    exact mem_eval.mpr ⟨reaches.tail (course_exhausted ended.step_exhausted), rfl⟩
  · have faults_eq := ended.faults_eq
    rw [← ended.cycle_eq] at faults_eq
    exact faults_eq
  · exact records.append (later.append (.single ⟨_, _, rfl⟩))

theorem executes_of_exhausted {final : Scheduler}
    (exhausts : Exhausts s [.command (.leaf op args none)] callback? final) :
    ∃ w, Executes s.settings.verbose (.all body) ⟨s.registry, [], []⟩ w := by
  obtain ⟨w, executes⟩ := executes_of_exhausts tidy rests plain unobserved
    (show commands [.command (.leaf op args none)] = .ok [.leaf op args none] from rfl) exhausts
  exact ⟨w, executes_body found bound executes⟩

end Called

theorem performs {s : Scheduler} {procedure : Procedure} {args : List String} {body : List Command}
    (tidy : s.Tidy) (rests : s.phase ≠ .running) (plain : s.settings.animate = false)
    (unobserved : s.observers = []) (found : s.registry.get? procedure.name = some procedure)
    (bound : procedure.bind args none = .ok body) (callback? : Option Nat) :
    Performs s callback? procedure.name args body where
  called := by
    obtain ⟨dequeued, stepped, records, taken⟩ := steps_of_call tidy rests found bound callback?
    refine ⟨_, dequeued, fun tasks => cue_of_rest rests (by simp [plain]) unobserved rfl, stepped,
      records, ?_⟩
    rcases taken with ⟨loaded, stepped', _, here, records'⟩ | ⟨unwritten, next, fails⟩
    · exact Or.inl ⟨loaded, stepped', here, records'⟩
    · exact Or.inr ⟨unwritten,
        aborts_of_unwritten tidy rests plain unobserved stepped fails⟩
  exhausts_iff := by
    constructor
    · rintro ⟨final, exhausts⟩
      obtain ⟨w, executes⟩ :=
        executes_of_exhausted tidy rests plain unobserved found bound callback? exhausts
      obtain ⟨events, chronicles⟩ := executes.chronicles (show (Chapter.all body).job = _ from rfl)
      exact ⟨events, w, chronicles⟩
    · rintro ⟨events, w, chronicles⟩
      obtain ⟨final, exhausts, _⟩ :=
        exhausts_of_chronicles tidy rests plain unobserved found bound callback? chronicles
      exact ⟨final, exhausts⟩
  shows := by
    intro final events w exhausts chronicles
    obtain ⟨other, same, shows⟩ :=
      exhausts_of_chronicles tidy rests plain unobserved found bound callback? chronicles
    obtain rfl := exhausts_unique exhausts same
    exact shows

end Engine

namespace Session

variable {e : Engine} {name : String} {args : List Value} {fault : Fault}

/-- A call from outside is refused: whoever asked for it is handed the fault, and nothing else
happens. -/
def Refuses (e : Engine) (name : String) (args : List Value) (fault : Fault) : Prop :=
  ∀ (session : Session) (rest : Agenda) (outer : List Agenda)
    (onComplete? : Option (String × List Act)),
    session.begin e rest outer (.invoke name args onComplete?) =
      ({ session with agendas := { rest with outcome := .refused fault } :: outer },
        { e with signal := .returned })

/-- A call from outside fails at once: whoever asked for it is handed the failure, and nothing else
happens. -/
def Breaks (e : Engine) (name : String) (args : List Value) (failure : Failure) : Prop :=
  ∀ (session : Session) (rest : Agenda) (outer : List Agenda)
    (onComplete? : Option (String × List Act)),
    session.begin e rest outer (.invoke name args onComplete?) =
      ({ session with agendas := rest :: outer }, { e with signal := .raised failure })

end Session

namespace Engine

end Engine

end Turtle
