import Turtle.Proofs.Likeness
import Turtle.Proofs.Simulation

/-!
# Obliging environments

The simplest of all environments lets foreign code return as soon as it is called, up to whoever is
outside: its host does nothing.  With nobody watching, an engine that takes steps without pauses
then goes from beat to beat, until its cycle ends.
-/

set_option autoImplicit false

namespace Turtle.Engine

open StateTransition

def oblige (_ : Unit) (e : Engine) : Option (Unit × Engine) :=
  match e.site? with
  | none => none
  | some .outside => none
  | some _ => some ((), e.perform .finish)

/-- The host that does nothing. -/
def obliging : Host Unit where
  draw _ _ _ := ((), ⟨false, none⟩)
  tell _ _ _ := ()
  hear _ _ _ _ := ()

/-- The course of a run in which nobody does anything, outside either. -/
def obligingCourse : Scene Unit → Option (Scene Unit) :=
  obliging.course fun _ _ _ => none

theorem serves_oblige : Serves oblige obliging where
  draws _ _ _ _ := .single rfl
  tells _ _ _ _ _ _ := .single rfl
  hears _ _ _ _ _ := .single rfl

theorem respects_oblige :
    Respects obligingCourse (turn oblige) fun scene p => scene.engine = p :=
  serves_oblige.respects (fun _ _ _ _ acted => nomatch acted) fun _ _ _ _ => rfl

section Plain

variable {s next : Scheduler} {tasks : List Task}

theorem announce_of_unobserved (unobserved : s.observers = []) (notice : Notice) :
    announce s notice tasks = ⟨s, tasks, .returned⟩ := by
  simp [announce, Scheduler.observersOf, unobserved, tell]

theorem cue_of_rest {entries : List Value} {batch : List Command} {callback? : Option Nat}
    (rests : s.phase ≠ .running)
    (clocked : s.settings.animate = true → s.settings.clocked = true)
    (unobserved : s.observers = []) (coerced : commands entries = .ok batch) :
    cue s entries callback? tasks =
      ⟨(s.accept batch callback?).beginCycle, .starting :: tasks, .returned⟩ := by
  have unobserved' : (s.accept batch callback?).beginCycle.observers = [] := unobserved
  have admitted : ¬(s.settings.animate && !s.settings.clocked) = true := by simpa using clocked
  rw [cue, coerced]
  simp only [rests, decide_false, Bool.false_and, Bool.false_eq_true, if_false]
  rw [receive, if_neg rests, if_neg admitted, announce_of_unobserved unobserved']

theorem report_of_unobserved (unobserved : s.observers = []) {stack? : Option (List String)}
    (recorded : s.snapshot = .ok stack?) (fault : Fault) :
    report s fault tasks = ⟨(s.reportWith fault stack?).1, tasks, .returned⟩ := by
  rw [report_of_snapshot recorded, Scheduler.observersOf, unobserved]
  rfl

theorem pause_of_plain (plain : s.settings.animate = false) :
    pause s tasks = ⟨s, tasks, .answered true⟩ := by
  simp [pause, plain]

/-! ## Beats of an obliging run -/

theorem draws_obliging (count : Nat) (calls : List Call) : obliging.Draws () count calls () := by
  induction calls generalizing count with
  | nil => exact .nothing () count
  | cons call rest ih => exact .call rfl (ih _)

/-- Without pauses a beat is all that happens between two steps. -/
theorem course_beat (plain : s.settings.animate = false) (beat : s.beat? = some next) :
    obligingCourse (.stepping () s) = some (.stepping () next) := by
  have settled := s.step_settings
  refine congrArg some ?_
  rcases Scheduler.beat?_cases beat with
    stepped | ⟨after, leaf, primitive, calls, stack?, stepped, recorded, rfl⟩ |
      ⟨after, fault, stack?, stepped, recorded, rfl⟩
  · rw [Host.beat, stepped]
    rfl
  · rw [stepped] at settled
    have plain' : after.settings.animate = false := by rw [settled, plain]
    have recorded' : (after.drawn calls).snapshot = .ok stack? := recorded
    rw [Host.beat, stepped]
    dsimp only
    rw [Host.paint_of_draws (draws_obliging _ calls) leaf primitive,
      Host.paint_nil_of_snapshot recorded', Host.resume, if_neg]
    · rfl
    · simp [Scheduler.painted, Scheduler.enter, Scheduler.drawn, plain']
  · rw [Host.beat, stepped]
    dsimp only
    rw [Host.report_of_snapshot recorded]
    rfl

/-- A run that is exhausted comes back to whoever is outside. -/
theorem course_exhausted (halts : s.step = (next, .halt .exhausted)) :
    obligingCourse (.stepping () s) =
      some (.outside () (next.endCycle .exhausted).1 .returned) := by
  have running : next.phase = .running := by
    rw [show next = s.step.1 by rw [halts], s.step_phase, (Scheduler.step_eq_halt halts).1]
  refine congrArg some ?_
  rw [Host.beat_of_halt halts, Host.close_of_running running]
  rfl

/-- A run in which a step fails does not come back otherwise than with the failure. -/
theorem course_failed {failure : Failure} (fails : s.step = (next, .fail failure)) :
    ∃ closed, obligingCourse (.stepping () s) = some (.outside () closed (.raised failure)) := by
  refine ⟨(obliging.close () next .cancelled).2, congrArg some ?_⟩
  rw [Host.beat, fails]
  rfl

end Plain

end Turtle.Engine
