import Turtle.Run.Engine

/-!
# Plays

A play is an engine together with an environment, turn by turn: while foreign code has control the
environment makes a move, and otherwise the engine goes on by itself.  Nothing is said about which
move is made, so that what holds of all plays holds whatever foreign code does, and in whatever
order.

A play keeps its moments, newest first.  What happened in it is read off them.
-/

set_option autoImplicit false

namespace Turtle

/-- The moves that a site has at all.  Code outside of everything has nowhere to return to, and
nothing is put in place by hand. -/
def Site.offers : Site → Engine.Move → Bool
  | _, .prime => false
  | _, .enqueue _ => false
  | .outside, .finish => false
  | .outside, .raise _ => false
  | _, _ => true

/-- Rules tell which of the moves that a site has may be made there. -/
abbrev Rules := Site → Engine.Move → Bool

def Rules.free : Rules := fun _ _ => true

inductive Turn where
  | work
  | move (move : Engine.Move)

/-- A turn that was taken, with the engine before and after it. -/
structure Moment where
  before : Engine
  turn : Turn
  after : Engine

namespace Engine

def turn? (rules : Rules) (e : Engine) : Turn → Option Engine
  | .work => e.next?
  | .move move =>
    match e.site? with
    | none => none
    | some site => if site.offers move && rules site move then some (e.perform move) else none

/-- The engine after some turns, and the moments in front of those that were there. -/
def play? (rules : Rules) : List Moment → Engine → List Turn → Option (List Moment × Engine)
  | past, e, [] => some (past, e)
  | past, e, turn :: turns =>
    match e.turn? rules turn with
    | none => none
    | some next => play? rules (⟨e, turn, next⟩ :: past) next turns

/-- Code outside of everything has control, and nothing is in progress. -/
def Outside (e : Engine) : Prop :=
  e.tasks = [.foreign .outside]

def isOutside (e : Engine) : Bool :=
  match e.tasks with
  | [.foreign .outside] => true
  | _ => false

theorem isOutside_eq_true_iff (e : Engine) : e.isOutside = true ↔ e.Outside := by
  unfold isOutside Outside
  split
  · rename_i same
    simp [same]
  · rename_i other
    simpa using other

instance (e : Engine) : Decidable e.Outside :=
  decidable_of_iff _ e.isOutside_eq_true_iff

/-- The scheduler of which a turn takes a step. -/
def stepping? (e : Engine) : Turn → Option Scheduler
  | .work =>
    match e.signal, e.tasks with
    | .returned, .starting :: _ => some e.sched
    | .answered true, .running :: _ => some e.sched
    | _, _ => none
  | .move .step => some e.sched
  | .move (.fire position) =>
    match e.sched.timers[position]? with
    | some timer =>
      if timer.generation = e.sched.generation then
        some { e.sched with timers := e.sched.timers.eraseIdx position }
      else none
    | none => none
  | .move _ => none

theorem stepping?_phase (e : Engine) {turn : Turn} {s : Scheduler}
    (stepping : e.stepping? turn = some s) : s.phase = e.sched.phase := by
  unfold stepping? at stepping
  split at stepping
  · split at stepping
    · obtain rfl := Option.some.inj stepping
      rfl
    · obtain rfl := Option.some.inj stepping
      rfl
    · simp at stepping
  · obtain rfl := Option.some.inj stepping
    rfl
  · split at stepping
    · split at stepping
      · obtain rfl := Option.some.inj stepping
        rfl
      · simp at stepping
    · simp at stepping
  · simp at stepping

end Engine

/-- The plays that begin with an engine: the moments so far, newest first, and the engine now. -/
inductive Plays (rules : Rules) (start : Engine) : List Moment → Engine → Prop where
  | start : Plays rules start [] start
  | turn {past : List Moment} {e next : Engine} {turn : Turn} :
    Plays rules start past e → e.turn? rules turn = some next →
      Plays rules start (⟨e, turn, next⟩ :: past) next

namespace Plays

variable {rules : Rules} {start : Engine}

theorem of_play?_from {earlier past : List Moment} {e now : Engine} {turns : List Turn}
    (begun : Plays rules start earlier e)
    (played : Engine.play? rules earlier e turns = some (past, now)) :
    Plays rules start past now := by
  induction turns generalizing earlier e with
  | nil =>
    simp only [Engine.play?, Option.some.injEq, Prod.mk.injEq] at played
    obtain ⟨rfl, rfl⟩ := played
    exact begun
  | cons turn turns ih =>
    rw [Engine.play?] at played
    cases taken : e.turn? rules turn with
    | none => simp [taken] at played
    | some next =>
      rw [taken] at played
      exact ih (begun.turn taken) played

theorem of_play? {past : List Moment} {now : Engine} {turns : List Turn}
    (played : Engine.play? rules [] start turns = some (past, now)) :
    Plays rules start past now :=
  of_play?_from .start played

theorem exists_of_play? (rules : Rules) (start : Engine) (turns : List Turn)
    (leads : List Moment → Engine → Bool)
    (played : (Engine.play? rules [] start turns).any (fun r => leads r.1 r.2) = true) :
    ∃ past now, Plays rules start past now ∧ leads past now = true := by
  rw [Option.any_eq_true] at played
  obtain ⟨⟨past, now⟩, found, holds⟩ := played
  exact ⟨past, now, of_play? found, holds⟩

/-- The last turn of a play, and the play before it. -/
theorem last {past : List Moment} {m : Moment} {now : Engine}
    (played : Plays rules start (m :: past) now) :
    Plays rules start past m.before ∧ m.before.turn? rules m.turn = some m.after ∧
      m.after = now := by
  cases played with
  | turn before taken => exact ⟨before, taken, rfl⟩

theorem unique {past : List Moment} {now other : Engine} (played : Plays rules start past now)
    (again : Plays rules start past other) : now = other := by
  cases past with
  | nil =>
    cases played
    cases again
    rfl
  | cons m past => exact played.last.2.2.symm.trans again.last.2.2

/-- A play up to an earlier moment. -/
theorem of_append {later past : List Moment} {now : Engine}
    (played : Plays rules start (later ++ past) now) : ∃ middle, Plays rules start past middle := by
  induction later generalizing now with
  | nil => exact ⟨now, played⟩
  | cons m later ih => exact ih played.last.1

/-- The cycle that was current when the task at some height was begun. -/
def cycleAt (height : Nat) : List Moment → Nat
  | [] => 0
  | m :: past =>
    if m.before.tasks.length < height then m.after.sched.cycle else cycleAt height past

/-- What holds at the start and is kept by every turn holds in every play. -/
theorem preserves (holds : Engine → Prop) (initially : holds start)
    (kept : ∀ e turn next, holds e → e.turn? rules turn = some next → holds next)
    {past : List Moment} {now : Engine} (played : Plays rules start past now) : holds now := by
  induction played with
  | start => exact initially
  | turn _ taken ih => exact kept _ _ _ ih taken

end Plays

end Turtle
