import Turtle.Proofs.Play

/-!
# Attending environments

An environment in which nobody does anything but what a run asks for.  Foreign code returns as soon
as it is called, except that the drawing may stop the cycle, and may fail, at any of its calls; and
code outside of everything lets the oldest timer go off, until none is pending.  A run in such an
environment is determined by its beginning, and it keeps the moments that it consists of.
-/

set_option autoImplicit false

namespace Turtle

/-- What the drawing does at one of its calls: it may stop the cycle, and then it returns or
fails. -/
structure Manner where
  stops : Bool
  failure? : Option Failure

namespace Manner

def leave (manner : Manner) : Engine.Move :=
  match manner.failure? with
  | none => .finish
  | some failure => .raise failure

def move (manner : Manner) : Signal → Engine.Move
  | .called => if manner.stops then .stop else manner.leave
  | _ => manner.leave

end Manner

namespace Engine

/-- The move of an environment that attends to a run.  The manner of a call of the drawing depends
on its number. -/
def answer? (manner : Nat → Manner) (e : Engine) : Option Move :=
  match e.site? with
  | none => none
  | some .outside => if e.sched.timers.isEmpty then none else some (.fire 0)
  | some (.drawing _) => some ((manner e.sched.calls.length).move e.signal)
  | some _ => some .finish

def moment? (manner : Nat → Manner) (e : Engine) : Option Moment :=
  match e.next? with
  | some next => some ⟨e, .work, next⟩
  | none => (e.answer? manner).map fun move => ⟨e, .move move, e.perform move⟩

/-- The run from an engine on, turn by turn, with the moments in front of those that were there. -/
def follow (manner : Nat → Manner) : (fuel : Nat) → List Moment → Engine → List Moment × Engine
  | 0, past, e => (past, e)
  | fuel + 1, past, e =>
    match e.moment? manner with
    | none => (past, e)
    | some m => follow manner fuel (m :: past) m.after

def Ends (manner : Nat → Manner) (start : Engine) (past : List Moment) (final : Engine) : Prop :=
  ∃ fuel, follow manner fuel [] start = (past, final) ∧ final.moment? manner = none

variable {manner : Nat → Manner} {e : Engine} {past : List Moment}

theorem moment?_of_next {next : Engine} (worked : e.next? = some next) :
    e.moment? manner = some ⟨e, .work, next⟩ := by
  rw [moment?, worked]

theorem moment?_of_answer {s : Scheduler} {site : Site} {tasks : List Task} {signal : Signal}
    {move : Move} (answered : answer? manner ⟨s, .foreign site :: tasks, signal⟩ = some move) :
    moment? manner ⟨s, .foreign site :: tasks, signal⟩ =
      some ⟨⟨s, .foreign site :: tasks, signal⟩, .move move,
        perform ⟨s, .foreign site :: tasks, signal⟩ move⟩ := by
  rw [moment?, next?_eq_none_of_foreign, answered]
  rfl

theorem follow_of_none (none : e.moment? manner = none) (fuel : Nat) :
    follow manner fuel past e = (past, e) := by
  cases fuel with
  | zero => rfl
  | succ fuel => rw [follow, none]

theorem follow_add (first second : Nat) (past : List Moment) (e : Engine) :
    follow manner (first + second) past e =
      follow manner second (follow manner first past e).1 (follow manner first past e).2 := by
  induction first generalizing past e with
  | zero => rw [Nat.zero_add, follow]
  | succ first ih =>
    rw [Nat.add_right_comm, follow, follow]
    cases taken : e.moment? manner with
    | none => exact (follow_of_none taken second).symm
    | some m => exact ih _ _

theorem follow_succ_of_none {fuel : Nat} {start now : Engine} {earlier past : List Moment}
    (followed : follow manner fuel earlier start = (past, now))
    (none : now.moment? manner = none) :
    follow manner (fuel + 1) earlier start = (past, now) := by
  rw [follow_add, followed, follow_of_none none]

theorem follow_succ_of_some {fuel : Nat} {start now : Engine} {earlier past : List Moment}
    {m : Moment} (followed : follow manner fuel earlier start = (past, now))
    (taken : now.moment? manner = some m) :
    follow manner (fuel + 1) earlier start = (m :: past, m.after) := by
  rw [follow_add, followed]
  simp only [follow, taken]

theorem Ends.unique {start final final' : Engine} {past past' : List Moment}
    (ends : Ends manner start past final) (ends' : Ends manner start past' final') :
    past = past' ∧ final = final' := by
  obtain ⟨m, followed, stuck⟩ := ends
  obtain ⟨n, followed', stuck'⟩ := ends'
  have left : follow manner (m + n) [] start = (past, final) := by
    rw [follow_add, followed, follow_of_none stuck]
  have right : follow manner (n + m) [] start = (past', final') := by
    rw [follow_add, followed', follow_of_none stuck']
  rw [Nat.add_comm, right] at left
  exact ⟨(Prod.mk.inj left).1.symm, (Prod.mk.inj left).2.symm⟩

theorem exists_follow (manner : Nat → Manner) (start : Engine) (fuel : Nat)
    (leads : Engine → Bool)
    (checked : (((follow manner fuel [] start).2.moment? manner).isNone &&
      leads (follow manner fuel [] start).2) = true) :
    ∃ past final, follow manner fuel [] start = (past, final) ∧ final.moment? manner = none ∧
      leads final = true := by
  rw [Bool.and_eq_true, Option.isNone_iff_eq_none] at checked
  exact ⟨_, _, rfl, checked⟩

end Engine

end Turtle
