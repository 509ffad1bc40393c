import Turtle.Proofs.Pauses
import Turtle.Proofs.Solo
import Turtle.Proofs.Tidy

/-!
# Two runs abreast

A run without pauses and a run with pauses of the same batch, side by side, in environments of the
same manner.  They take the same turns, but for those in which the run with pauses leaves off and
waits for its timer.  So either both come to an end or neither does, and their ends are the same.
-/

set_option autoImplicit false

namespace Turtle

namespace Moment

/-- A timer is asked for. -/
def arms (m : Moment) : Bool :=
  m.before.sched.timers.length < m.after.sched.timers.length

theorem arms_of_arm {m : Moment} (armed : m.after.sched = m.before.sched.arm) : m.arms = true := by
  simp [arms, armed, Scheduler.arm]

theorem arms_of_le {m : Moment}
    (le : m.after.sched.timers.length ≤ m.before.sched.timers.length) : m.arms = false := by
  simpa [arms] using le

end Moment

namespace Plays

/-- How many timers have been asked for. -/
def armings (past : List Moment) : Nat :=
  past.countP Moment.arms

theorem armings_cons (m : Moment) (past : List Moment) :
    armings (m :: past) = armings past + m.arms.toNat := by
  cases armed : m.arms <;> simp [armings, armed]

end Plays

namespace Engine

open Plays

/-- A run without pauses, and a run with pauses that is at the same place, or that has left off and
waits while the other goes on. -/
inductive Abreast (callbacks : List Nat) (delay : Float) :
    List (Nat × RunResult) → Engine → Engine → Prop where
  | level {called : List (Nat × RunResult)} {e : Engine} : Solo callbacks called e →
    Abreast callbacks delay called e (e.withPauses delay)
  | leaving {s : Scheduler} : s.Going callbacks →
    Abreast callbacks delay [] ⟨s, loop, .answered true⟩
      ⟨(s.withPauses delay).arm, loop, .answered false⟩
  | waiting {s : Scheduler} : s.Going callbacks →
    Abreast callbacks delay [] ⟨s, loop, .answered true⟩
      ⟨(s.withPauses delay).arm, [.foreign .outside], .returned⟩

/-- Two runs abreast that have done the same so far; and the run with pauses has asked for a timer
for every primitive, but for one whose step is about to end. -/
structure Together (callbacks : List Nat) (delay : Float) (past : List Moment) (e : Engine)
    (past' : List Moment) (e' : Engine) : Prop where
  abreast : Abreast callbacks delay (calls past) e e'
  recorded_eq : recorded past' = recorded past
  calls_eq : calls past' = calls past
  armings_eq : armings past' + e'.isPausing.toNat = primitives past'

variable {callbacks : List Nat} {called : List (Nat × RunResult)} {delay : Float}
  {manner : Nat → Manner} {past past' : List Moment} {e e' : Engine} {s : Scheduler}

/-- Only a primitive that has been drawn lies on the loop with a pause before it. -/
theorem Solo.pausing_eq (solo : Solo callbacks called e) (pausing : e.isPausing = true) :
    called = [] ∧ ∃ s : Scheduler, s.Going callbacks ∧ e = ⟨s, .pausing :: loop, .returned⟩ := by
  cases solo with
  | pausing going => exact ⟨rfl, _, going, rfl⟩
  | left _ left => cases left <;> simp [isPausing] at pausing
  | _ => simp [isPausing, loop] at pausing

theorem Solo.uncued (solo : Solo callbacks called e) (batch : List Command)
    (callback? : Option Nat) (tasks : List Task) : e.tasks ≠ .cueing batch callback? :: tasks := by
  cases solo with
  | left _ left => cases left <;> simp
  | _ => simp [loop]

/-- Outside again, the cycle has ended and each callback has been called with its result. -/
theorem Solo.ended (solo : Solo callbacks called e) (outside : e.Outside) :
    ∃ result, e.sched.Over result ∧ called = callbacks.map fun id => (id, result) := by
  cases solo with
  | outside signal ended => exact ⟨_, ended, rfl⟩
  | left _ left => cases left <;> simp [Outside, loop] at outside
  | _ => simp [Outside, loop] at outside

theorem Together.turn {turn turn' : Turn} {next next' : Engine}
    (together : Together callbacks delay past e past' e')
    (abreast : Abreast callbacks delay (calls past ++ next.calling?.toList) next next')
    (logged : e'.sched.logged? next'.sched = e.sched.logged? next.sched)
    (called : next'.calling? = next.calling?)
    (armed : (Moment.mk e' turn' next').arms.toNat + next'.isPausing.toNat =
      e'.isPausing.toNat + (e.sched.logsPrimitive next.sched).toNat) :
    Together callbacks delay (⟨e, turn, next⟩ :: past) next
      (⟨e', turn', next'⟩ :: past') next' where
  abreast := abreast
  recorded_eq := by rw [recorded, recorded, together.recorded_eq, logged]
  calls_eq := by rw [calls, calls, together.calls_eq, called]
  armings_eq := by
    have before := together.armings_eq
    have same : e'.sched.logsPrimitive next'.sched = e.sched.logsPrimitive next.sched := by
      rw [Scheduler.logsPrimitive, logged, Scheduler.logsPrimitive]
    rw [primitives_cons, armings_cons]
    dsimp only
    rw [same]
    omega

/-- A turn that only the run with pauses takes: nothing comes of it. -/
theorem Together.wait {turn' : Turn} {next' : Engine}
    (together : Together callbacks delay past e past' e')
    (abreast : Abreast callbacks delay (calls past) e next')
    (same : next'.sched = e'.sched) (uncalled : next'.calling? = none)
    (pausing : next'.isPausing = e'.isPausing) :
    Together callbacks delay past e (⟨e', turn', next'⟩ :: past') next' := by
  have unlogged : e'.sched.logged? next'.sched = none := Scheduler.logged?_of_same (by rw [same])
  have unarmed : Moment.arms ⟨e', turn', next'⟩ = false :=
    Moment.arms_of_le (Nat.le_of_eq (by rw [same]))
  refine ⟨abreast, ?_, ?_, ?_⟩
  · rw [recorded, unlogged, Option.toList_none, List.append_nil]
    exact together.recorded_eq
  · rw [calls, uncalled, Option.toList_none, List.append_nil]
    exact together.calls_eq
  · rw [primitives_cons, armings_cons, unarmed, pausing, Scheduler.logsPrimitive, unlogged]
    exact together.armings_eq

theorem Together.both {turn : Turn} {next : Engine}
    (together : Together callbacks delay past e past' (e.withPauses delay))
    (solo : Solo callbacks (calls past) e) (pausing : e.isPausing = false)
    (goes : e.moment? manner = some ⟨e, turn, next⟩)
    (there : Goes callbacks (calls past) e.sched next) :
    (e.withPauses delay).moment? manner =
        some ⟨e.withPauses delay, turn, next.withPauses delay⟩ ∧
      Together callbacks delay (⟨e, turn, next⟩ :: past) next
        (⟨e.withPauses delay, turn, next.withPauses delay⟩ :: past') (next.withPauses delay) := by
  have going : ∀ tasks, e.tasks ≠ .pausing :: tasks := by
    intro tasks same
    simp [isPausing, same] at pausing
  constructor
  · rw [moment?_withPauses delay manner e going solo.uncued solo.quiet.untimed, goes]
    rfl
  · refine together.turn (.level there.solo) rfl rfl ?_
    have untimed : (next.withPauses delay).sched.timers = [] := there.solo.quiet.untimed
    rw [Moment.arms_of_le (by simp [untimed]), there.logs]
    show 0 + next.isPausing.toNat = e.isPausing.toNat + next.isPausing.toNat
    rw [pausing]
    rfl

/-- At a pause the one run goes on to its next step, and the other asks for a timer. -/
theorem Together.part {s : Scheduler}
    (together : Together callbacks delay past ⟨s, .pausing :: loop, .returned⟩ past'
      ⟨s.withPauses delay, .pausing :: loop, .returned⟩)
    (uncalled : calls past = []) (going : s.Going callbacks) :
    Together callbacks delay
      (⟨⟨s, .pausing :: loop, .returned⟩, .work, pause s loop⟩ :: past) (pause s loop)
      (⟨⟨s.withPauses delay, .pausing :: loop, .returned⟩, .work,
        pause (s.withPauses delay) loop⟩ :: past') (pause (s.withPauses delay) loop) := by
  rw [pause_of_plain going.plain, pause_withPauses delay s loop going.running]
  refine together.turn (uncalled ▸ .leaving going) rfl rfl ?_
  have unlogged : s.logsPrimitive s = false := Scheduler.logsPrimitive_of_same rfl
  rw [Moment.arms_of_arm rfl, unlogged]
  rfl

/-- When the timer goes off the two runs take the same step. -/
theorem Together.resume {s : Scheduler} {signal : Signal}
    (together : Together callbacks delay past ⟨s, loop, .answered true⟩ past'
      ⟨(s.withPauses delay).arm, [.foreign .outside], signal⟩)
    (uncalled : calls past = []) (going : s.Going callbacks) :
    Together callbacks delay (⟨⟨s, loop, .answered true⟩, .work, takeStep s loop⟩ :: past)
      (takeStep s loop)
      (⟨⟨(s.withPauses delay).arm, [.foreign .outside], signal⟩, .move (.fire 0),
        (takeStep s loop).withPauses delay⟩ :: past') ((takeStep s loop).withPauses delay) := by
  have there := goes_takeStep going
  have untimed : ((takeStep s loop).withPauses delay).sched.timers = [] :=
    there.solo.quiet.untimed
  refine together.turn (uncalled ▸ .level there.solo) rfl rfl ?_
  rw [Moment.arms_of_le (by simp [untimed]), there.logs]
  rfl

/-- Where the run without pauses goes on, so does the other, abreast of it; or else it leaves off
first, to wait. -/
theorem Together.goes {m : Moment} (together : Together callbacks delay past e past' e')
    (taken : e.moment? manner = some m) :
    (∃ m', e'.moment? manner = some m' ∧
      Together callbacks delay (m :: past) m.after (m' :: past') m'.after) ∨
    ∃ m', e'.moment? manner = some m' ∧ ¬e'.Outside ∧ m'.after.Outside ∧
      Together callbacks delay past e (m' :: past') m'.after := by
  have level := together.abreast
  generalize whole : calls past = called at level
  cases level with
  | level solo =>
    left
    subst whole
    cases pausing : e.isPausing with
    | false =>
      rcases solo.goes manner with ⟨_, stuck⟩ | ⟨turn, next, goes, there⟩
      · rw [stuck] at taken
        contradiction
      · obtain rfl := Option.some.inj (goes.symm.trans taken)
        exact ⟨_, together.both solo pausing goes there⟩
    | true =>
      obtain ⟨uncalled, s, going, rfl⟩ := solo.pausing_eq pausing
      obtain rfl := Option.some.inj ((moment?_of_next rfl).symm.trans taken)
      exact ⟨_, moment?_of_next rfl, together.part uncalled going⟩
  | leaving going =>
    right
    refine ⟨_, moment?_of_next rfl, ?_, rfl, together.wait (whole ▸ .waiting going) rfl rfl rfl⟩
    simp [Outside, loop]
  | @waiting s going =>
    left
    obtain rfl := Option.some.inj ((moment?_of_next rfl).symm.trans taken)
    have answered : answer? manner ⟨(s.withPauses delay).arm, [.foreign .outside], .returned⟩ =
        some (.fire 0) := by
      simp [answer?, site?, Scheduler.arm]
    refine ⟨_, moment?_of_answer answered, ?_⟩
    rw [fire_withPauses delay s _ _ going.untimed]
    exact together.resume whole going

theorem Abreast.solo (abreast : Abreast callbacks delay called e e') : Solo callbacks called e := by
  cases abreast with
  | level solo => exact solo
  | leaving going => exact .stepping going
  | waiting going => exact .stepping going

/-- Where the run without pauses has come to its end, so has the other. -/
theorem Together.ends (together : Together callbacks delay past e past' e')
    (stuck : e.moment? manner = none) :
    e.Outside ∧ e' = e.withPauses delay ∧ e'.moment? manner = none := by
  have level := together.abreast
  generalize calls past = called at level
  rcases level.solo.goes manner with ⟨outside, _⟩ | ⟨turn, next, goes, _⟩
  · cases level with
    | level solo =>
      refine ⟨outside, rfl, ?_⟩
      have going : ∀ tasks, e.tasks ≠ .pausing :: tasks := fun tasks same => by
        simpa using outside.symm.trans same
      rw [moment?_withPauses delay manner e going solo.uncued solo.quiet.untimed, stuck]
      rfl
    | leaving => simp [Outside, loop] at outside
    | waiting => simp [Outside, loop] at outside
  · rw [stuck] at goes
    contradiction

variable {start start' : Engine}

/-- Whatever turns one of the two runs takes, the other takes turns to be abreast of it. -/
theorem Together.keeps_up (together : Together callbacks delay [] start [] start') {turns : Nat}
    (followed : follow manner turns [] start' = (past', e')) :
    ∃ turns past e, follow manner turns [] start = (past, e) ∧
      Together callbacks delay past e past' e' := by
  -- The other run stays where it is while this one waits, and takes a turn otherwise.
  induction turns generalizing past' e' with
  | zero =>
    obtain ⟨rfl, rfl⟩ := Prod.mk.inj followed
    exact ⟨0, [], start, rfl, together⟩
  | succ turns ih =>
    obtain ⟨before', middle', until'⟩ :
      ∃ before' middle', follow manner turns [] start' = (before', middle') := ⟨_, _, rfl⟩
    obtain ⟨used, before, middle, until_, there⟩ := ih until'
    cases taken' : middle'.moment? manner with
    | none =>
      obtain ⟨rfl, rfl⟩ :=
        Prod.mk.inj ((follow_succ_of_none until' taken').symm.trans followed)
      exact ⟨used, before, middle, until_, there⟩
    | some m' =>
      obtain ⟨rfl, rfl⟩ :=
        Prod.mk.inj ((follow_succ_of_some until' taken').symm.trans followed)
      cases taken : middle.moment? manner with
      | none =>
        rw [(there.ends taken).2.2] at taken'
        contradiction
      | some m =>
        rcases there.goes taken with ⟨_, goes, later⟩ | ⟨_, goes, _, _, later⟩
        · obtain rfl := Option.some.inj (goes.symm.trans taken')
          exact ⟨used + 1, _, _, follow_succ_of_some until_ taken, later⟩
        · obtain rfl := Option.some.inj (goes.symm.trans taken')
          exact ⟨used, before, middle, until_, later⟩

theorem Together.catches_up (together : Together callbacks delay [] start [] start') {turns : Nat}
    (followed : follow manner turns [] start = (past, e)) :
    ∃ turns past' e', follow manner turns [] start' = (past', e') ∧
      Together callbacks delay past e past' e' := by
  induction turns generalizing past e with
  | zero =>
    obtain ⟨rfl, rfl⟩ := Prod.mk.inj followed
    exact ⟨0, [], start', rfl, together⟩
  | succ turns ih =>
    obtain ⟨before, middle, until_⟩ :
      ∃ before middle, follow manner turns [] start = (before, middle) := ⟨_, _, rfl⟩
    obtain ⟨used, before', middle', until', there⟩ := ih until_
    cases taken : middle.moment? manner with
    | none =>
      obtain ⟨rfl, rfl⟩ :=
        Prod.mk.inj ((follow_succ_of_none until_ taken).symm.trans followed)
      exact ⟨used, before', middle', until', there⟩
    | some m =>
      obtain ⟨rfl, rfl⟩ :=
        Prod.mk.inj ((follow_succ_of_some until_ taken).symm.trans followed)
      rcases there.goes taken with ⟨m', goes, later⟩ | ⟨m', goes, _, outside, waiting⟩
      · exact ⟨used + 1, _, _, follow_succ_of_some until' goes, later⟩
      -- The run with pauses has left off, and its timer goes off next.
      · rcases waiting.goes taken with ⟨m'', fires, later⟩ | ⟨_, _, inside, _⟩
        · have left := follow_succ_of_some until' goes
          exact ⟨used + 1 + 1, _, _, follow_succ_of_some left fires, later⟩
        · exact absurd outside inside

theorem together_cue {entries : List Value} {batch : List Command} {callback? : Option Nat}
    (tidy : s.Tidy) (quiet : s.Quiet) (rests : s.phase ≠ .running)
    (coerced : commands entries = .ok batch) (delay : Float) :
    Together callback?.toList delay [] (cue s entries callback? [.foreign .outside])
      [] (cue (s.withPauses delay) entries callback? [.foreign .outside]) := by
  have plain : s.settings.animate = true → s.settings.clocked = true := fun paces =>
    absurd (quiet.plain.symm.trans paces) Bool.false_ne_true
  rw [cue_of_rest rests plain quiet.unobserved coerced,
    cue_of_rest (s := s.withPauses delay) rests (fun _ => rfl) quiet.unobserved coerced]
  refine ⟨.level (.starting ?_), rfl, rfl, rfl⟩
  exact {
    plain := quiet.plain
    unobserved := quiet.unobserved
    untimed := quiet.untimed
    running := rfl
    callbacks_eq := by
      show s.callbacks ++ callback?.toList = callback?.toList
      rw [tidy.callbacks_eq rests, List.nil_append] }

theorem Together.waits (together : Together callbacks delay past e past' e')
    (outside : e'.Outside) (running : e'.sched.phase = .running) :
    e'.sched.timers.length = 1 := by
  have level := together.abreast
  generalize calls past = called at level
  cases level with
  | level solo =>
    obtain ⟨result, ended, _⟩ := solo.ended outside
    exact absurd running ended.rests
  | leaving => simp [Outside, loop] at outside
  | @waiting s going =>
    have untimed : (s.withPauses delay).timers = [] := going.untimed
    simp [Scheduler.arm, untimed]

/-- Pauses do not change what a batch means.  Whatever has happened to a turtle before, if no cycle
is running and nobody watches, and whatever the drawing does at its calls, a batch that is cued from
outside comes to an end without pauses if and only if it does with pauses, its timers going off one
after another.  The cycle has then ended, what has been entered into the journal is the same, the
callback is called once with the result, and what is left is the same in all but the settings.  The
run with pauses asks for a timer for every primitive that it enters into the journal, and waits for
one whenever it leaves off while its cycle is running. -/
theorem ends_alike {settings : Settings} {journal : Journal StepEvent} {registry : Registry}
    {earlier : List Moment} {s : Scheduler} {signal : Signal}
    (reached : Plays .free (.atRest (.fresh settings journal registry)) earlier
      ⟨s, [.foreign .outside], signal⟩)
    (rests : s.phase ≠ .running) (plain : s.settings.animate = false)
    (unobserved : s.observers = []) {entries : List Value} {batch : List Command}
    (coerced : commands entries = .ok batch) (callback? : Option Nat) (manner : Nat → Manner)
    (delay : Float) :
    ((∃ past final, Ends manner (cue s entries callback? [.foreign .outside]) past final) ↔
      ∃ past final,
        Ends manner (cue (s.withPauses delay) entries callback? [.foreign .outside]) past final) ∧
    (∀ past final past' final',
      Ends manner (cue s entries callback? [.foreign .outside]) past final →
      Ends manner (cue (s.withPauses delay) entries callback? [.foreign .outside]) past' final' →
      final.sched.phase ≠ .running ∧ final' = final.withPauses delay ∧
        recorded past' = recorded past ∧ calls past' = calls past ∧
        calls past = callback?.toList.map fun id =>
          (id, ⟨final.sched.phase, final.sched.cycle, final.sched.steps⟩)) ∧
    ∀ turns past now,
      follow manner turns [] (cue (s.withPauses delay) entries callback? [.foreign .outside]) =
        (past, now) →
      armings past + now.isPausing.toNat = primitives past ∧
        (now.Outside → now.sched.phase = .running → now.sched.timers.length = 1) := by
  have quiet : s.Quiet := ⟨plain, unobserved, reached.untimed plain⟩
  have together : Together callback?.toList delay [] _ [] _ :=
    together_cue reached.tidy quiet rests coerced delay
  refine ⟨⟨?_, ?_⟩, ?_, ?_⟩
  · rintro ⟨past, final, turns, followed, stuck⟩
    obtain ⟨turns', past', final', followed', there⟩ := together.catches_up followed
    exact ⟨past', final', turns', followed', (there.ends stuck).2.2⟩
  · rintro ⟨past', final', turns', followed', stuck'⟩
    obtain ⟨turns, past, final, followed, there⟩ := together.keeps_up followed'
    refine ⟨past, final, turns, followed, ?_⟩
    cases taken : final.moment? manner with
    | none => rfl
    | some m =>
      rcases there.goes taken with ⟨_, goes, _⟩ | ⟨_, goes, _⟩
      all_goals
        rw [stuck'] at goes
        contradiction
  · intro past final past' final' ends ends'
    obtain ⟨turns, followed, stuck⟩ := ends
    obtain ⟨turns', past'', final'', followed', there⟩ := together.catches_up followed
    obtain ⟨outside, same, stuck'⟩ := there.ends stuck
    obtain ⟨rfl, rfl⟩ := ends'.unique ⟨turns', followed', stuck'⟩
    obtain ⟨result, ended, called⟩ := there.abreast.solo.ended outside
    refine ⟨ended.rests, same, there.recorded_eq, there.calls_eq, ?_⟩
    rw [called, ended.result_eq]
  · intro turns past' now followed'
    obtain ⟨_, past, e, _, there⟩ := together.keeps_up followed'
    exact ⟨there.armings_eq, there.waits⟩

/-- The pen is to be lifted three times, and the drawing stops the cycle when it is lifted for the
second time. -/
theorem lifting_ends_alike :
    ∃ (manner : Nat → Manner) (past : List Moment) (final : Engine) (past' : List Moment)
      (final' : Engine),
      Ends manner (cue (.fresh ⟨false, 0.04, false, false⟩ (.empty 10) .empty)
        (List.replicate 3 (.command (.leaf "pu" [] none))) (some 7) [.foreign .outside])
        past final ∧
      Ends manner (cue ((Scheduler.fresh ⟨false, 0.04, false, false⟩ (.empty 10) .empty).withPauses
        0.04) (List.replicate 3 (.command (.leaf "pu" [] none))) (some 7) [.foreign .outside])
        past' final' ∧
      final.sched.phase = .cancelled ∧ final.sched.calls.length = 2 ∧
      final' = final.withPauses 0.04 ∧ recorded past' = recorded past ∧
      calls past = [(7, ⟨.cancelled, 1, final.sched.steps⟩)] ∧ calls past' = calls past ∧
      armings past' = primitives past' := by
  have reached : Plays .free
      (.atRest (.fresh ⟨false, 0.04, false, false⟩ (.empty 10) .empty)) []
      ⟨.fresh ⟨false, 0.04, false, false⟩ (.empty 10) .empty, [.foreign .outside], .returned⟩ :=
    .start
  have coerced : commands (List.replicate 3 (.command (.leaf "pu" [] none))) =
      .ok (List.replicate 3 (.leaf "pu" [] none)) := rfl
  let manner : Nat → Manner := fun number => ⟨number = 2, none⟩
  obtain ⟨_, alike, waits⟩ := ends_alike reached (by decide) rfl rfl coerced (some 7) manner 0.04
  obtain ⟨past, final, followed, stuck, facts⟩ := exists_follow manner
    (cue (.fresh ⟨false, 0.04, false, false⟩ (.empty 10) .empty)
      (List.replicate 3 (.command (.leaf "pu" [] none))) (some 7) [.foreign .outside]) 20
    (fun final => decide (final.sched.phase = .cancelled ∧ final.sched.cycle = 1 ∧
      final.sched.calls.length = 2))
    (by decide)
  obtain ⟨past', final', followed', stuck', ended⟩ := exists_follow manner
    (cue ((Scheduler.fresh ⟨false, 0.04, false, false⟩ (.empty 10) .empty).withPauses 0.04)
      (List.replicate 3 (.command (.leaf "pu" [] none))) (some 7) [.foreign .outside]) 24
    (fun final => decide (final.isPausing = false))
    (by decide)
  obtain ⟨cancelled, cycle, drawn⟩ := of_decide_eq_true facts
  have ends : Ends manner _ past final := ⟨20, followed, stuck⟩
  have ends' : Ends manner _ past' final' := ⟨24, followed', stuck'⟩
  obtain ⟨_, same, recorded_eq, calls_eq, called⟩ := alike _ _ _ _ ends ends'
  have armed := (waits 24 past' final' followed').1
  rw [of_decide_eq_true ended] at armed
  refine ⟨manner, past, final, past', final', ends, ends', cancelled, drawn, same, recorded_eq, ?_,
    calls_eq, armed⟩
  rw [called, cancelled, cycle]
  rfl

end Engine

end Turtle
