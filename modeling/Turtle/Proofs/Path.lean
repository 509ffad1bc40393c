import Turtle.Proofs.Headings
import Mathlib.Data.List.DropRight

/-!
# The path

What a drawing shows is a part of the path that the turtle has taken: the moves since the drawing
was last wiped for which the pen was down.  The pen has no influence on the path.
-/

set_option autoImplicit false

namespace Turtle

namespace Call

/-- What a call does with the pen: it is put down or lifted. -/
def pen? : Call → Option Bool
  | .penDown => some true
  | .penUp => some false
  | _ => none

def handlesPen (call : Call) : Bool :=
  call.pen?.isSome

def wipes : Call → Bool
  | .clear => true
  | _ => false

def moves : Call → Bool
  | .forward _ => true
  | _ => false

end Call

/-- A call on its way: the canvas that it finds. -/
structure Leg where
  before : Canvas
  call : Call

namespace Leg

def after (leg : Leg) : Canvas :=
  (leg.before.apply leg.call).1

def segment (leg : Leg) : Segment :=
  ⟨leg.before.position, leg.after.position⟩

/-- A leg leaves a trace if it is a move with the pen down. -/
def leavesTrace (leg : Leg) : Bool :=
  leg.call.moves && leg.before.penIsDown

/-- The call of a leg, where it starts from and where it leads to, with the angles. -/
def course (leg : Leg) : Call × (Point × Float) × (Point × Float) :=
  (leg.call, (leg.before.position, leg.before.angle), (leg.after.position, leg.after.angle))

end Leg

namespace Canvas

/-- The canvas after some calls, whatever comes of each of them. -/
def follow (canvas : Canvas) (calls : List Call) : Canvas :=
  canvas.afterAll (calls.map .call)

/-- The way of some calls, leg by leg. -/
def legs (canvas : Canvas) : List Call → List Leg
  | [] => []
  | call :: rest => ⟨canvas, call⟩ :: (canvas.apply call).1.legs rest

variable {canvas other : Canvas} {call : Call} {calls : List Call}

theorem follow_nil (canvas : Canvas) : canvas.follow [] = canvas :=
  rfl

theorem follow_cons (canvas : Canvas) (call : Call) (rest : List Call) :
    canvas.follow (call :: rest) = (canvas.apply call).1.follow rest :=
  rfl

theorem follow_concat (canvas : Canvas) (calls : List Call) (call : Call) :
    canvas.follow (calls ++ [call]) = ((canvas.follow calls).apply call).1 := by
  simp [follow, afterAll, carryOut]

theorem legs_concat (canvas : Canvas) (calls : List Call) (call : Call) :
    canvas.legs (calls ++ [call]) = canvas.legs calls ++ [⟨canvas.follow calls, call⟩] := by
  induction calls generalizing canvas with
  | nil => rfl
  | cons first rest ih => exact congrArg (_ :: ·) (ih _)

theorem legs_calls (canvas : Canvas) (calls : List Call) :
    (canvas.legs calls).map Leg.call = calls := by
  induction calls generalizing canvas with
  | nil => rfl
  | cons call rest ih => exact congrArg (call :: ·) (ih _)

/-- Calls that all succeed are followed to their end. -/
theorem applyAll_eq_follow (canvas : Canvas) (calls : List Call)
    (succeeds : (canvas.applyAll calls).2 = none) :
    (canvas.applyAll calls).1 = canvas.follow calls := by
  induction calls generalizing canvas with
  | nil => rfl
  | cons call rest ih =>
    rw [applyAll] at succeeds ⊢
    split at succeeds
    · rename_i next applied
      rw [follow_cons, applied]
      exact ih next succeeds
    · contradiction

/-! ## What a call leaves of the drawing -/

theorem penIsDown_apply (canvas : Canvas) (call : Call) :
    (canvas.apply call).1.penIsDown = call.pen?.getD canvas.penIsDown := by
  cases call with
  | turn degrees => simp only [apply, rotate, setAngle_eq]; split <;> rfl
  | clear => simp only [apply, setAngle_eq]; split <;> rfl
  | _ => rfl

theorem position_apply (still : call.moves = false) :
    (canvas.apply call).1.position = canvas.position := by
  cases call with
  | forward distance => contradiction
  | turn degrees => simp only [apply, rotate, setAngle_eq]; split <;> rfl
  | clear => simp only [apply, setAngle_eq]; split <;> rfl
  | _ => rfl

theorem segments_apply (canvas : Canvas) (call : Call) : (canvas.apply call).1.segments =
    if call.wipes then []
    else canvas.segments ++ ([⟨canvas, call⟩].filter Leg.leavesTrace).map Leg.segment := by
  cases call with
  | forward distance =>
    cases down : canvas.penIsDown <;>
      simp [apply, move, segments, Call.wipes, Leg.leavesTrace, Call.moves, Leg.segment, Leg.after,
        down]
  | turn degrees =>
    simp only [apply, rotate, setAngle_eq]
    split <;> simp [segments, Call.wipes, Leg.leavesTrace, Call.moves]
  | clear =>
    simp only [apply, setAngle_eq]
    split <;> rfl
  | penUp => simp [apply, segments, Call.wipes, Leg.leavesTrace, Call.moves]
  | penDown => simp [apply, segments, Call.wipes, Leg.leavesTrace, Call.moves]

/-! ## The drawing and the way -/

theorem penIsDown_follow (canvas : Canvas) (calls : List Call) :
    (canvas.follow calls).penIsDown =
      (calls.filterMap Call.pen?).getLast?.getD canvas.penIsDown := by
  induction calls using List.reverseRecOn with
  | nil => rfl
  | append_singleton calls call ih =>
    rw [follow_concat, penIsDown_apply, ih, List.filterMap_append, List.getLast?_append]
    cases pen : call.pen? <;> simp [pen]

/-- The segments are the moves with the pen down since the drawing was wiped. -/
theorem segments_follow (empty : canvas.drawn = []) (calls : List Call) :
    (canvas.follow calls).segments =
      (((canvas.legs calls).rtakeWhile fun leg => !leg.call.wipes).filter Leg.leavesTrace).map
        Leg.segment := by
  induction calls using List.reverseRecOn with
  | nil => simp [follow_nil, segments, empty, legs]
  | append_singleton calls call ih =>
    rw [follow_concat, segments_apply, ih, legs_concat, List.rtakeWhile_concat]
    cases call.wipes with
    | true => rfl
    | false => simp only [Bool.not_false, Bool.false_eq_true, if_true, if_false, List.filter_append,
        List.map_append]

theorem position_follow (canvas : Canvas) (calls : List Call) : (canvas.follow calls).position =
    (((canvas.legs calls).filter (·.call.moves)).getLast?.map (·.after.position)).getD
      canvas.position := by
  induction calls using List.reverseRecOn with
  | nil => rfl
  | append_singleton calls call ih =>
    rw [follow_concat, legs_concat, List.filter_append, List.getLast?_append]
    cases moves : call.moves with
    | true => simp [moves, Leg.after]
    | false => simp [moves, position_apply moves, ih]

/-- A leg finds the canvas that the legs before it have left. -/
theorem legs_eq_append {earlier later : List Leg} {leg : Leg}
    (split : canvas.legs calls = earlier ++ leg :: later) :
    ∃ past rest, calls = past ++ leg.call :: rest ∧ earlier = canvas.legs past ∧
      leg.before = canvas.follow past := by
  induction earlier generalizing canvas calls with
  | nil =>
    cases calls with
    | nil => contradiction
    | cons call rest =>
      obtain ⟨rfl, -⟩ := List.cons.inj split
      exact ⟨[], rest, rfl, rfl, rfl⟩
  | cons first earlier ih =>
    cases calls with
    | nil => contradiction
    | cons call rest =>
      obtain ⟨rfl, within⟩ := List.cons.inj split
      obtain ⟨past, rest, rfl, rfl, before⟩ := ih within
      exact ⟨call :: past, rest, rfl, rfl, before⟩

/-! ## Without the pen -/

/-- Two turtles that stand alike: they differ in their pens and in what they have drawn. -/
structure Alike (canvas other : Canvas) : Prop where
  position : canvas.position = other.position
  angle : canvas.angle = other.angle
  sin : canvas.sin = other.sin
  cos : canvas.cos = other.cos

theorem Alike.refl (canvas : Canvas) : canvas.Alike canvas :=
  ⟨rfl, rfl, rfl, rfl⟩

theorem Alike.setAngle (alike : canvas.Alike other) (radians : Float) :
    (canvas.setAngle radians).1.Alike (other.setAngle radians).1 := by
  rw [setAngle_eq, setAngle_eq]
  split
  · exact ⟨alike.position, rfl, rfl, rfl⟩
  · exact ⟨alike.position, rfl, alike.sin, alike.cos⟩

/-- Standing alike, turtles make the same moves. -/
theorem Alike.apply (alike : canvas.Alike other) (call : Call) :
    (canvas.apply call).1.Alike (other.apply call).1 := by
  cases call with
  | forward distance =>
    refine ⟨?_, alike.angle, alike.sin, alike.cos⟩
    simp only [Canvas.apply, move, alike.position, alike.sin, alike.cos]
  | turn degrees =>
    simp only [Canvas.apply, rotate, alike.angle]
    exact alike.setAngle _
  | clear =>
    have wiped : Alike { canvas with drawn := [] } { other with drawn := [] } :=
      ⟨alike.position, alike.angle, alike.sin, alike.cos⟩
    exact wiped.setAngle 0.0
  | penUp => exact ⟨alike.position, alike.angle, alike.sin, alike.cos⟩
  | penDown => exact ⟨alike.position, alike.angle, alike.sin, alike.cos⟩

theorem Alike.handle (alike : canvas.Alike other) (handles : call.handlesPen = true) :
    (canvas.apply call).1.Alike other := by
  cases call with
  | penUp | penDown => exact ⟨alike.position, alike.angle, alike.sin, alike.cos⟩
  | _ => contradiction

theorem Alike.course (alike : canvas.Alike other) (call : Call) :
    Leg.course ⟨canvas, call⟩ = Leg.course ⟨other, call⟩ := by
  have next := alike.apply call
  simp only [Leg.course, Leg.after, alike.position, alike.angle, next.position, next.angle]

theorem Alike.segment (alike : canvas.Alike other) (call : Call) :
    Leg.segment ⟨canvas, call⟩ = Leg.segment ⟨other, call⟩ := by
  have next := alike.apply call
  simp only [Leg.segment, Leg.after, alike.position, next.position]

/-- Without the calls that handle the pen, the way is the same. -/
theorem Alike.courses (alike : canvas.Alike other) (calls : List Call) :
    ((canvas.legs calls).filter (!·.call.handlesPen)).map Leg.course =
      (other.legs (calls.filter (!·.handlesPen))).map Leg.course := by
  induction calls generalizing canvas other with
  | nil => rfl
  | cons call rest ih =>
    cases handles : call.handlesPen with
    | true => simpa [legs, handles] using ih (alike.handle handles)
    | false => simpa [legs, handles, alike.course call] using ih (alike.apply call)

/-- A pen that is never lifted draws at least as much. -/
theorem Alike.sublist_apply (alike : canvas.Alike other) (down : other.penIsDown = true)
    (fewer : canvas.segments.Sublist other.segments) (call : Call) :
    (canvas.apply call).1.segments.Sublist (other.apply call).1.segments := by
  rw [segments_apply, segments_apply]
  cases call.wipes with
  | true => exact List.Sublist.refl _
  | false =>
    refine fewer.append ?_
    cases traced : Leg.leavesTrace ⟨canvas, call⟩ with
    | false => simp [traced]
    | true =>
      have moves : call.moves = true := (Bool.and_eq_true_iff.mp traced).1
      have also : Leg.leavesTrace ⟨other, call⟩ = true := Bool.and_eq_true_iff.mpr ⟨moves, down⟩
      simp [traced, also, alike.segment call]

theorem segments_handle (handles : call.handlesPen = true) :
    (canvas.apply call).1.segments = canvas.segments := by
  cases call with
  | penUp | penDown => rfl
  | _ => contradiction

theorem Alike.sublist_follow (alike : canvas.Alike other) (down : other.penIsDown = true)
    (fewer : canvas.segments.Sublist other.segments) (calls : List Call) :
    (canvas.follow calls).segments.Sublist
      (other.follow (calls.filter (!·.handlesPen))).segments := by
  induction calls generalizing canvas other with
  | nil => exact fewer
  | cons call rest ih =>
    cases handles : call.handlesPen with
    | true =>
      simp only [List.filter_cons, handles, follow_cons]
      exact ih (alike.handle handles) down ((segments_handle handles).symm ▸ fewer)
    | false =>
      have still : (other.apply call).1.penIsDown = true := by
        rw [penIsDown_apply, Option.not_isSome_iff_eq_none.mp (Bool.eq_false_iff.mp handles)]
        exact down
      simp only [List.filter_cons, handles, follow_cons]
      exact ih (alike.apply call) still (alike.sublist_apply down fewer call)

/-- The drawing is the part of the way that was taken with the pen down since it was last wiped,
where the pen is as it was last put.  Each leg starts where the move before it has ended.  Calls
that differ in how they handle the pen take the same way, and a pen that is never lifted draws all
that they draw. -/
theorem drawing_of_path (calls : List Call) :
    ((blank.applyAll calls).2 = none → (blank.applyAll calls).1 = blank.follow calls) ∧
      (blank.follow calls).segments =
        (((blank.legs calls).rtakeWhile fun leg => !leg.call.wipes).filter Leg.leavesTrace).map
          Leg.segment ∧
      (∀ earlier leg later, blank.legs calls = earlier ++ leg :: later →
        leg.before.penIsDown =
            ((earlier.map Leg.call).filterMap Call.pen?).getLast?.getD true ∧
          leg.before.position =
            ((earlier.filter (·.call.moves)).getLast?.map (·.after.position)).getD
              blank.position) ∧
      ∀ others, others.filter (!·.handlesPen) = calls.filter (!·.handlesPen) →
        ((blank.legs others).filter (!·.call.handlesPen)).map Leg.course =
            ((blank.legs calls).filter (!·.call.handlesPen)).map Leg.course ∧
          (blank.follow others).segments.Sublist
            (blank.follow (calls.filter (!·.handlesPen))).segments := by
  refine ⟨blank.applyAll_eq_follow calls, segments_follow rfl calls, ?_, ?_⟩
  · intro earlier leg later split
    obtain ⟨past, rest, rfl, rfl, before⟩ := legs_eq_append split
    rw [before, penIsDown_follow, position_follow, legs_calls]
    exact ⟨rfl, rfl⟩
  · intro others same
    rw [(Alike.refl blank).courses others, (Alike.refl blank).courses calls, same]
    refine ⟨rfl, ?_⟩
    rw [← same]
    exact (Alike.refl blank).sublist_follow rfl (List.Sublist.refl _) others

/-- Of two moves the first is made with the pen up: the drawing is a part of that of both. -/
theorem drawing_with_gap :
    let calls : List Call := [.penUp, .forward 1.0, .penDown, .turn 90.0, .forward 2.0]
    let others : List Call := [.forward 1.0, .turn 90.0, .forward 2.0]
    (blank.applyAll calls).2 = none ∧
      (blank.applyAll calls).1.segments.Sublist (blank.follow others).segments ∧
      (blank.applyAll calls).1.segments.length = 1 ∧
      (blank.follow others).segments.length = 2 := by
  intro calls others
  have succeeds : (blank.applyAll calls).2 = none := by decide +kernel
  have reached := (drawing_of_path calls).1 succeeds
  obtain ⟨-, -, -, alike⟩ := drawing_of_path others
  have fewer := (alike calls (by rfl)).2
  rw [← reached] at fewer
  exact ⟨succeeds, fewer, by decide +kernel, by decide +kernel⟩

end Canvas

end Turtle
