import Turtle.Drawing.Canvas

/-!
# Headings

A turtle keeps the sine and the cosine of its angle.  They are those of the angle as long as every
angle that is asked for has them.  An infinite angle has neither, and asking for one fails: but by
then the angle has been stored, and the sine and the cosine are left behind.
-/

set_option autoImplicit false

namespace Turtle

namespace Canvas

/-- What can be asked of a turtle: a call, an angle to head for, or one to turn by. -/
inductive Maneuver where
  | call (call : Call)
  | setAngle (radians : Float)
  | rotate (degrees : Float)

def carryOut (canvas : Canvas) : Maneuver → Canvas × Option Failure
  | .call call => canvas.apply call
  | .setAngle radians => canvas.setAngle radians
  | .rotate degrees => canvas.rotate degrees

/-- The turtle after some maneuvers.  Whoever asks for them goes on when one of them fails. -/
def afterAll (canvas : Canvas) (maneuvers : List Maneuver) : Canvas :=
  maneuvers.foldl (fun reached maneuver => (reached.carryOut maneuver).1) canvas

/-- The angle that a maneuver asks for. -/
def asked? (canvas : Canvas) : Maneuver → Option Float
  | .setAngle radians => some radians
  | .rotate degrees | .call (.turn degrees) => some (canvas.angle + toRadians degrees)
  | .call .clear => some 0.0
  | .call _ => none

/-- The angles that some maneuvers ask for, one after another. -/
def asked (canvas : Canvas) : List Maneuver → List Float
  | [] => []
  | maneuver :: rest => (canvas.asked? maneuver).toList ++ (canvas.carryOut maneuver).1.asked rest

/-- An angle has a sine and a cosine. -/
def isDefined (radians : Float) : Bool :=
  !Number.isInfinite radians

/-- The angle with the sine and the cosine that are kept with it. -/
def bearing (canvas : Canvas) : Float × Float × Float :=
  (canvas.angle, canvas.sin, canvas.cos)

/-- What is kept with the angle are its sine and its cosine. -/
structure InStep (canvas : Canvas) : Prop where
  defined : isDefined canvas.angle = true
  sin_eq : canvas.sin = canvas.angle.sin
  cos_eq : canvas.cos = canvas.angle.cos

/-- All along the sine and the cosine are those of the angle, and whatever fails leaves all three as
they were. -/
structure Together (canvas : Canvas) (maneuvers : List Maneuver) : Prop where
  inStep : ∀ earlier later, maneuvers = earlier ++ later → (canvas.afterAll earlier).InStep
  unmoved : ∀ earlier maneuver later, maneuvers = earlier ++ maneuver :: later → ∀ failure,
    ((canvas.afterAll earlier).carryOut maneuver).2 = some failure →
      ((canvas.afterAll earlier).carryOut maneuver).1.bearing = (canvas.afterAll earlier).bearing

/-! ## One maneuver -/

section Maneuver

variable (canvas : Canvas) (maneuver : Maneuver)

theorem setAngle_eq (radians : Float) : canvas.setAngle radians =
    if isDefined radians then
      ({ canvas with angle := radians, sin := radians.sin, cos := radians.cos }, none)
    else ({ canvas with angle := radians }, some .undefinedAngle) := by
  unfold setAngle isDefined
  cases Number.isInfinite radians <;> rfl

/-- A maneuver is a matter of the angle that it asks for: it is stored in any case, and the sine and
the cosine are taken from it if it has them. -/
theorem carryOut_of_asked {radians : Float} (asks : canvas.asked? maneuver = some radians) :
    (canvas.carryOut maneuver).1.bearing =
        (if isDefined radians then (radians, radians.sin, radians.cos)
        else (radians, canvas.sin, canvas.cos)) ∧
      (canvas.carryOut maneuver).2 =
        if isDefined radians then none else some .undefinedAngle := by
  have turned : ∀ other : Canvas, other.sin = canvas.sin → other.cos = canvas.cos →
      (other.setAngle radians).1.bearing =
          (if isDefined radians then (radians, radians.sin, radians.cos)
          else (radians, canvas.sin, canvas.cos)) ∧
        (other.setAngle radians).2 =
          if isDefined radians then none else some .undefinedAngle := by
    intro other sin_eq cos_eq
    rw [setAngle_eq]
    split
    · exact ⟨rfl, rfl⟩
    · rw [← sin_eq, ← cos_eq]
      exact ⟨rfl, rfl⟩
  cases maneuver with
  | setAngle radians' =>
    obtain rfl := Option.some.inj asks
    exact turned canvas rfl rfl
  | rotate degrees =>
    obtain rfl := Option.some.inj asks
    exact turned canvas rfl rfl
  | call call =>
    cases call with
    | turn degrees =>
      obtain rfl := Option.some.inj asks
      exact turned canvas rfl rfl
    | clear =>
      obtain rfl := Option.some.inj asks
      exact turned { canvas with drawn := [] } rfl rfl
    | _ => contradiction

theorem carryOut_of_unasked (none : canvas.asked? maneuver = none) :
    (canvas.carryOut maneuver).1.bearing = canvas.bearing ∧
      (canvas.carryOut maneuver).2 = Option.none := by
  cases maneuver with
  | setAngle radians => contradiction
  | rotate degrees => contradiction
  | call call =>
    cases call with
    | turn degrees => contradiction
    | clear => contradiction
    | _ => exact ⟨rfl, rfl⟩

theorem bearing_carryOut : (canvas.carryOut maneuver).1.bearing =
    ((canvas.asked? maneuver).getD canvas.angle,
      (((canvas.asked? maneuver).filter isDefined).map Float.sin).getD canvas.sin,
      (((canvas.asked? maneuver).filter isDefined).map Float.cos).getD canvas.cos) := by
  cases asks : canvas.asked? maneuver with
  | none => exact (canvas.carryOut_of_unasked maneuver asks).1
  | some radians =>
    rw [(canvas.carryOut_of_asked maneuver asks).1, Option.filter_some]
    split <;> rfl

/-- What fails has asked for an angle without a sine. -/
theorem asked_of_failure {failure : Failure} (fails : (canvas.carryOut maneuver).2 = some failure) :
    ∃ radians ∈ canvas.asked? maneuver, isDefined radians = false := by
  cases asks : canvas.asked? maneuver with
  | none =>
    rw [(canvas.carryOut_of_unasked maneuver asks).2] at fails
    contradiction
  | some radians =>
    refine ⟨radians, rfl, ?_⟩
    rw [(canvas.carryOut_of_asked maneuver asks).2] at fails
    cases defined : isDefined radians with
    | true => simp [defined] at fails
    | false => rfl

end Maneuver

/-! ## Many maneuvers -/

variable {canvas : Canvas} {maneuver : Maneuver} {rest : List Maneuver}

/-- The angle is the last one that was asked for, and the sine and the cosine are those of the last
one that has them. -/
theorem bearing_afterAll (canvas : Canvas) (maneuvers : List Maneuver) :
    (canvas.afterAll maneuvers).bearing =
      ((canvas.asked maneuvers).getLast?.getD canvas.angle,
        (((canvas.asked maneuvers).filter isDefined).getLast?.map Float.sin).getD canvas.sin,
        (((canvas.asked maneuvers).filter isDefined).getLast?.map Float.cos).getD canvas.cos) := by
  induction maneuvers generalizing canvas with
  | nil => rfl
  | cons maneuver rest ih =>
    have first := canvas.bearing_carryOut maneuver
    simp only [bearing, Prod.mk.injEq] at first
    obtain ⟨angle_eq, sin_eq, cos_eq⟩ := first
    have afterwards : canvas.afterAll (maneuver :: rest) =
        (canvas.carryOut maneuver).1.afterAll rest := rfl
    rw [afterwards, ih, angle_eq, sin_eq, cos_eq, asked, List.filter_append,
      List.getLast?_append, List.getLast?_append]
    cases canvas.asked? maneuver with
    | none => simp
    | some radians =>
      cases defined : isDefined radians <;>
        cases (((canvas.carryOut maneuver).1.asked rest).filter isDefined).getLast? <;>
        cases ((canvas.carryOut maneuver).1.asked rest).getLast? <;>
        simp [defined, Option.filter_some]

theorem InStep.carryOut_iff (inStep : canvas.InStep) : (canvas.carryOut maneuver).1.InStep ↔
    ∀ radians ∈ canvas.asked? maneuver, isDefined radians = true := by
  cases asks : canvas.asked? maneuver with
  | none =>
    have same := (canvas.carryOut_of_unasked maneuver asks).1
    simp only [bearing, Prod.mk.injEq] at same
    obtain ⟨angle_eq, sin_eq, cos_eq⟩ := same
    have kept : (canvas.carryOut maneuver).1.InStep := by
      refine ⟨?_, ?_, ?_⟩
      · rw [angle_eq]
        exact inStep.defined
      · rw [sin_eq, angle_eq]
        exact inStep.sin_eq
      · rw [cos_eq, angle_eq]
        exact inStep.cos_eq
    simp [kept]
  | some radians =>
    have moved := (canvas.carryOut_of_asked maneuver asks).1
    simp only [Option.mem_some_iff, forall_eq']
    constructor
    · intro next
      have defined := next.defined
      cases undefined : isDefined radians with
      | true => rfl
      | false =>
        rw [undefined, if_neg Bool.false_ne_true] at moved
        have angle_eq : (canvas.carryOut maneuver).1.angle = radians := congrArg Prod.fst moved
        rw [angle_eq] at defined
        exact undefined.symm.trans defined
    · intro defined
      rw [if_pos defined] at moved
      simp only [bearing, Prod.mk.injEq] at moved
      obtain ⟨angle_eq, sin_eq, cos_eq⟩ := moved
      exact ⟨by rw [angle_eq, defined], by rw [sin_eq, angle_eq], by rw [cos_eq, angle_eq]⟩

theorem together_nil : canvas.Together [] ↔ canvas.InStep := by
  constructor
  · exact fun together => together.inStep [] [] rfl
  · intro inStep
    refine ⟨fun earlier later split => ?_, fun earlier maneuver later split => ?_⟩
    · obtain ⟨rfl, -⟩ := List.append_eq_nil_iff.mp split.symm
      exact inStep
    · simp at split

theorem together_cons : canvas.Together (maneuver :: rest) ↔
    canvas.InStep ∧
      (∀ failure, (canvas.carryOut maneuver).2 = some failure →
        (canvas.carryOut maneuver).1.bearing = canvas.bearing) ∧
      (canvas.carryOut maneuver).1.Together rest := by
  constructor
  · intro together
    refine ⟨together.inStep [] _ rfl, together.unmoved [] maneuver rest rfl, ?_⟩
    refine ⟨fun earlier later split => ?_, fun earlier other later split => ?_⟩
    · exact together.inStep (maneuver :: earlier) later (congrArg (maneuver :: ·) split)
    · exact together.unmoved (maneuver :: earlier) other later (congrArg (maneuver :: ·) split)
  · rintro ⟨inStep, unmoved, together⟩
    refine ⟨fun earlier later split => ?_, fun earlier other later split => ?_⟩
    · cases earlier with
      | nil => exact inStep
      | cons first earlier =>
        obtain ⟨rfl, within⟩ := List.cons.inj split
        exact together.inStep earlier later within
    · cases earlier with
      | nil =>
        obtain ⟨rfl, -⟩ := List.cons.inj split
        exact unmoved
      | cons first earlier =>
        obtain ⟨rfl, within⟩ := List.cons.inj split
        exact together.unmoved earlier other later within

/-- A turtle stays in step with its angle if and only if it was so before and no angle that is asked
for is infinite.  In any case its angle is the last one that was asked for, and its sine and cosine
are those of the last one that was not infinite. -/
theorem together_iff (canvas : Canvas) (maneuvers : List Maneuver) :
    (canvas.Together maneuvers ↔
        canvas.InStep ∧ ∀ radians ∈ canvas.asked maneuvers, isDefined radians = true) ∧
      (canvas.afterAll maneuvers).bearing =
        ((canvas.asked maneuvers).getLast?.getD canvas.angle,
          (((canvas.asked maneuvers).filter isDefined).getLast?.map Float.sin).getD canvas.sin,
          (((canvas.asked maneuvers).filter isDefined).getLast?.map Float.cos).getD
            canvas.cos) := by
  refine ⟨?_, canvas.bearing_afterAll maneuvers⟩
  induction maneuvers generalizing canvas with
  | nil => simp [together_nil, asked]
  | cons maneuver rest ih =>
    rw [together_cons, ih, asked, List.forall_mem_append]
    simp only [Option.mem_toList]
    constructor
    · rintro ⟨inStep, -, next, later⟩
      exact ⟨inStep, inStep.carryOut_iff.mp next, later⟩
    · rintro ⟨inStep, defined, later⟩
      refine ⟨inStep, fun failure fails => ?_, inStep.carryOut_iff.mpr defined, later⟩
      obtain ⟨radians, asks, undefined⟩ := canvas.asked_of_failure maneuver fails
      exact absurd (undefined.symm.trans (defined radians asks)) Bool.false_ne_true

/-- Turned by an angle that is finite, but great, again and again, a turtle comes to an infinite
angle: the last turn fails, but the turtle has turned, and its sine and cosine have not changed. -/
theorem turning_apart :
    let turn : Maneuver := .call (.turn 1.7e308)
    let turned := blank.afterAll (List.replicate 60 turn)
    (turned.carryOut turn).2 = some .undefinedAngle ∧
      (turned.carryOut turn).1.angle ≠ turned.angle ∧
      (turned.carryOut turn).1.sin = turned.sin ∧ (turned.carryOut turn).1.cos = turned.cos ∧
      ¬ blank.Together (List.replicate 61 turn) := by
  intro turn turned
  have fails : (turned.carryOut turn).2 = some .undefinedAngle := by decide +kernel
  have moved : (turned.carryOut turn).1.angle ≠ turned.angle := by decide +kernel
  obtain ⟨radians, asks, undefined⟩ := turned.asked_of_failure turn fails
  have kept := (turned.carryOut_of_asked turn asks).1
  rw [undefined, if_neg Bool.false_ne_true] at kept
  refine ⟨fails, moved, congrArg (·.2.1) kept, congrArg (·.2.2) kept, fun together => ?_⟩
  have one_more : List.replicate 61 turn = List.replicate 60 turn ++ [turn] :=
    List.replicate_succ'
  exact moved (congrArg Prod.fst (together.unmoved _ turn [] one_more _ fails))

end Canvas

end Turtle
