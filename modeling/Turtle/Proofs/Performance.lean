import Turtle.Proofs.Simulation
import Turtle.Proofs.Terminals

/-!
# Meanings performed

A program that has a meaning is performed at a terminal to its end, with pauses or without, if the
drawing can carry out all the calls of the meaning.  Where it cannot, the run without pauses fails.
-/

set_option autoImplicit false

namespace Turtle

open Engine StateTransition

namespace Canvas

variable {canvas middle last : Canvas} {calls others : List Call} {failure : Failure}

theorem apply_failure {call : Call} (fails : (canvas.apply call).2 = some failure) :
    failure = .undefinedAngle := by
  have angles : ∀ (radians : Float) (canvas : Canvas),
      (canvas.setAngle radians).2 = some failure → failure = .undefinedAngle := by
    intro radians canvas fails
    unfold setAngle at fails
    split at fails
    · exact (Option.some.inj fails).symm
    · exact absurd fails (Option.some_ne_none _).symm
  cases call with
  | turn degrees => exact angles _ _ fails
  | clear => exact angles _ _ fails
  | _ => exact absurd fails (Option.some_ne_none _).symm

theorem applyAll_failure (fails : canvas.applyAll calls = (last, some failure)) :
    failure = .undefinedAngle := by
  induction calls generalizing canvas with
  | nil => exact absurd (Prod.mk.inj fails).2.symm (Option.some_ne_none _)
  | cons call rest ih =>
    rw [applyAll] at fails
    split at fails
    · exact ih fails
    · rename_i first
      obtain rfl := Option.some.inj (Prod.mk.inj fails).2
      exact apply_failure (congrArg Prod.snd first)

theorem applyAll_append : canvas.applyAll (calls ++ others) =
    match canvas.applyAll calls with
    | (next, none) => next.applyAll others
    | (next, some failure) => (next, some failure) := by
  induction calls generalizing canvas with
  | nil => rfl
  | cons call rest ih =>
    rw [List.cons_append, applyAll, applyAll]
    split
    · exact ih
    · rfl

end Canvas

namespace Shell

open Terminal

section Beats

variable {u : Terminal} {s next last : Scheduler} {calls : List Call} {canvas : Canvas}
  {failure : Failure}

theorem draws_of_applyAll (drawn : u.canvas.applyAll calls = (canvas, none)) (count : Nat) :
    host.Draws u count calls { u with canvas := canvas } := by
  induction calls generalizing u count with
  | nil =>
    obtain ⟨rfl, _⟩ := Prod.mk.inj drawn
    exact .nothing u count
  | cons call rest ih =>
    rw [Canvas.applyAll] at drawn
    split at drawn
    · rename_i middle first
      refine .call (by simp only [host, first]) ?_
      have later := ih (u := { u with canvas := middle }) drawn (count + 1)
      simpa only [host, first] using later
    · exact absurd (Prod.mk.inj drawn).2 (Option.some_ne_none _)

theorem paint_of_failing (fails : u.canvas.applyAll calls = (canvas, some failure))
    (leaf : Command) (primitive : Primitive) :
    ∃ v t, host.paint leaf primitive calls u s = (v, t, .failed failure) := by
  induction calls generalizing u s with
  | nil => exact absurd (Prod.mk.inj fails).2.symm (Option.some_ne_none _)
  | cons call rest ih =>
    rw [Canvas.applyAll] at fails
    rw [Host.paint]
    split at fails
    · rename_i middle first
      simp only [host, first]
      exact ih (u := { u with canvas := middle }) fails
    · rename_i middle other first
      obtain ⟨_, same⟩ := Prod.mk.inj fails
      obtain rfl := Option.some.inj same
      obtain rfl := Canvas.apply_failure (congrArg Prod.snd first)
      simp only [host, first]
      exact ⟨_, _, rfl⟩

theorem announce_canvas (notice : Notice) : (host.announce u s notice).canvas = u.canvas := by
  unfold Host.announce
  generalize s.observersOf notice.event = ids
  induction ids generalizing u with
  | nil => rfl
  | cons id rest ih =>
    obtain ⟨outputs, told⟩ := tell_frame u id notice
    refine ih.trans ?_
    beta_reduce
    rw [told]

theorem going_of_beat? (beat : s.beat? = some next) : ¬s.Ending := by
  rintro ⟨phase, halts⟩
  rw [Scheduler.beat?, show s.step = (s.step.1, .halt phase) from Prod.ext rfl halts] at beat
  contradiction

/-- A beat of the scheduler is one at a terminal, if the drawing can carry out its calls.  If it
cannot, the step fails. -/
theorem beat_of_beat? (u : Terminal) (beat : s.beat? = some next) :
    ∃ made, next.calls = made.reverse ++ s.calls ∧
      (∀ canvas, u.canvas.applyAll made = (canvas, none) → ∃ v upshot,
        host.beat u s = (v, next, upshot) ∧ (upshot = .drawn ∨ upshot = .onward) ∧
          v.canvas = canvas) ∧
      ∀ canvas failure, u.canvas.applyAll made = (canvas, some failure) →
        ∃ v t, host.beat u s = (v, t, .failed failure) := by
  have nothing : ∀ {canvas : Canvas} {failure? : Option Failure},
      u.canvas.applyAll [] = (canvas, failure?) → u.canvas = canvas ∧ failure? = none :=
    fun same => ⟨(Prod.mk.inj same).1, (Prod.mk.inj same).2.symm⟩
  have undrawn : s.step.1.calls = s.calls := by
    obtain ⟨queue, stack, journal, steps, registry, frame⟩ := s.step_frame
    rw [frame]
  unfold Host.beat
  rcases Scheduler.beat?_cases beat with
    stepped | ⟨after, leaf, primitive, calls, stack?, stepped, recorded, rfl⟩ |
      ⟨after, fault, stack?, stepped, recorded, rfl⟩ <;> rw [stepped] at undrawn ⊢
  · refine ⟨[], undrawn, fun canvas drawn => ?_, fun canvas failure fails => ?_⟩
    · exact ⟨u, .onward, rfl, Or.inr rfl, (nothing drawn).1⟩
    · exact absurd (nothing fails).2 (Option.some_ne_none _)
  · refine ⟨calls, congrArg (calls.reverse ++ ·) undrawn, fun canvas drawn => ?_,
      fun canvas failure fails => paint_of_failing fails leaf primitive⟩
    have painted := (Host.paint_of_draws (draws_of_applyAll drawn _) leaf primitive).trans
      (Host.paint_nil_of_snapshot (s := after.drawn calls) recorded leaf primitive)
    exact ⟨_, .drawn, painted, Or.inl rfl, announce_canvas _⟩
  · refine ⟨[], undrawn, fun canvas drawn => ?_, fun canvas failure fails => ?_⟩
    · exact ⟨_, .onward, Host.report_of_snapshot recorded u fault, Or.inr rfl,
        (announce_canvas _).trans (nothing drawn).1⟩
    · exact absurd (nothing fails).2 (Option.some_ne_none _)

theorem reaches_resume {upshot : Upshot} (awaiting : Awaiting u s)
    (onward : upshot = .drawn ∨ upshot = .onward) :
    ∃ v, Reaches (host.course act) (host.resume (u, s, upshot)) (.stepping v s) ∧ Awaiting v s ∧
      v.canvas = u.canvas := by
  rcases onward with rfl | rfl
  · rw [Host.resume]
    split
    · rename_i paced
      refine ⟨_, (reaches_past_pause awaiting).to_reflTransGen, ?_, rfl⟩
      have animate : s.settings.animate = true := (Bool.and_eq_true_iff.mp paced).1
      exact { awaiting with unpaused := fun plain => absurd (plain.symm.trans animate) (by decide) }
    · exact ⟨u, .refl, awaiting, rfl⟩
  · exact ⟨u, .refl, awaiting, rfl⟩

/-- Beats of a scheduler are performed one after another, up to where the drawing fails. -/
theorem reaches_beats {count : Nat} {made : List Call} (beats : Scheduler.Beats count s last)
    (awaiting : Awaiting u s) (made_eq : last.calls = made.reverse ++ s.calls) :
    (∀ canvas, u.canvas.applyAll made = (canvas, none) → ∃ v,
      Reaches (host.course act) (.stepping u s) (.stepping v last) ∧ Awaiting v last ∧
        v.canvas = canvas) ∧
    ∀ canvas failure, u.canvas.applyAll made = (canvas, some failure) → ∃ v t,
      Reaches (host.course act) (.stepping u s) (host.resume (v, t, .failed failure)) ∧
        Awaiting v t ∧ t.settings = s.settings := by
  induction beats generalizing u made with
  | zero s =>
    obtain rfl : made = [] := by simpa using made_eq
    refine ⟨fun canvas drawn => ?_, fun canvas failure fails => ?_⟩
    · exact ⟨u, .refl, awaiting, (Prod.mk.inj drawn).1⟩
    · exact absurd (Prod.mk.inj fails).2.symm (Option.some_ne_none _)
  | @succ count s next last beat beats ih =>
    obtain ⟨first, first_eq, draws, breaks⟩ := beat_of_beat? u beat
    obtain ⟨later, later_eq⟩ := beats.calls
    obtain rfl : made = first ++ later := by
      rw [later_eq, first_eq, ← List.append_assoc, ← List.reverse_append] at made_eq
      exact (List.reverse_injective (List.append_cancel_right made_eq)).symm
    have kept := Host.beat_keeps keeps_awaiting (going_of_beat? beat) awaiting.step
    have settled : (host.beat u s).2.1.settings = s.settings :=
      Host.beat_settings (going_of_beat? beat)
    have went : Reaches (host.course act) (.stepping u s) (host.resume (host.beat u s)) :=
      .single rfl
    -- The calls of this beat come first: the drawing fails at one of them, or later if ever.
    cases drawn : u.canvas.applyAll first with
    | mk middle failure? =>
      rw [Canvas.applyAll_append, drawn]
      cases failure? with
      | some failure =>
        refine ⟨fun canvas whole => ?_, fun canvas other fails => ?_⟩
        · exact absurd (Prod.mk.inj whole).2 (Option.some_ne_none _)
        · obtain rfl := Option.some.inj (Prod.mk.inj fails).2
          obtain ⟨v, t, beaten⟩ := breaks middle failure drawn
          rw [beaten] at went kept settled
          exact ⟨v, t, went, kept, settled⟩
      | none =>
        obtain ⟨v, upshot, beaten, onward, canvas_eq⟩ := draws middle drawn
        rw [beaten] at went kept settled
        obtain ⟨w, resumed, awaiting', same⟩ := reaches_resume kept onward
        obtain ⟨performs, fails⟩ := ih awaiting' later_eq
        rw [same, canvas_eq] at performs fails
        refine ⟨fun canvas drawn => ?_, fun canvas failure broken => ?_⟩
        · obtain ⟨x, reaches, rest⟩ := performs canvas drawn
          exact ⟨x, (went.trans resumed).trans reaches, rest⟩
        · obtain ⟨x, t, reaches, rest, settings⟩ := fails canvas failure broken
          exact ⟨x, t, (went.trans resumed).trans reaches, rest, settings.trans settled⟩

end Beats

/-! ## What is put out -/

section Outputs

variable {u : Terminal} {s : Scheduler} {before : List Output}

theorem keeps_outputs (before : List Output) : host.Keeps fun u _ => before <:+ u.outputs where
  enter _ _ _ kept := kept
  report _ _ kept := kept
  draw _ kept := kept
  tell _ notice kept := by
    cases notice with
    | afterPrimitive leaf =>
      cases described : leaf.describe? with
      | none => simpa [host, described] using kept
      | some line =>
        simp only [host, described]
        exact kept.trans (List.suffix_cons _ _)
    | _ => exact kept

theorem close_outputs (phase : Phase) : (host.close u s phase).1.outputs = u.outputs := by
  by_cases running : s.phase = .running
  · rw [Host.close_of_running running, announce_silent (by simp [Notice.event])]
    generalize s.callbacks = ids
    induction ids generalizing u with
    | nil => rfl
    | cons id rest ih => exact ih
  · rw [Host.close, if_neg running]

/-- Nothing that has been put out is taken back. -/
theorem course_outputs {scene next : Scene Terminal} (went : next ∈ host.course act scene) :
    scene.foreign.outputs <:+ next.foreign.outputs := by
  cases scene with
  | stepping u s =>
    obtain rfl := Option.some.inj went
    have beaten : u.outputs <:+ (host.beat u s).1.outputs := by
      by_cases ending : s.Ending
      · obtain ⟨phase, halts⟩ := ending
        rw [Host.beat_of_halt (Prod.ext rfl halts), close_outputs]
      · exact Host.beat_keeps (keeps_outputs u.outputs) ending (List.suffix_refl _)
    generalize host.beat u s = b at beaten
    obtain ⟨v, t, upshot⟩ := b
    cases upshot with
    | drawn =>
      rw [Host.resume]
      split <;> exact beaten
    | onward => exact beaten
    | ended => exact beaten
    | failed failure =>
      change u.outputs <:+ (host.close v t .cancelled).1.outputs
      rw [close_outputs]
      exact beaten
  | outside u s signal =>
    have passed : ∀ {next}, u.pass s = some next → u.outputs <:+ next.foreign.outputs := by
      intro next passes
      unfold Terminal.pass at passes
      split at passes
      · obtain rfl := Option.some.inj passes
        unfold Scene.fire
        split
        · exact List.suffix_cons _ _
        · split <;> exact List.suffix_cons _ _
      · contradiction
    cases signal with
    | called =>
      obtain rfl := Option.some.inj went
      exact List.suffix_refl _
    | returned => exact passed went
    | answered => exact passed went
    | raised failure =>
      change (if u.waiting then u.pass s else none) = some next at went
      split at went
      · exact passed went
      · contradiction

theorem reaches_outputs {scene last : Scene Terminal}
    (reaches : Reaches (host.course act) scene last) :
    scene.foreign.outputs <:+ last.foreign.outputs := by
  induction reaches with
  | refl => exact List.suffix_refl _
  | tail _ went ih => exact ih.trans (course_outputs went)

end Outputs

end Shell

end Turtle
