import Turtle.Proofs.Legible
import Turtle.Proofs.Obliging

/-!
# A plain run has the meaning of its batch

The main result of this part: a batch that is cued while no cycle is running, without pauses, with
nobody watching and a drawing that only draws, is exhausted if and only if it has a meaning; and
then what is drawn, what is reported and what is defined are those of its meaning.
-/

set_option autoImplicit false

/-- A running cycle that makes no pauses and that nobody watches. -/
structure Turtle.Scheduler.Plain (cycle : Nat) (s : Scheduler) : Prop extends Current cycle s where
  plain : s.settings.animate = false
  unobserved : s.observers = []

namespace Turtle.Engine

open StateTransition

/-- Cueing some entries from outside comes to its end, with the cycle exhausted, while all foreign
code returns at once. -/
def Exhausts (s : Scheduler) (entries : List Value) (callback? : Option Nat) (final : Scheduler) :
    Prop :=
  final.phase = .exhausted ∧
    ∃ fuel,
      drive oblige fuel () (cue s entries callback? [.foreign .outside]) =
        ((), ⟨final, [.foreign .outside], .returned⟩)

/-- Cueing some entries from outside ends with a failure, and the cycle is cancelled, while all
foreign code returns at once. -/
def Aborts (s : Scheduler) (entries : List Value) (callback? : Option Nat) (failure : Failure)
    (final : Scheduler) : Prop :=
  final.phase = .cancelled ∧
    ∃ fuel,
      drive oblige fuel () (cue s entries callback? [.foreign .outside]) =
        ((), ⟨final, [.foreign .outside], .raised failure⟩)

variable {cycle : Nat} {s next : Scheduler}

/-- A beat is a part of its cycle. -/
theorem plain_beat (here : s.Plain cycle) (beat : s.beat? = some next) : next.Plain cycle := by
  have recordable := Scheduler.beat?_recordable here.recordable beat
  obtain ⟨queue, stack, journal, steps, registry, reports, made, rfl⟩ := Scheduler.beat?_frame beat
  exact { here with recordable := recordable }

theorem reaches_of_beats {count : Nat} {last : Scheduler} (here : s.Plain cycle)
    (beats : Scheduler.Beats count s last) :
    last.Plain cycle ∧ Reaches obligingCourse (.stepping () s) (.stepping () last) := by
  induction beats with
  | zero s => exact ⟨here, .refl⟩
  | succ beat _ ih =>
    obtain ⟨there, reaches⟩ := ih (plain_beat here beat)
    exact ⟨there, .head (course_beat here.plain beat) reaches⟩

/-- A run that comes back to whoever is outside got there by beats, after the last of which nothing
was left to do. -/
theorem beats_of_reaches {final : Scheduler} (here : s.Plain cycle)
    (reaches : Reaches obligingCourse (.stepping () s) (.outside () final .returned)) :
    ∃ count last, Scheduler.Beats count s last ∧ last.Plain cycle ∧ last.stack = [] ∧
      last.queue.pending = [] := by
  generalize begun : Scene.stepping () s = scene at reaches
  induction reaches using Relation.ReflTransGen.head_induction_on generalizing s with
  | refl => contradiction
  | @head _ scene went rest ih =>
    subst begun
    cases beat : s.beat? with
    | some next =>
      obtain rfl := Option.mem_unique went (course_beat here.plain beat)
      obtain ⟨count, last, beats, done⟩ := ih (plain_beat here beat) rfl
      exact ⟨count + 1, last, .succ beat beats, done⟩
    | none =>
      rcases here.toCurrent.step_of_last beat with ended | ⟨next, failure, fails⟩
      · exact ⟨0, s, .zero s, here, ended⟩
      · -- The failure would have been what comes back.
        obtain ⟨closed, failed⟩ := course_failed fails
        obtain rfl := Option.mem_unique went failed
        rcases rest.cases_head with same | ⟨_, later, _⟩
        · exact absurd (Scene.outside.inj same).2.2 Signal.noConfusion
        · exact absurd later (Option.not_mem_none _)

/-- A run from outside comes to its end where its course does. -/
theorem driven_iff {entries : List Value} {callback? : Option Nat} {final : Scheduler}
    {signal : Signal} :
    (∃ fuel, drive oblige fuel () (cue s entries callback? [.foreign .outside]) =
        ((), ⟨final, [.foreign .outside], signal⟩)) ↔
      Scene.outside () final signal ∈
        eval obligingCourse (obliging.cue () s entries callback?) := by
  have ends : ((), ⟨final, [.foreign .outside], signal⟩) ∈
        eval (turn oblige) ((), cue s entries callback? [.foreign .outside]) ↔
      Scene.outside () final signal ∈
        eval obligingCourse (obliging.cue () s entries callback?) := by
    rw [reaches_eval (serves_oblige.reaches_cue () s entries callback?),
      Host.eval_turn respects_oblige, Part.mem_map_iff]
    refine ⟨?_, fun ended => ⟨_, ended, rfl⟩⟩
    rintro ⟨scene, ended, same⟩
    cases scene with
    | stepping u t => exact absurd (mem_eval.mp ended).2 (Option.some_ne_none _)
    | outside u t other =>
      obtain ⟨rfl, _, rfl⟩ := Engine.mk.inj (Prod.mk.inj same).2
      exact ended
  rw [← ends, mem_eval_turn]
  exact (and_iff_left rfl).symm

theorem exhausts_iff {entries : List Value} {callback? : Option Nat} {final : Scheduler} :
    Exhausts s entries callback? final ↔ final.phase = .exhausted ∧
      Scene.outside () final .returned ∈
        eval obligingCourse (obliging.cue () s entries callback?) :=
  and_congr_right fun _ => driven_iff

theorem exhausts_unique {entries : List Value} {callback? : Option Nat} {first second : Scheduler}
    (exhausts : Exhausts s entries callback? first)
    (exhausts' : Exhausts s entries callback? second) : first = second := by
  have same := Part.mem_unique (exhausts_iff.mp exhausts).2 (exhausts_iff.mp exhausts').2
  exact (Scene.outside.inj same).2.1

theorem obliging_cue {entries : List Value} {batch : List Command} (rests : s.phase ≠ .running)
    (plain : s.settings.animate = false) (coerced : commands entries = .ok batch)
    (callback? : Option Nat) :
    obliging.cue () s entries callback? =
      .stepping () (s.accept batch callback?).beginCycle := by
  rw [Host.cue, coerced]
  dsimp only
  rw [if_neg (by simp [rests]), Host.receive, if_neg rests, if_neg (by simp [plain])]

/-- Cueing while no cycle is running begins one, and its first step is taken at once. -/
theorem cue_begins {entries : List Value} {batch : List Command} (tidy : s.Tidy)
    (rests : s.phase ≠ .running) (plain : s.settings.animate = false)
    (unobserved : s.observers = []) (coerced : commands entries = .ok batch)
    (callback? : Option Nat) :
    ∃ begun : Scheduler,
      begun.At (s.cycle + 1) s.calls ⟨s.registry.defineAll batch, [], []⟩ []
        (batch.filter fun command => !command.isDefinition) ∧
      begun.Plain (s.cycle + 1) ∧ begun.settings = s.settings ∧ begun.steps = 0 ∧
      obliging.cue () s entries callback? = .stepping () begun :=
  ⟨(s.accept batch callback?).beginCycle, tidy.begins rests batch callback?,
    ⟨⟨rfl, rfl, rfl, Scheduler.recordable_of_nil (tidy.stack_eq rests)⟩, plain, unobserved⟩,
    rfl, rfl, obliging_cue rests plain coerced callback?⟩

/-- A plain run that is exhausted is one of a batch that has a meaning. -/
theorem executes_of_exhausts {entries : List Value} {batch : List Command} {final : Scheduler}
    {callback? : Option Nat} (tidy : s.Tidy) (rests : s.phase ≠ .running)
    (plain : s.settings.animate = false) (unobserved : s.observers = [])
    (coerced : commands entries = .ok batch) (exhausts : Exhausts s entries callback? final) :
    ∃ w, Executes.Batch s.settings.verbose batch ⟨s.registry, [], []⟩ w := by
  obtain ⟨begun, here, own, settings_eq, _, cued⟩ :=
    cue_begins tidy rests plain unobserved coerced callback?
  obtain ⟨_, ended⟩ := exhausts_iff.mp exhausts
  rw [cued] at ended
  obtain ⟨count, last, beats, done, empty, none⟩ := beats_of_reaches own (mem_eval.mp ended).1
  obtain ⟨made, calls_eq⟩ := beats.calls
  have before : begun.calls = s.calls := here.calls_eq
  rw [before] at calls_eq
  obtain ⟨w, shown⟩ := done.toCurrent.shows calls_eq
  rw [empty, none] at shown
  exact ⟨w, settings_eq ▸ here.beats_iff.mp ⟨count, last, beats, shown⟩⟩

/-- A plain run aborts if beats lead to a step that fails. -/
theorem aborts_of_beats {count : Nat} {begun last : Scheduler} {failure : Failure}
    {entries : List Value} {callback? : Option Nat} (own : begun.Plain cycle)
    (cued : obliging.cue () s entries callback? = .stepping () begun)
    (beats : Scheduler.Beats count begun last) (fails : last.step = (next, .fail failure)) :
    ∃ final, Aborts s entries callback? failure final := by
  obtain ⟨here, reaches⟩ := reaches_of_beats own beats
  have running : next.phase = .running := by
    have same := last.step_phase
    rw [fails] at same
    exact same.trans here.running
  refine ⟨(next.endCycle .cancelled).1, rfl, driven_iff.mpr ?_⟩
  have failed : obligingCourse (.stepping () last) =
      some (.outside () (next.endCycle .cancelled).1 (.raised failure)) := by
    refine congrArg some ?_
    rw [Host.beat, fails]
    dsimp only
    rw [Host.resume, Host.close_of_running running]
  rw [cued]
  exact mem_eval.mpr ⟨reaches.tail failed, rfl⟩

end Turtle.Engine
