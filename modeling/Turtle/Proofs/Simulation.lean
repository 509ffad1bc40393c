import Turtle.Proofs.Beat

/-!
# Beats carry out meanings

What lies on the stack is a job that is in progress, and what waits in the queue is a job that has
not begun.  Beats carry out the job on top, down to what lies below it, if and only if the job has a
meaning, and then they leave the world of that meaning.
-/

set_option autoImplicit false

namespace Turtle

/-- A job lies on a stack, ready to be carried out, above what lies below.  A loop may be between
two rounds. -/
inductive Job.Lies (below : List Frame) : Job → List Frame → Prop where
  | one (command : Command) : Lies below (.one command) (Frame.ofCommand command :: below)
  | all (commands : List Command) : Lies below (.all commands) (Frame.load commands below)
  | rounds (count : Int) (body : List Command) (at? : Option Location) (begun : Nat) :
    Lies below (.rounds (count - begun).toNat body) (Frame.ofLoop count body at? begun :: below)

theorem Job.Lies.loop {below : List Frame} (count : Int) (body : List Command)
    (at? : Option Location) :
    Job.Lies below (.rounds count.toNat body)
      (Frame.ofCommand (.loop count body at?) :: below) := by
  have all : Job.Lies below _ (Frame.ofLoop count body at? 0 :: below) :=
    .rounds count body at? 0
  rwa [Int.natCast_zero, Int.sub_zero] at all

/-- What has a meaning can be written down where that is called for. -/
theorem Executes.writes {settings : Settings} {command : Command} {w w' : World}
    (executes : Executes settings.verbose (.one command) w w') : settings.Writes command := by
  intro verbose
  cases executes with
  | loop at? writable _ =>
    rw [Command.describe?]
    simpa using writable verbose
  | _ => exact Option.some_ne_none _

theorem Executes.writes_all {settings : Settings} {commands : List Command} {w w' : World}
    (executes : Executes settings.verbose (.all commands) w w') :
    ∀ command ∈ commands, settings.Writes command := by
  induction commands generalizing w with
  | nil => exact fun _ member => absurd member List.not_mem_nil
  | cons command rest ih =>
    cases executes with
    | next first later => exact List.forall_mem_cons.mpr ⟨first.writes, ih later⟩

/-- Whatever job lies on a stack, its meaning can be had by beats: they leave what lies below. -/
theorem Executes.beats {settings : Settings} {job : Job} {w w' : World}
    (executes : Executes settings.verbose job w w') {cycle : Nat} {before : List Call}
    {below stack : List Frame} {waiting : List Command} {s : Scheduler}
    (settings_eq : s.settings = settings) (lies : job.Lies below stack)
    (here : s.At cycle before w stack waiting) :
    ∃ count next, Scheduler.Beats count s next ∧ next.At cycle before w' below waiting := by
  induction executes generalizing below stack s with
  | define w name params body at? =>
    cases lies
    obtain ⟨next, beat, there⟩ := here.beat_define
    exact ⟨1, next, .succ beat (.zero next), there⟩
  | loop at? _ _ ih =>
    cases lies
    exact ih settings_eq (.loop _ _ at?) here
  | call found bound carried ih =>
    cases lies
    obtain ⟨next, beat, there⟩ := here.beat_call found bound (settings_eq ▸ carried.writes_all)
    obtain ⟨count, last, beats, done⟩ :=
      ih ((Scheduler.beat?_settings beat).trans settings_eq) (.all _) there
    exact ⟨count + 1, last, .succ beat beats, done⟩
  | refused found refused =>
    cases lies
    obtain ⟨next, beat, there⟩ := here.beat_refused found refused
    exact ⟨1, next, .succ beat (.zero next), there⟩
  | unknown undefined unknown =>
    cases lies
    obtain ⟨next, beat, there⟩ := here.beat_unknown undefined unknown
    exact ⟨1, next, .succ beat (.zero next), there⟩
  | unfit undefined known unfit =>
    cases lies
    obtain ⟨next, beat, there⟩ := here.beat_unfit undefined known unfit
    exact ⟨1, next, .succ beat (.zero next), there⟩
  | draw undefined known fit =>
    cases lies
    obtain ⟨next, beat, there⟩ := here.beat_draw undefined known fit
    exact ⟨1, next, .succ beat (.zero next), there⟩
  | nothing w =>
    cases lies
    exact ⟨0, s, .zero s, here⟩
  | next _ _ ihOne ihRest =>
    cases lies
    obtain ⟨first, middle, beats, there⟩ := ihOne settings_eq (.one _) here
    obtain ⟨second, last, others, done⟩ :=
      ihRest (beats.settings.trans settings_eq) (.all _) there
    exact ⟨first + second, last, beats.append others, done⟩
  | idle w body =>
    generalize counted : Job.rounds 0 body = job at lies
    cases lies with
    | one command => simp at counted
    | all commands => simp at counted
    | rounds count body at? begun =>
      simp only [Job.rounds.injEq] at counted
      obtain ⟨next, beat, there⟩ := here.beat_over (by omega)
      exact ⟨1, next, .succ beat (.zero next), there⟩
  | @round w w' w'' left body carried _ ihBody ihRounds =>
    generalize counted : Job.rounds (left + 1) body = job at lies
    cases lies with
    | one command => simp at counted
    | all commands => simp at counted
    | rounds count body at? begun =>
      simp only [Job.rounds.injEq] at counted
      obtain ⟨counted, rfl⟩ := counted
      obtain ⟨next, beat, there⟩ := here.beat_round (by omega) (settings_eq ▸ carried.writes_all)
      have settings_next := (Scheduler.beat?_settings beat).trans settings_eq
      obtain ⟨first, middle, beats, between⟩ := ihBody settings_next (.all _) there
      have fewer : left = (count - (begun + 1 : Nat)).toNat := by omega
      subst fewer
      obtain ⟨second, last, others, done⟩ :=
        ihRounds (beats.settings.trans settings_next) (.rounds _ _ _ _) between
      exact ⟨first + second + 1, last, .succ beat (beats.append others), done⟩

namespace Scheduler

theorem Beats.rest {count : Nat} {s next last : Scheduler} (run : Beats count s last)
    (apart : s ≠ last) (beat : s.beat? = some next) :
    ∃ left, count = left + 1 ∧ Beats left next last := by
  cases run with
  | zero => exact absurd rfl apart
  | succ first rest =>
    obtain rfl := Option.some.inj (first.symm.trans beat)
    exact ⟨_, rfl, rest⟩

theorem Beats.beat_isSome {count : Nat} {s last : Scheduler} (run : Beats count s last)
    (apart : s ≠ last) : s.beat? ≠ none := by
  cases run with
  | zero => exact absurd rfl apart
  | succ first _ => simp [first]

variable {cycle : Nat} {before : List Call} {w final : World} {s last : Scheduler}

theorem At.ne_of_frame {frame : Frame} {below : List Frame} {waiting : List Command}
    (here : s.At cycle before w (frame :: below) waiting)
    (ended : last.At cycle before final [] []) : s ≠ last := by
  rintro rfl
  have stacked := here.stack_eq.symm.trans ended.stack_eq
  simp at stacked

theorem At.ne_of_waiting {command : Command} {stack : List Frame} {waiting : List Command}
    (here : s.At cycle before w stack (command :: waiting))
    (ended : last.At cycle before final [] []) : s ≠ last := by
  rintro rfl
  have queued := here.waiting_eq.symm.trans ended.waiting_eq
  simp at queued

end Scheduler

namespace Job

open Scheduler

/-- If beats that begin on a job go on to the end of everything, then the job has a meaning, and
they come to its end on the way. -/
def Yields (settings : Settings) (count : Nat) (job : Job) : Prop :=
  ∀ {cycle : Nat} {before : List Call} {below stack : List Frame} {waiting : List Command}
    {s last : Scheduler} {w final : World},
    s.settings = settings → job.Lies below stack → s.At cycle before w stack waiting →
      Beats count s last → last.At cycle before final [] [] →
      ∃ w' left next, left ≤ count ∧ Executes settings.verbose job w w' ∧
        next.settings = settings ∧ next.At cycle before w' below waiting ∧ Beats left next last

variable {settings : Settings} {count : Nat}

theorem yields_rounds (fewer : ∀ less < count, ∀ job : Job, job.Yields settings less)
    (rounds : Nat) (body : List Command) : (Job.rounds rounds body).Yields settings count := by
  intro cycle before below stack waiting s last w final settings_eq lies here run ended
  have apart : s ≠ last := by
    cases lies
    exact here.ne_of_frame ended
  cases lies with
  | rounds total body at? begun =>
    by_cases more : (begun : Int) < total
    · obtain ⟨next, beat, there⟩ :=
        (here.round_cases more).resolve_right fun ⟨_, next, fails⟩ =>
          run.beat_isSome apart (beat_fail fails)
      obtain ⟨left, rfl, rest⟩ := run.rest apart beat
      obtain ⟨w₁, left₁, next₁, le₁, executes₁, settings₁, there₁, rest₁⟩ :=
        fewer left (by omega) (.all body) ((beat?_settings beat).trans settings_eq) (.all body)
          there rest ended
      obtain ⟨w₂, left₂, next₂, le₂, executes₂, settings₂, there₂, rest₂⟩ :=
        fewer left₁ (by omega) _ settings₁ (.rounds total body at? (begun + 1)) there₁ rest₁ ended
      refine ⟨w₂, left₂, next₂, by omega, ?_, settings₂, there₂, rest₂⟩
      have split : (total - begun).toNat = (total - (begun + 1 : Nat)).toNat + 1 := by omega
      rw [split]
      exact .round executes₁ executes₂
    · obtain ⟨next, beat, there⟩ := here.beat_over more
      obtain ⟨left, rfl, rest⟩ := run.rest apart beat
      refine ⟨w, left, next, by omega, ?_, (beat?_settings beat).trans settings_eq, there, rest⟩
      have none : (total - begun).toNat = 0 := by omega
      rw [none]
      exact .idle w body

theorem yields_leaf (fewer : ∀ less < count, ∀ job : Job, job.Yields settings less) (op : String)
    (args : List String) (at? : Option Location) :
    (one (.leaf op args at?)).Yields settings count := by
  intro cycle before below stack waiting s last w final settings_eq lies here run ended
  cases lies
  have apart : s ≠ last := here.ne_of_frame ended
  have onward : ∀ {next : Scheduler}, s.beat? = some next → next.settings = settings :=
    fun beat => (beat?_settings beat).trans settings_eq
  cases lookup : w.registry.get? op with
  | some procedure =>
    cases bound : procedure.bind args at? with
    | ok body =>
      obtain ⟨next, beat, there⟩ :=
        (here.call_cases lookup bound).resolve_right fun ⟨_, next, fails⟩ =>
          run.beat_isSome apart (beat_fail fails)
      obtain ⟨left, rfl, rest⟩ := run.rest apart beat
      obtain ⟨w', left', next', le, executes, settings', there', rest'⟩ :=
        fewer left (by omega) (.all body) (onward beat) (.all body) there rest ended
      exact ⟨w', left', next', by omega, .call lookup bound executes, settings', there', rest'⟩
    | error fault =>
      obtain ⟨next, beat, there⟩ := here.beat_refused lookup bound
      obtain ⟨left, rfl, rest⟩ := run.rest apart beat
      exact ⟨_, left, next, by omega, .refused lookup bound, onward beat, there, rest⟩
  | none =>
    cases known : Primitive.ofWord? op with
    | none =>
      obtain ⟨next, beat, there⟩ := here.beat_unknown lookup known
      obtain ⟨left, rfl, rest⟩ := run.rest apart beat
      exact ⟨_, left, next, by omega, .unknown lookup known, onward beat, there, rest⟩
    | some primitive =>
      cases fit : primitive.calls args with
      | error cause =>
        obtain ⟨next, beat, there⟩ := here.beat_unfit lookup known fit
        obtain ⟨left, rfl, rest⟩ := run.rest apart beat
        exact ⟨_, left, next, by omega, .unfit lookup known fit, onward beat, there, rest⟩
      | ok calls =>
        obtain ⟨next, beat, there⟩ := here.beat_draw lookup known fit
        obtain ⟨left, rfl, rest⟩ := run.rest apart beat
        exact ⟨_, left, next, by omega, .draw lookup known fit, onward beat, there, rest⟩

theorem yields_one (fewer : ∀ less < count, ∀ job : Job, job.Yields settings less)
    (command : Command) : (one command).Yields settings count := by
  cases command with
  | leaf op args at? => exact yields_leaf fewer op args at?
  | loop total body at? =>
    intro cycle before below stack waiting s last w final settings_eq lies here run ended
    cases lies
    -- The loop is on the stack already, and so its count can be written if that is called for.
    have writable : settings.verbose = true → Number.writeInteger total ≠ none := by
      intro verbose
      have written := here.written _ (List.mem_cons_self ..) (settings_eq ▸ verbose)
      simpa [Command.describe?] using written
    obtain ⟨w', left, next, le, executes, settings', there, rest⟩ :=
      yields_rounds fewer total.toNat body settings_eq (.loop total body at?) here run ended
    exact ⟨w', left, next, le, .loop at? writable executes, settings', there, rest⟩
  | define name params body at? =>
    intro cycle before below stack waiting s last w final settings_eq lies here run ended
    cases lies
    obtain ⟨next, beat, there⟩ := here.beat_define
    obtain ⟨left, rfl, rest⟩ := run.rest (here.ne_of_frame ended) beat
    exact ⟨_, left, next, by omega, .define w name params body at?,
      (beat?_settings beat).trans settings_eq, there, rest⟩
  | stray shown? =>
    intro cycle before below stack waiting s last w final settings_eq lies here run ended
    cases lies
    exact absurd here.beat_stray (run.beat_isSome (here.ne_of_frame ended))

theorem yields_all (fewer : ∀ less < count, ∀ job : Job, job.Yields settings less)
    (commands : List Command) : (all commands).Yields settings count := by
  induction commands with
  | nil =>
    intro cycle before below stack waiting s last w final settings_eq lies here run ended
    cases lies
    exact ⟨w, count, s, Nat.le_refl count, .nothing w, settings_eq, here, run⟩
  | cons command commands ih =>
    intro cycle before below stack waiting s last w final settings_eq lies here run ended
    cases lies
    obtain ⟨w₁, left₁, next₁, le₁, executes₁, settings₁, there₁, rest₁⟩ :=
      yields_one fewer command settings_eq (.one command) here run ended
    -- The commands after the first one may be left with as many beats as there were.
    have others : (all commands).Yields settings left₁ := by
      rcases Nat.lt_or_eq_of_le le₁ with less | rfl
      · exact fewer left₁ less (.all commands)
      · exact ih
    obtain ⟨w₂, left₂, next₂, le₂, executes₂, settings₂, there₂, rest₂⟩ :=
      others settings₁ (.all commands) there₁ rest₁ ended
    exact ⟨w₂, left₂, next₂, by omega, .next executes₁ executes₂, settings₂, there₂, rest₂⟩

/-- Every job yields its meaning.  The induction is on the number of beats, because a call can
bring in more commands than there were. -/
theorem yields (settings : Settings) (count : Nat) (job : Job) : job.Yields settings count := by
  induction count using Nat.strongRecOn generalizing job with
  | ind count fewer =>
    cases job with
    | one command => exact yields_one fewer command
    | all commands => exact yields_all fewer commands
    | rounds rounds body => exact yields_rounds fewer rounds body

end Job

/-- A queue of commands is carried out to its end if and only if it has a meaning. -/
theorem Scheduler.At.beats_iff {cycle : Nat} {before : List Call} {w w' : World}
    {waiting : List Command} {s : Scheduler} (here : s.At cycle before w [] waiting) :
    (∃ count last, Scheduler.Beats count s last ∧ last.At cycle before w' [] []) ↔
      Executes s.settings.verbose (.all waiting) w w' := by
  generalize settings_eq : s.settings = settings
  constructor
  · rintro ⟨count, last, run, ended⟩
    induction waiting generalizing count s w with
    | nil =>
      cases run with
      | zero =>
        have same : w = w' := by
          obtain ⟨registry, calls, faults⟩ := w
          obtain ⟨registry', calls', faults'⟩ := w'
          have calls_eq := here.calls_eq.symm.trans ended.calls_eq
          have registry_eq := here.registry_eq.symm.trans ended.registry_eq
          have faults_eq := here.faults_eq.symm.trans ended.faults_eq
          simp_all
        exact same ▸ .nothing w
      | succ beat _ => simp [Scheduler.beat?, here.step_exhausted] at beat
    | cons command waiting ih =>
      have apart : s ≠ last := here.ne_of_waiting ended
      obtain ⟨next, beat, there⟩ | ⟨_, next, fails⟩ := here.dequeue_cases
      swap
      · exact absurd (Scheduler.beat_fail fails) (run.beat_isSome apart)
      obtain ⟨left, rfl, rest⟩ := run.rest apart beat
      obtain ⟨w₁, left₁, next₁, _, executes, settings₁, there₁, rest₁⟩ :=
        Job.yields settings left (.one command) ((Scheduler.beat?_settings beat).trans settings_eq)
          (.one command) there rest ended
      exact .next executes (ih there₁ settings₁ left₁ rest₁)
  · intro executes
    induction waiting generalizing s w with
    | nil =>
      cases executes
      exact ⟨0, s, .zero s, here⟩
    | cons command waiting ih =>
      cases executes with
      | next executes rest =>
        obtain ⟨next, beat, there⟩ := here.beat_dequeue (settings_eq ▸ executes.writes)
        have settings_next := (Scheduler.beat?_settings beat).trans settings_eq
        obtain ⟨first, middle, beats, between⟩ :=
          executes.beats settings_next (.one command) there
        obtain ⟨second, last, others, ended⟩ :=
          ih between (beats.settings.trans settings_next) rest
        exact ⟨first + second + 1, last, .succ beat (beats.append others), ended⟩

end Turtle
