import Turtle.Proofs.Drivers

/-!
# Stacks that can be recorded

A stack on which a number of too many digits lies cannot be recorded.  Where steps are taken inside
of the scheduler only, such a stack does not last: the step that brings it about fails, and so its
cycle is cancelled at once.  There no fault and no primitive goes unrecorded, and no failure comes
to a cycle that has just begun.
-/

set_option autoImplicit false

namespace Turtle

theorem Frame.describeAll?_eq_none_iff (frames : List Frame) :
    describeAll? frames = none ↔ ∃ frame ∈ frames, frame.command.describe? = none := by
  induction frames with
  | nil => simp [describeAll?]
  | cons frame rest ih =>
    cases first : frame.command.describe? with
    | none => simp [describeAll?, first]
    | some text => cases others : describeAll? rest <;> simp_all [describeAll?]

/-- A command can be written down, as it must be if stacks are recorded. -/
def Settings.Writes (settings : Settings) (command : Command) : Prop :=
  settings.verbose = true → command.describe? ≠ none

namespace Scheduler

variable {s t : Scheduler}

theorem recordable_iff (s : Scheduler) :
    s.Recordable ↔ ∀ frame ∈ s.stack, s.settings.Writes frame.command := by
  have described : Frame.describeAll? s.stack.reverse = none ↔
      ∃ frame ∈ s.stack, frame.command.describe? = none := by
    rw [Frame.describeAll?_eq_none_iff]
    simp only [List.mem_reverse]
  unfold Recordable snapshot Settings.Writes
  cases s.settings.verbose with
  | false => simp
  | true =>
    cases found : Frame.describeAll? s.stack.reverse with
    | none => simpa using described.mp found
    | some stack =>
      rw [found] at described
      simpa using described

theorem Recordable.mono (recordable : s.Recordable) (settings_eq : t.settings = s.settings)
    (within : t.stack ⊆ s.stack) : t.Recordable := by
  rw [recordable_iff] at recordable ⊢
  rw [settings_eq]
  exact fun frame member => recordable frame (within member)

theorem recordable_of_nil (empty : s.stack = []) : s.Recordable := by
  simp [recordable_iff, empty]

theorem Noted.recordable (noted : Noted s t) (recordable : s.Recordable) : t.Recordable := by
  obtain ⟨journal, reports, calls, rfl⟩ := noted
  exact recordable.mono rfl (List.Subset.refl _)

theorem complete_recordable (s : Scheduler) (event : StepEvent) (at? : Option Location) :
    (s.complete event at?).1.Recordable ∨ ∃ failure, (s.complete event at?).2 = .fail failure := by
  rcases s.complete_cases event at? with ⟨stack?, recorded, completed⟩ | ⟨_, completed⟩
  · rw [completed]
    exact Or.inl (Recordable.mono ⟨stack?, recorded⟩ rfl (List.Subset.refl _))
  · rw [completed]
    exact Or.inr ⟨_, rfl⟩

theorem operate_recordable (recordable : s.Recordable) (op : String) (args : List String)
    (at? : Option Location) :
    (s.operate op args at?).1.Recordable ∨
      ∃ failure, (s.operate op args at?).2 = .fail failure := by
  unfold operate
  split
  · split
    · exact Or.inl recordable
    · exact complete_recordable _ _ _
  · split
    · exact Or.inl recordable
    · split <;> exact Or.inl recordable

/-- A step that does not fail leaves a stack that can be recorded. -/
theorem step_recordable (recordable : s.Recordable) :
    s.step.1.Recordable ∨ ∃ failure, s.step.2 = .fail failure := by
  unfold step
  split
  · exact Or.inl recordable
  split
  · exact Or.inl recordable
  dsimp only
  split
  · rename_i frame below stacked
    have popped : ∀ t : Scheduler, t.settings = s.settings → t.stack = below → t.Recordable := by
      intro t settings_eq stack_eq
      refine recordable.mono settings_eq ?_
      rw [stack_eq, stacked]
      exact List.subset_cons_self _ _
    unfold advance
    split
    · split
      · split <;> exact complete_recordable _ _ _
      · exact Or.inr ⟨_, rfl⟩
    · exact complete_recordable _ _ _
    · exact Or.inr ⟨_, rfl⟩
    · exact operate_recordable (s := { s with steps := s.steps + 1, stack := below })
        (popped _ rfl rfl) _ _ _
  · split
    · exact Or.inl (recordable.mono rfl (List.Subset.refl _))
    · exact complete_recordable _ _ _

end Scheduler

namespace Engine

open Scheduler

variable {s : Scheduler} {tasks : List Task}

/-- The stack can be recorded, unless a failure has just reached the loop of steps. -/
def Recordable (e : Engine) : Prop :=
  e.failing = true ∨ e.sched.Recordable

theorem halt_recordable (recordable : s.Recordable) (phase : Phase) :
    (halt s phase tasks).sched.Recordable := by
  by_cases running : s.phase = .running
  · rw [halt_of_running running, announce_sched]
    exact recordable_of_nil rfl
  · rw [halt_of_rest running]
    exact recordable

theorem takeStep_recordable (recordable : s.Recordable) :
    (takeStep s (.running :: tasks)).Recordable := by
  rcases step_recordable recordable with stays | ⟨failure, fails⟩
  · rcases takeStep_noted s (.running :: tasks) with noted | ⟨next, phase, stepped, halts⟩
    · exact Or.inr (noted.recordable stays)
    · rw [stepped] at stays
      rw [halts]
      exact Or.inr (halt_recordable stays phase)
  · obtain ⟨next, work, stepped⟩ : ∃ next work, s.step = (next, work) := ⟨_, _, rfl⟩
    rw [stepped] at fails
    obtain rfl : work = .fail failure := fails
    rw [takeStep, stepped]
    exact Or.inl rfl

theorem receive_recordable (recordable : s.Recordable) (batch : List Command)
    (callback? : Option Nat) : (receive s batch callback? tasks).sched.Recordable := by
  unfold receive
  split
  · exact recordable.mono rfl (List.Subset.refl _)
  · split
    · exact recordable
    · rw [announce_sched]
      exact recordable.mono rfl (List.Subset.refl _)

theorem recordable_of_foreign {site : Site} {signal : Signal}
    (recordable : Recordable ⟨s, .foreign site :: tasks, signal⟩) : s.Recordable := by
  rw [Recordable, (of_foreign s site tasks signal).2.1] at recordable
  exact recordable.resolve_left Bool.false_ne_true

variable {rules : Rules} {e next : Engine} {turn : Turn}

/-- A turn that is no step from outside of the loop of steps leaves a stack that can be recorded, or
its failure has reached that loop. -/
theorem Acts.recordable (acts : Acts rules e turn next) (tidy : e.sched.Tidy)
    (unstepped : ∀ site, rules site .step = false) (recordable : e.Recordable) :
    next.Recordable := by
  cases acts with
  | start s tasks => exact takeStep_recordable (recordable.resolve_left Bool.false_ne_true)
  | goOn s tasks => exact takeStep_recordable (recordable.resolve_left Bool.false_ne_true)
  | cancel s failure tasks =>
    by_cases running : s.phase = .running
    · rw [halt_of_running running]
      exact Or.inr (by rw [announce_sched]; exact recordable_of_nil rfl)
    · rw [halt_of_rest running]
      exact Or.inr (recordable_of_nil (tidy.stack_eq running))
  | receive => exact Or.inr (receive_recordable (recordable.resolve_left Bool.false_ne_true) _ _)
  | complain =>
    exact Or.inr ((report_noted _ _ _).recordable (recordable.resolve_left Bool.false_ne_true))
  | spoil =>
    exact Or.inr ((report_noted _ _ _).recordable (recordable.resolve_left Bool.false_ne_true))
  | paint =>
    exact Or.inr
      ((paint_noted _ _ _ _ _).recordable (recordable.resolve_left Bool.false_ne_true))
  | tell =>
    exact Or.inr (by rw [tell_sched]; exact recordable.resolve_left Bool.false_ne_true)
  | tellFault =>
    exact Or.inr (by rw [tellFault_sched]; exact recordable.resolve_left Bool.false_ne_true)
  | settle =>
    exact Or.inr (by rw [settle_sched]; exact recordable.resolve_left Bool.false_ne_true)
  | pause =>
    have before := recordable.resolve_left Bool.false_ne_true
    unfold Engine.pause
    split <;> exact Or.inr (before.mono rfl (List.Subset.refl _))
  | pass s task failure tasks passes =>
    cases passes <;> exact Or.inr (recordable.resolve_left Bool.false_ne_true)
  | giveUp =>
    exact Or.inr ((recordable.resolve_left Bool.false_ne_true).mono rfl (List.Subset.refl _))
  | supersede => exact Or.inr (halt_recordable (recordable_of_foreign recordable) _)
  | cue => exact Or.inr (receive_recordable (recordable_of_foreign recordable) _ _)
  | step s site tasks signal allowed =>
    exact absurd allowed (by rw [unstepped]; exact Bool.false_ne_true)
  | resume s site tasks signal =>
    exact takeStep_recordable
      ((recordable_of_foreign recordable).mono rfl (List.Subset.refl _))
  | leaveOff | rethrow | answer => exact Or.inr (recordable.resolve_left Bool.false_ne_true)
  | _ => exact Or.inr ((recordable_of_foreign recordable).mono rfl (List.Subset.refl _))

end Engine

/-! ## Failures that are reported -/

/-- What fails above a task is reported, if it can be, and then the task does not hear of it. -/
def Task.isSheltered : Task → Bool
  | .starting | .pausing | .stepped true => true
  | _ => false

/-- An observer fails, and that cannot be reported, because the stack cannot be recorded. -/
inductive Moment.Unreported (notice : Notice) : Moment → Prop where
  | intro (s : Scheduler) (others : List Nat) (tasks : List Task) (failure : Failure)
    (after : Engine) :
    ¬s.Recordable →
      Unreported notice ⟨⟨s, .announcing notice others :: tasks, .raised failure⟩, .work, after⟩

/-- What a failure passes through never lies on such a task. -/
theorem Task.On.unsheltered {rules : Rules} {upper lower : Task} {failure : Failure}
    (on : upper.On rules lower) (passes : upper.Passes failure) : lower.isSheltered = false := by
  cases passes with
  | cueing => cases on; rfl
  | starting => cases on; rfl
  | rethrow => cases on; rfl
  | pausing => cases on with
    | pausing drives => cases drives <;> rfl
  | settling => cases on with
    | settling _ _ halts => cases halts <;> rfl
  | stepped => cases on with
    | stepped _ drives => cases drives <;> rfl
  | painting => cases on with
    | painting _ _ _ drives => cases drives <;> rfl

namespace Engine

variable {s : Scheduler} {tasks : List Task}

/-- A failure has not come to a task for which it should have been reported. -/
def Sheltered (e : Engine) : Prop :=
  ∀ task tasks failure, e.tasks = task :: tasks → e.signal = .raised failure →
    task.isSheltered = false

/-- No failure has come to a cycle that has just begun. -/
def Unbroken (e : Engine) : Prop :=
  ∀ tasks failure, e.tasks = .starting :: tasks → e.signal ≠ .raised failure

/-- A failure comes to a task for which it should have been reported only if the stack cannot be
recorded, and to a cycle that has just begun only if this is how it has come about. -/
def Hears (unreported : Prop) (e : Engine) : Prop :=
  ∀ task tasks failure, e.tasks = task :: tasks → e.signal = .raised failure →
    task.isSheltered = false ∨ ¬e.sched.Recordable ∧ (task = .starting → unreported)

variable {unreported : Prop}

theorem hears_of_heard {e : Engine} (heard : ∀ failure, e.signal ≠ .raised failure) :
    e.Hears unreported :=
  fun _ _ failure _ raised => absurd raised (heard failure)

theorem hears_of_task {s : Scheduler} {task : Task} {tasks : List Task} {signal : Signal}
    (exposed : task.isSheltered = false) : Hears unreported ⟨s, task :: tasks, signal⟩ := by
  intro other _ _ top _
  obtain ⟨rfl, _⟩ := List.cons.inj top
  exact Or.inl exposed

theorem report_hears {lower : Task}
    (starts : ¬s.Recordable → lower = .starting → unreported) (fault : Fault) :
    (report s fault (lower :: tasks)).Hears unreported := by
  rcases report_cases s fault (lower :: tasks) with ⟨_, _, reported⟩ | ⟨unrecordable, reported⟩
  · rw [reported]
    exact hears_of_heard (tellFault_heard _ _ _ _)
  · rw [reported]
    intro other _ _ top _
    obtain ⟨rfl, _⟩ := List.cons.inj top
    exact Or.inr ⟨unrecordable, starts unrecordable⟩

theorem paint_hears {lower : Task} (exposed : lower.isSheltered = false) (leaf : Command)
    (primitive : Primitive) (calls : List Call) :
    (paint s leaf primitive (lower :: tasks) calls).Hears unreported := by
  cases calls with
  | nil =>
    rcases paint_nil_cases s leaf primitive (lower :: tasks) with ⟨_, _, painted⟩ | ⟨_, painted⟩
    · rw [painted]
      exact hears_of_heard (tell_heard _ _ _ _)
    · rw [painted]
      exact hears_of_task exposed
  | cons call rest => exact hears_of_task rfl

theorem halt_heard (s : Scheduler) (phase : Phase) (tasks : List Task) (failure : Failure) :
    (halt s phase tasks).signal ≠ .raised failure := by
  unfold halt
  split
  · exact tell_heard _ _ _ _ _
  · exact Signal.noConfusion

theorem settle_heard (s : Scheduler) (result : RunResult) (tasks : List Task)
    (callbacks : List Nat) (failure : Failure) :
    (settle s result tasks callbacks).signal ≠ .raised failure := by
  cases callbacks <;> exact Signal.noConfusion

theorem takeStep_hears {lower : Task} (exposed : lower.isSheltered = false) :
    (takeStep s (lower :: tasks)).Hears unreported := by
  unfold takeStep
  split
  · exact hears_of_task exposed
  · exact paint_hears exposed _ _ _
  · exact report_hears (fun _ => Task.noConfusion) _
  · exact hears_of_heard (halt_heard _ _ _)
  · exact hears_of_task exposed

theorem receive_hears {site : Site} (batch : List Command) (callback? : Option Nat) :
    (receive s batch callback? (.foreign site :: tasks)).Hears unreported := by
  unfold receive
  split
  · exact hears_of_task rfl
  · split
    · exact hears_of_task rfl
    · exact hears_of_heard (tell_heard _ _ _ _)

variable {rules : Rules} {e next : Engine} {turn : Turn}

theorem Acts.hears (acts : Acts rules e turn next) (shaped : e.Shaped rules) :
    next.Hears (Moment.Unreported .programStart ⟨e, turn, next⟩) := by
  cases acts with
  | start => exact takeStep_hears rfl
  | goOn => exact takeStep_hears rfl
  | step => exact takeStep_hears rfl
  | resume => exact takeStep_hears rfl
  | cancel => exact hears_of_heard (halt_heard _ _ _)
  | supersede => exact hears_of_heard (halt_heard _ _ _)
  | cue => exact receive_hears _ _
  | tell => exact hears_of_heard (tell_heard _ _ _ _)
  | tellFault => exact hears_of_heard (tellFault_heard _ _ _ _)
  | settle => exact hears_of_heard (settle_heard _ _ _ _)
  | spoil => exact report_hears (fun _ => Task.noConfusion) _
  | pause =>
    unfold Engine.pause
    split <;> exact hears_of_heard (fun _ => Signal.noConfusion)
  | refuse => exact hears_of_task rfl
  | receive s batch callback? tasks =>
    obtain ⟨stacked, _⟩ := shaped
    cases stacked with
    | on upper below => cases upper; exact receive_hears batch callback?
  | complain s notice others failure tasks =>
    obtain ⟨stacked, _⟩ := shaped
    cases stacked with
    | on upper below =>
      cases upper with
      | announcing _ announces =>
        cases announces with
        | starting =>
          refine report_hears (fun unrecordable _ => ?_) _
          exact .intro s others _ failure _ unrecordable
        | pausing leaf => exact report_hears (fun _ => Task.noConfusion) _
        | settling result rest => exact report_hears (fun _ => Task.noConfusion) _
  | paint s leaf primitive rest tasks =>
    obtain ⟨stacked, _⟩ := shaped
    cases stacked with
    | on upper below =>
      cases upper with
      | painting _ _ _ drives =>
        refine paint_hears ?_ leaf primitive rest
        cases drives <;> rfl
  | rethrow s failure tasks =>
    obtain ⟨stacked, _⟩ := shaped
    cases stacked with
    | on upper below => cases upper; exact hears_of_task rfl
  | pass s task failure tasks passes =>
    obtain ⟨stacked, _⟩ := shaped
    cases stacked with
    | outside => cases passes
    | @on _ lower below upper => exact hears_of_task (upper.unsheltered passes)
  | raise s site tasks signal failure inside =>
    obtain ⟨stacked, _⟩ := shaped
    cases stacked with
    | outside => exact absurd rfl inside
    | @on _ lower below upper => cases upper <;> exact hears_of_task rfl
  | _ => exact hears_of_heard (fun _ => Signal.noConfusion)

/-- What is recorded wherever it has to be reported is reported. -/
theorem Hears.sheltered {e : Engine} (hears : e.Hears unreported) (recordable : e.Recordable) :
    e.Sheltered := by
  intro task tasks failure top raised
  rcases hears task tasks failure top raised with exposed | ⟨unrecordable, _⟩
  · exact exposed
  · obtain ⟨s, rest, other, rfl⟩ := eq_of_failing (recordable.resolve_right unrecordable)
    obtain ⟨rfl, _⟩ := List.cons.inj top
    rfl

theorem Hears.unbroken {e : Engine} (hears : e.Hears unreported) (reported : ¬unreported) :
    e.Unbroken := by
  intro tasks failure top raised
  rcases hears .starting tasks failure top raised with exposed | ⟨_, starts⟩
  · exact absurd exposed.symm Bool.false_ne_true
  · exact reported (starts rfl)

end Engine

namespace Plays

variable {rules : Rules} {settings : Settings} {journal : Journal StepEvent} {registry : Registry}
  {past : List Moment} {now : Engine}

/-- Where steps are taken inside of the scheduler only, every stack can be recorded, but for one
that a step has just failed on. -/
theorem recordable (unstepped : ∀ site, rules site .step = false)
    (played : Plays rules (.atRest (.fresh settings journal registry)) past now) :
    now.Recordable := by
  refine played.by_acts (fun _ now => now.Recordable) ?_ ?_
  · exact Or.inr (Scheduler.recordable_of_nil rfl)
  · intro past e turn next earlier _ acts before
    exact acts.recordable earlier.tidy unstepped before

theorem sheltered (unstepped : ∀ site, rules site .step = false)
    (played : Plays rules (.atRest (.fresh settings journal registry)) past now) :
    now.Sheltered := by
  refine played.by_acts (fun _ now => now.Sheltered) ?_ ?_
  · exact fun _ _ _ _ raised => absurd raised Signal.noConfusion
  · intro past e turn next earlier shaped acts _
    exact (acts.hears shaped).sheltered
      (acts.recordable earlier.tidy unstepped (earlier.recordable unstepped))

/-- A failure comes to a cycle that has just begun only if it could not be reported. -/
theorem unbroken_or_unreported
    (played : Plays rules (.atRest (.fresh settings journal registry)) past now) :
    now.Unbroken ∨
      ∃ m ∈ past, m.Unreported .programStart ∧ m.after.sched.cycle = now.sched.cycle := by
  cases played with
  | start => exact Or.inl fun _ _ _ => Signal.noConfusion
  | @turn past e _ turn before taken =>
    by_cases unreported : Moment.Unreported .programStart ⟨e, turn, now⟩
    · exact Or.inr ⟨_, List.mem_cons_self .., unreported, rfl⟩
    · exact Or.inl (((Engine.turn?_acts before.shaped taken).hears before.shaped).unbroken
        unreported)

end Plays

end Turtle
