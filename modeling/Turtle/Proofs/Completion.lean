import Turtle.Proofs.Books
import Turtle.Proofs.Stack
import Turtle.Proofs.Tidy

/-!
# Completion

A turn of a play makes one entry at most into the books, and so they balance in every play: a
callback is called once, in its turn and with the result of its own cycle, unless one before it has
failed.
-/

set_option autoImplicit false

namespace Turtle

/-! ## Turns are entries -/

namespace Engine

variable {rules : Rules} {e next : Engine} {s : Scheduler} {tasks : List Task}

theorem mem_of_owed (e : Engine) {owed : RunResult × List Nat} (member : owed ∈ e.owed) :
    owed ∈ e.tasks.filterMap Task.owes? := by
  unfold Engine.owed at member
  split at member
  · rename_i same
    rw [same]
    exact List.mem_cons_of_mem _ member
  · exact member

theorem owed_of_raised {lower : Task} {failure : Failure}
    (other : ∀ result rest, lower ≠ .settling result rest) :
    owed ⟨s, lower :: tasks, .raised failure⟩ = (lower :: tasks).filterMap Task.owes? := by
  cases lower with
  | settling result rest => exact absurd rfl (other result rest)
  | _ => rfl

theorem books_of_foreign (site : Site) (signal : Signal) :
    books ⟨s, .foreign site :: tasks, signal⟩ = booksOf s (tasks.filterMap Task.owes?) := by
  cases signal <;> rfl

/-- What the engine does with a scheduler above some tasks, without taking anything in, is an
entry. -/
def Enters (s : Scheduler) (tasks : List Task) (done : Engine) : Prop :=
  Books.Entry (booksOf s (tasks.filterMap Task.owes?)) none done.calling? none
    (s.ended? done.sched) done.books

theorem enters_nothing {done : Engine} (calling : done.calling? = none)
    (same : done.books = booksOf s (tasks.filterMap Task.owes?)) : Enters s tasks done := by
  have running : done.sched.isRunning = s.isRunning := congrArg Books.running same
  have unended : s.ended? done.sched = none := by
    simp only [Scheduler.isRunning, decide_eq_decide] at running
    simp [Scheduler.ended?, running]
  rw [Enters, calling, unended, same]
  exact .nothing _

theorem Enters.of_foreign {site : Site} {done : Engine} (signal : Signal)
    (enters : Enters s (.foreign site :: tasks) done) :
    Books.Entry (books ⟨s, .foreign site :: tasks, signal⟩) none done.calling? none
      (s.ended? done.sched) done.books := by
  rw [books_of_foreign]
  exact enters

theorem tell_books (notice : Notice) (observers : List Nat) :
    (tell s notice tasks observers).calling? = none ∧
      (tell s notice tasks observers).books = booksOf s (tasks.filterMap Task.owes?) := by
  cases observers <;> exact ⟨rfl, rfl⟩

theorem announce_books (s : Scheduler) (notice : Notice) (tasks : List Task) :
    (announce s notice tasks).calling? = none ∧
      (announce s notice tasks).books = booksOf s (tasks.filterMap Task.owes?) :=
  tell_books notice _

theorem tell_enters (notice : Notice) (observers : List Nat) :
    Enters s tasks (tell s notice tasks observers) :=
  enters_nothing (tell_books notice observers).1 (tell_books notice observers).2

theorem tellFault_enters (fault : Fault) (observers : List Nat) :
    Enters s tasks (tellFault s fault tasks observers) := by
  cases observers <;> exact enters_nothing rfl rfl

/-- A failure that passes to a task above which no callbacks are called changes nothing. -/
theorem passes_enters (s : Scheduler) {lower : Task} (tasks : List Task) (failure : Failure)
    (other : ∀ result rest, lower ≠ .settling result rest) :
    Enters s (lower :: tasks) ⟨s, lower :: tasks, .raised failure⟩ := by
  refine enters_nothing rfl ?_
  rw [books, owed_of_raised other]

theorem report_enters {lower : Task} (other : ∀ result rest, lower ≠ .settling result rest)
    (fault : Fault) : Enters s (lower :: tasks) (report s fault (lower :: tasks)) := by
  rcases report_cases s fault (lower :: tasks) with ⟨stack?, _, reported⟩ | ⟨_, reported⟩
  · rw [reported]
    exact (tellFault_enters _ _ : Enters (s.reportWith fault stack?).1 (lower :: tasks) _)
  · rw [reported]
    exact passes_enters s tasks _ other

theorem paint_enters {lower : Task} (other : ∀ result rest, lower ≠ .settling result rest)
    (leaf : Command) (primitive : Primitive) (calls : List Call) :
    Enters s (lower :: tasks) (paint s leaf primitive (lower :: tasks) calls) := by
  cases calls with
  | nil =>
    rcases paint_nil_cases s leaf primitive (lower :: tasks) with
      ⟨stack?, _, painted⟩ | ⟨_, painted⟩
    · rw [painted]
      exact (tell_enters _ _ :
        Enters (s.enter (.primitive primitive.name) leaf.location? stack?)
          (.pausing :: lower :: tasks) _)
    · rw [painted]
      exact passes_enters s tasks _ other
  | cons call rest => exact enters_nothing rfl rfl

theorem pause_enters : Enters s tasks (pause s tasks) := by
  unfold pause
  split <;> exact enters_nothing rfl rfl

theorem halt_enters {phase : Phase} (other : phase ≠ .running) :
    Enters s tasks (halt s phase tasks) := by
  by_cases running : s.phase = .running
  · rw [halt_of_running running]
    have ended : s.ended? (s.endCycle phase).1 = some ⟨phase, s.cycle, s.steps⟩ :=
      if_pos ⟨running, other⟩
    have before : s.isRunning = true := decide_eq_true running
    have after : (s.endCycle phase).1.isRunning = false := decide_eq_false other
    obtain ⟨calling, same⟩ := announce_books (s.endCycle phase).1
      (.programEnd ⟨phase, s.cycle, s.steps⟩)
      (.settling ⟨phase, s.cycle, s.steps⟩ s.callbacks :: tasks)
    rw [Enters, announce_sched, ended, calling, same, booksOf, before, booksOf, after]
    exact .close ⟨phase, s.cycle, s.steps⟩ _ _
  · rw [halt_of_rest running]
    exact enters_nothing rfl rfl

theorem takeStep_enters {lower : Task} (other : ∀ result rest, lower ≠ .settling result rest) :
    Enters s (lower :: tasks) (takeStep s (lower :: tasks)) := by
  obtain ⟨queue, stack, journal, steps, registry, frame⟩ := s.step_frame
  -- A step changes nothing that is entered into the books.
  have before : ∀ {done : Engine}, Enters s.step.1 (lower :: tasks) done →
      Enters s (lower :: tasks) done := by
    intro done enters
    rw [frame] at enters
    exact enters
  obtain ⟨after, work, stepped⟩ : ∃ after work, s.step = (after, work) := ⟨_, _, rfl⟩
  rw [takeStep, stepped]
  rw [stepped] at before
  refine before ?_
  cases work with
  | answer more => exact enters_nothing rfl rfl
  | draw leaf primitive calls => exact paint_enters other leaf primitive calls
  | report fault =>
    have told : Enters after (.stepped true :: lower :: tasks)
        (report after fault (.stepped true :: lower :: tasks)) :=
      report_enters (fun _ _ => Task.noConfusion) fault
    exact told
  | halt phase =>
    have rests : phase ≠ .running := Scheduler.rests_of_step_eq_halt stepped
    have ended : Enters after (.stepped false :: lower :: tasks)
        (halt after phase (.stepped false :: lower :: tasks)) := halt_enters rests
    exact ended
  | fail failure =>
    refine enters_nothing rfl ?_
    rw [books, owed_of_raised other]

theorem receive_entry (tidy : s.Tidy) (batch : List Command) (callback? : Option Nat)
    (site : Site) (tasks : List Task) :
    Books.Entry (booksOf s (tasks.filterMap Task.owes?)) (if s.admits then callback? else none)
      (receive s batch callback? (.foreign site :: tasks)).calling? none
      (s.ended? (receive s batch callback? (.foreign site :: tasks)).sched)
      (receive s batch callback? (.foreign site :: tasks)).books := by
  by_cases running : s.phase = .running
  · have admits : s.admits = true := by simp [Scheduler.admits, running]
    have before : s.isRunning = true := decide_eq_true running
    have unended : s.ended? (s.accept batch callback?) = none :=
      if_neg fun both => both.2 running
    rw [receive, if_pos running, if_pos admits, unended, booksOf, before]
    have after : (Engine.mk (s.accept batch callback?) (.foreign site :: tasks) .returned).books =
        ⟨true, s.cycle, s.callbacks ++ callback?.toList, tasks.filterMap Task.owes?⟩ := by
      rw [← before]
      rfl
    rw [after]
    exact .join _ _ _ _
  · rw [receive, if_neg running]
    by_cases clockless : (s.settings.animate && !s.settings.clocked) = true
    · have refuses : s.admits = false := by simp [Scheduler.admits, running, clockless]
      rw [if_pos clockless, refuses, s.ended?_self]
      exact .nothing _
    · have admits : s.admits = true := by
        rw [Bool.not_eq_true] at clockless
        rw [Scheduler.admits, clockless]
        simp
      have before : s.isRunning = false := decide_eq_false running
      have none := tidy.callbacks_eq running
      have unended : s.ended? (s.accept batch callback?).beginCycle = Option.none :=
        if_neg fun both => running both.1
      have given : (s.accept batch callback?).beginCycle.callbacks = callback?.toList := by
        simp [Scheduler.accept, Scheduler.beginCycle, none]
      obtain ⟨calling, same⟩ := announce_books (s.accept batch callback?).beginCycle
        .programStart (.starting :: .foreign site :: tasks)
      rw [if_neg clockless, if_pos admits, announce_sched, unended, calling, same, booksOf,
        before, none, booksOf, given]
      exact .begin _ _ _

/-- While the end of a cycle is announced, its callbacks are lost only if a failure cannot be
reported. -/
theorem uncalled_of_announcing {result : RunResult} {others rest : List Nat} {signal : Signal}
    {cycle : Nat}
    (acts : Acts rules
      ⟨s, .announcing (.programEnd result) others :: .settling result rest :: tasks, signal⟩
      .work next)
    (complete : ¬Moment.CutsShort cycle
      ⟨⟨s, .announcing (.programEnd result) others :: .settling result rest :: tasks, signal⟩,
        .work, next⟩) :
    Moment.uncalled
      ⟨⟨s, .announcing (.programEnd result) others :: .settling result rest :: tasks, signal⟩,
        .work, next⟩ cycle = [] := by
  cases acts with
  | tell => cases others <;> rfl
  | complain _ _ _ failure =>
    rcases report_cases s (observerFault s _ failure) (.settling result rest :: tasks) with
      ⟨_, _, reported⟩ | ⟨unrecordable, reported⟩
    · rw [reported]
      cases s.observersOf .onError <;> rfl
    · rw [reported] at complete ⊢
      cases rest with
      | nil => simp [Moment.uncalled, Moment.abandoned?]
      | cons first rest =>
        apply if_neg
        rintro rfl
        exact complete (.unreported s result others first rest tasks failure _ rfl unrecordable)
  | pass _ _ _ _ passes => cases passes

theorem uncalled_eq_nil_iff {turn : Turn} (acts : Acts rules e turn next)
    (shaped : e.Shaped rules) (cycle : Nat) :
    (Moment.mk e turn next).uncalled cycle = [] ↔
      ¬(Moment.mk e turn next).CutsShort cycle := by
  constructor
  · rintro none (⟨s, id, result, first, rest, tasks, signal, failure, _, rfl⟩ |
      ⟨s, result, others, first, rest, tasks, failure, _, rfl, unrecordable⟩)
    · simp [Moment.uncalled, Moment.abandoned?] at none
    · cases acts with
      | complain =>
        rw [report_of_unrecordable unrecordable] at none
        simp [Moment.uncalled, Moment.abandoned?] at none
      | pass _ _ _ _ passes => cases passes
  · intro complete
    obtain @⟨s, top, tasks, signal, stacked, _⟩ := shaped
    cases stacked with
    | outside => cases turn with
      | work => rfl
      | move move => cases move <;> rfl
    | @on _ lower below upper =>
      cases turn with
      | work =>
        cases upper with
        | announcing others announces =>
          cases announces with
          | settling result rest => exact uncalled_of_announcing acts complete
          | _ => rfl
        | _ => rfl
      | move move =>
        cases move with
        | raise failure =>
          cases upper with
          | called id result rest =>
            cases rest with
            | nil => simp [Moment.uncalled, Moment.abandoned?]
            | cons first rest =>
              apply if_neg
              rintro rfl
              exact complete (.intro s id result first rest below signal failure next rfl)
          | _ => rfl
        | _ => rfl

theorem abandoned?_of_heard {after : Engine} (heard : ∀ failure, after.signal ≠ .raised failure) :
    (Moment.mk e .work after).abandoned? = none := by
  unfold Moment.abandoned?
  split
  · rename_i same _
    exact absurd same (by simp)
  · rename_i failure _ _ raised
    exact absurd raised (heard failure)
  · rfl

/-- The callbacks that are owed a result are abandoned, and nothing else changes. -/
theorem abandon_entry (s : Scheduler) (result : RunResult) (callbacks : List Nat)
    (tasks : List Task) :
    Books.Entry (booksOf s ((result, callbacks) :: tasks.filterMap Task.owes?)) none none
      (some (result, callbacks)) (s.ended? s) (booksOf s (tasks.filterMap Task.owes?)) := by
  rw [s.ended?_self]
  exact .abandon s.isRunning s.cycle s.callbacks result callbacks _

/-- If an observer of the end fails and that cannot be reported, the callbacks are abandoned. -/
theorem Acts.entry_of_end {result : RunResult} {others callbacks : List Nat} {signal : Signal}
    (acts : Acts rules
      ⟨s, .announcing (.programEnd result) others :: .settling result callbacks :: tasks, signal⟩
      .work next) :
    Books.Entry (booksOf s ((result, callbacks) :: tasks.filterMap Task.owes?)) none next.calling?
      (Moment.abandoned?
        ⟨⟨s, .announcing (.programEnd result) others :: .settling result callbacks :: tasks,
          signal⟩, .work, next⟩)
      (s.ended? next.sched) next.books := by
  cases acts with
  | tell =>
    rw [abandoned?_of_heard (tell_heard _ _ _ _)]
    exact (tell_enters _ others : Enters s (.settling result callbacks :: tasks) _)
  | complain _ _ _ failure =>
    rcases report_cases s (observerFault s _ failure) (.settling result callbacks :: tasks) with
      ⟨stack?, _, reported⟩ | ⟨_, reported⟩
    · rw [reported, abandoned?_of_heard (tellFault_heard _ _ _ _)]
      exact (tellFault_enters _ _ :
        Enters (s.reportWith _ stack?).1 (.settling result callbacks :: tasks) _)
    · rw [reported]
      exact abandon_entry s result callbacks tasks
  | pass _ _ _ _ passes => cases passes

/-- Every turn is an entry. -/
theorem Acts.entry {turn : Turn} (acts : Acts rules e turn next) (shaped : e.Shaped rules)
    (tidy : e.sched.Tidy) :
    Books.Entry e.books (Moment.mk e turn next).accepted? next.calling?
      (Moment.mk e turn next).abandoned? (Moment.mk e turn next).ended? next.books := by
  cases acts with
  | receive s batch callback? tasks =>
    obtain ⟨stacked, _⟩ := shaped
    cases stacked with
    | @on _ lower tasks upper below =>
      cases upper with
      | cueing _ _ site => exact receive_entry tidy batch callback? site tasks
  | start s tasks =>
    have enters : Enters s (.running :: tasks) (takeStep s (.running :: tasks)) :=
      takeStep_enters (by simp)
    exact enters
  | goOn s tasks =>
    have enters : Enters s (.running :: tasks) (takeStep s (.running :: tasks)) :=
      takeStep_enters (by simp)
    exact enters
  | leaveOff s tasks =>
    have enters : Enters s tasks ⟨s, tasks, .returned⟩ := enters_nothing rfl rfl
    exact enters
  | cancel s failure tasks =>
    have enters : Enters s (.rethrow failure :: tasks)
        (halt s .cancelled (.rethrow failure :: tasks)) := halt_enters Phase.noConfusion
    exact enters
  | rethrow s failure tasks =>
    obtain ⟨stacked, _⟩ := shaped
    cases stacked with
    | @on _ lower below upper =>
      have other : ∀ result rest, lower ≠ .settling result rest := by
        cases upper
        exact fun _ _ => Task.noConfusion
      exact passes_enters s below failure other
  | tell s notice rest tasks =>
    have enters : Enters s tasks (Engine.tell s notice tasks rest) := tell_enters notice rest
    rw [abandoned?_of_heard (tell_heard _ _ notice rest)]
    exact enters
  | complain s notice rest failure tasks =>
    obtain ⟨stacked, _⟩ := shaped
    cases stacked with
    | @on _ lower below upper =>
      cases upper with
      | announcing _ announces =>
        cases announces with
        | starting =>
          have enters : Enters s (.starting :: below)
              (report s (observerFault s .programStart failure) (.starting :: below)) :=
            report_enters (fun _ _ => Task.noConfusion) _
          exact enters
        | pausing leaf =>
          have enters : Enters s (.pausing :: below)
              (report s (observerFault s .afterPrimitive failure) (.pausing :: below)) :=
            report_enters (fun _ _ => Task.noConfusion) _
          exact enters
        | settling result callbacks =>
          have acts : Acts rules
              ⟨s, .announcing (.programEnd result) rest :: .settling result callbacks :: below,
                .raised failure⟩ .work
              (report s (observerFault s .programEnd failure)
                (.settling result callbacks :: below)) :=
            .complain s (.programEnd result) rest failure _
          exact acts.entry_of_end
  | tellFault s fault rest tasks =>
    have enters : Enters s tasks (Engine.tellFault s fault tasks rest) :=
      tellFault_enters fault rest
    exact enters
  | giveUp s fault rest failure tasks =>
    have enters : Enters s tasks ⟨s.addReport (secondaryFault fault failure), tasks, .returned⟩ :=
      enters_nothing rfl rfl
    exact enters
  | paint s leaf primitive rest tasks =>
    obtain ⟨stacked, _⟩ := shaped
    cases stacked with
    | @on _ lower below upper =>
      cases upper with
      | painting _ _ _ drives =>
        have other : ∀ result rest, lower ≠ .settling result rest := by
          cases drives <;> exact fun _ _ => Task.noConfusion
        have enters : Enters s (lower :: below) (Engine.paint s leaf primitive _ rest) :=
          paint_enters other leaf primitive rest
        exact enters
  | spoil s leaf primitive rest fault tasks =>
    have enters : Enters s (.stepped true :: tasks) (report s fault (.stepped true :: tasks)) :=
      report_enters (fun _ _ => Task.noConfusion) fault
    exact enters
  | pause s tasks =>
    have enters : Enters s tasks (Engine.pause s tasks) := pause_enters
    exact enters
  | settle s result rest tasks =>
    cases rest with
    | nil =>
      have entry := Books.Entry.settle s.isRunning s.cycle s.callbacks result
        (tasks.filterMap Task.owes?)
      rw [← s.ended?_self] at entry
      exact entry
    | cons callback rest =>
      have entry := Books.Entry.call s.isRunning s.cycle s.callbacks callback result rest
        (tasks.filterMap Task.owes?)
      rw [← s.ended?_self] at entry
      exact entry
  | answer s more tasks =>
    have enters : Enters s tasks ⟨s, tasks, .answered more⟩ := enters_nothing rfl rfl
    exact enters
  | pass s task failure tasks passes =>
    obtain ⟨stacked, _⟩ := shaped
    cases stacked with
    | outside => cases passes
    | @on _ lower below upper =>
      have enters := passes_enters s below failure (upper.unsettled passes)
      cases passes <;> exact enters
  | refuse s site tasks signal entries callback? failure allowed refused =>
    have enters : Enters s (.foreign site :: tasks) ⟨s, .foreign site :: tasks, .raised failure⟩ :=
      passes_enters s tasks failure (fun _ _ => Task.noConfusion)
    rw [books_of_foreign]
    simp only [Moment.accepted?, refused]
    exact enters
  | supersede s site tasks signal entries callback? batch allowed coerced running stopped =>
    have enters : Enters s (.cueing batch callback? :: .foreign site :: tasks)
        (halt s .cancelled (.cueing batch callback? :: .foreign site :: tasks)) :=
      halt_enters Phase.noConfusion
    rw [books_of_foreign]
    simp only [Moment.accepted?, coerced, running, stopped, and_self, if_true]
    exact enters
  | cue s site tasks signal entries callback? batch allowed coerced unstopped =>
    have entry := receive_entry tidy batch callback? site tasks
    have going : ¬(s.phase = .running ∧ s.live = false) := by
      rintro ⟨running, stopped⟩
      simp [unstopped running] at stopped
    rw [books_of_foreign]
    simp only [Moment.accepted?, coerced, going, if_false]
    exact entry
  | stop s site tasks signal =>
    have enters : Enters s (.foreign site :: tasks) ⟨s.stop, .foreign site :: tasks, .returned⟩ :=
      enters_nothing rfl rfl
    exact enters.of_foreign signal
  | step s site tasks signal allowed =>
    have enters : Enters s (.foreign site :: tasks) (takeStep s (.foreign site :: tasks)) :=
      takeStep_enters (fun _ _ => Task.noConfusion)
    exact enters.of_foreign signal
  | idle s site tasks signal position =>
    have enters : Enters s (.foreign site :: tasks) ⟨s, .foreign site :: tasks, .returned⟩ :=
      enters_nothing rfl rfl
    exact enters.of_foreign signal
  | expire s site tasks signal position =>
    have enters : Enters s (.foreign site :: tasks)
        ⟨{ s with timers := s.timers.eraseIdx position }, .foreign site :: tasks, .returned⟩ :=
      enters_nothing rfl rfl
    exact enters.of_foreign signal
  | resume s site tasks signal position =>
    have enters : Enters { s with timers := s.timers.eraseIdx position }
        (.running :: .foreign site :: tasks)
        (takeStep { s with timers := s.timers.eraseIdx position }
          (.running :: .foreign site :: tasks)) :=
      takeStep_enters (fun _ _ => Task.noConfusion)
    rw [books_of_foreign]
    exact enters
  | attach s site tasks signal event observer =>
    have enters : Enters s (.foreign site :: tasks)
        ⟨s.attach event observer, .foreign site :: tasks, .returned⟩ := enters_nothing rfl rfl
    exact enters.of_foreign signal
  | define s site tasks signal name params body =>
    have enters : Enters s (.foreign site :: tasks)
        ⟨s.define name params body, .foreign site :: tasks, .returned⟩ := enters_nothing rfl rfl
    exact enters.of_foreign signal
  | finish s site tasks signal inside =>
    have enters : Enters s tasks ⟨s, tasks, .returned⟩ := enters_nothing rfl rfl
    rw [books_of_foreign]
    exact enters
  | raise s site tasks signal failure inside =>
    rw [books_of_foreign]
    obtain ⟨stacked, _⟩ := shaped
    cases stacked with
    | outside => exact absurd rfl inside
    | @on _ lower below upper =>
      cases upper with
      | told id notice rest =>
        have enters : Enters s (.announcing notice rest :: below) _ :=
          passes_enters s below failure (fun _ _ => Task.noConfusion)
        exact enters
      | toldFault id fault rest =>
        have enters : Enters s (.reporting fault rest :: below) _ :=
          passes_enters s below failure (fun _ _ => Task.noConfusion)
        exact enters
      | called id result rest =>
        exact abandon_entry s result rest below
      | drawn call leaf primitive rest =>
        have enters : Enters s (.painting leaf primitive rest :: below) _ :=
          passes_enters s below failure (fun _ _ => Task.noConfusion)
        exact enters

end Engine

/-! ## Plays keep the books -/

namespace Plays

variable {rules : Rules} {settings : Settings} {journal : Journal StepEvent} {registry : Registry}
  {past : List Moment} {now : Engine}

theorem books (played : Plays rules (.atRest (.fresh settings journal registry)) past now) :
    now.books.Balanced past ∧ now.books.Closed past := by
  refine played.by_acts (fun past now => now.books.Balanced past ∧ now.books.Closed past) ?_ ?_
  · constructor
    · refine ⟨fun cycle => ?_, .nil, fun owed member => ?_, fun cycle some => absurd rfl some⟩
      · have none : (Books.mk false 0 [] []).due cycle = [] := by simp [Books.due]
        exact none.symm
      · exact absurd member List.not_mem_nil
    · refine ⟨fun owed member => ?_, fun call member => ?_, .nil, fun result member => ?_⟩
      · exact absurd member List.not_mem_nil
      · exact absurd member List.not_mem_nil
      · exact absurd member List.not_mem_nil
  · intro past e turn next earlier shaped acts before
    have entry := acts.entry shaped earlier.tidy
    exact ⟨before.1.entry entry rfl rfl rfl rfl, before.2.entry entry rfl rfl⟩

/-- A cycle has ended, and so have the calls of its callbacks: nothing of it is due any more. -/
theorem due_eq_nil (played : Plays rules (.atRest (.fresh settings journal registry)) past now)
    {result : RunResult} (ended : result ∈ results past) (settled : ¬now.Settling result.cycle) :
    now.books.due result.cycle = [] := by
  have finished := played.books.2.ended_over result ended
  have nothing : (now.books.owed.flatMap fun owed =>
      if owed.1.cycle = result.cycle then owed.2 else []) = [] := by
    rw [List.flatMap_eq_nil_iff]
    intro owed member
    apply if_neg
    intro same
    exact settled ⟨owed, now.mem_of_owed member, same⟩
  have waiting : (if now.books.cycle = result.cycle then now.books.waiting else []) = [] := by
    split
    · rename_i same
      rcases finished with earlier | ⟨_, stopped⟩
      · omega
      · exact played.tidy.callbacks_eq (of_decide_eq_false stopped)
    · rfl
  rw [Books.due, nothing, waiting]
  rfl

theorem abandoned_eq_nil_iff
    (played : Plays rules (.atRest (.fresh settings journal registry)) past now) (cycle : Nat) :
    abandoned cycle past = [] ↔ ¬∃ m ∈ past, m.CutsShort cycle := by
  refine played.by_acts (fun past _ => abandoned cycle past = [] ↔ ¬∃ m ∈ past, m.CutsShort cycle)
    ?_ ?_
  · simp [abandoned]
  · intro past e turn next _ shaped acts before
    rw [abandoned, List.append_eq_nil_iff, before,
      Engine.uncalled_eq_nil_iff acts shaped]
    constructor
    · rintro ⟨earlier, now⟩ ⟨m, member, short⟩
      rcases List.mem_cons.mp member with rfl | inside
      · exact now short
      · exact earlier ⟨m, inside, short⟩
    · intro never
      refine ⟨?_, fun short => never ⟨_, List.mem_cons_self .., short⟩⟩
      rintro ⟨m, member, short⟩
      exact never ⟨m, List.mem_cons_of_mem _ member, short⟩

/-- When a cycle has ended, and the calls of its callbacks too, then the callbacks that were called
are the first of those that were taken in, in their order, and all were called with the result of
the cycle.  They are all of them unless they were cut short, by one that has failed while others
were still to be called or by an observer of the end whose failure could not be reported. -/
theorem invoked_eq_accepted_iff
    (played : Plays rules (.atRest (.fresh settings journal registry)) past now)
    {result : RunResult} (ended : result ∈ results past) (settled : ¬now.Settling result.cycle) :
    invoked result.cycle past <+: accepted result.cycle past ∧
      (∀ call ∈ calls past, call.2.cycle = result.cycle → call.2 = result) ∧
      (invoked result.cycle past = accepted result.cycle past ↔
        ¬∃ m ∈ past, m.CutsShort result.cycle) := by
  obtain ⟨balanced, closed⟩ := played.books
  have whole : accepted result.cycle past =
      invoked result.cycle past ++ abandoned result.cycle past := by
    rw [balanced.accepted_eq, played.due_eq_nil ended settled, List.append_nil]
  refine ⟨⟨_, whole.symm⟩, ?_, ?_⟩
  · intro call member same
    exact closed.result_unique (closed.called_ended call member) ended same
  · rw [← played.abandoned_eq_nil_iff, whole]
    simp

def plainStart : Scheduler :=
  .fresh ⟨false, 0.04, false, false⟩ (.empty 10) .empty

/-- Someone who watches the start of a cycle lets a second callback join it. -/
def joiningTurns : List Turn :=
  [.move (.attach .programStart 0), .move (.cue [] (some 1)), .move (.cue [] (some 2)),
    .move .finish, .work, .work, .work]

theorem joined_invoked :
    ∃ past now, Plays .free (.atRest plainStart) past now ∧ accepted 1 past = [1, 2] ∧
      invoked 1 past = [1, 2] ∧ ¬∃ m ∈ past, m.CutsShort 1 := by
  obtain ⟨past, now, played, facts⟩ := exists_of_play? .free (.atRest plainStart)
    (joiningTurns ++ [.move .finish, .work, .move .finish, .work])
    (fun past now => decide ((⟨.exhausted, 1, 1⟩ : RunResult) ∈ results past ∧ ¬now.Settling 1 ∧
      accepted 1 past = [1, 2] ∧ invoked 1 past = [1, 2]))
    (by decide)
  obtain ⟨ended, settled, accepts, invokes⟩ := of_decide_eq_true facts
  have same := (invoked_eq_accepted_iff played ended settled).2.2
  exact ⟨past, now, played, accepts, invokes, same.mp (invokes.trans accepts.symm)⟩

/-- If the first of the two callbacks fails, the second one is never called. -/
theorem joined_uncalled :
    ∃ past now, Plays .free (.atRest plainStart) past now ∧ now.Outside ∧
      (⟨.exhausted, 1, 1⟩ : RunResult) ∈ results past ∧
      accepted 1 past = [1, 2] ∧ invoked 1 past = [1] := by
  obtain ⟨past, now, played, facts⟩ := exists_of_play? .free (.atRest plainStart)
    (joiningTurns ++ [.move (.raise .noClock), .work, .work, .work, .work])
    (fun past now => decide (now.Outside ∧ (⟨.exhausted, 1, 1⟩ : RunResult) ∈ results past ∧
      accepted 1 past = [1, 2] ∧ invoked 1 past = [1]))
    (by decide)
  exact ⟨past, now, played, of_decide_eq_true facts⟩

end Plays

end Turtle
