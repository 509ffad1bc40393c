import Turtle.Proofs.Completion
import Turtle.Proofs.Course
import Turtle.Proofs.Cover

/-!
# Stopping

What a stop leaves undone.  A stop only asks the running cycle to end, and it ends later, at its
next step or when the next batch is cued.  But from the stop on no step takes anything up any more:
not until a cue begins a new cycle, and by then nothing is left of what waited or was being carried
out.  Only a primitive that is being drawn is drawn to its end.
-/

set_option autoImplicit false

namespace Turtle

/-- A cue begins a cycle, while no command waits in the queue and none is being carried out. -/
structure Moment.StartsAfresh (m : Moment) : Prop where
  cued : m.cues = true
  cycle_eq : m.after.sched.cycle = m.before.sched.cycle + 1
  stack_eq : m.before.sched.stack = []
  waiting_eq : m.before.sched.queue.pending = []

namespace Scheduler

/-- A step that finds its cycle asked to stop does nothing but end it. -/
theorem step_of_stopped {s : Scheduler} (stopped : s.phase = .running → s.live = false) :
    s.step = (s, .halt .cancelled) ∨ s.step = (s, .answer false) := by
  by_cases running : s.phase = .running
  · left
    simp [step, running, stopped running]
  · right
    exact step_of_rest running

end Scheduler

namespace Engine

/-- The calls that a primitive still has to make, if one is being drawn at a height. -/
def undrawn? (height : Nat) (e : Engine) : Option (List Call) :=
  match e.tasks.reverse[height]? with
  | some (.painting _ _ rest) => some rest
  | _ => none

variable {rules : Rules} {e next : Engine} {turn : Turn} {height : Nat}

theorem stepping?_live {s : Scheduler} (stepping : e.stepping? turn = some s) :
    s.live = e.sched.live := by
  unfold stepping? at stepping
  split at stepping
  · split at stepping
    · obtain rfl := Option.some.inj stepping
      rfl
    · obtain rfl := Option.some.inj stepping
      rfl
    · simp at stepping
  · obtain rfl := Option.some.inj stepping
    rfl
  · split at stepping
    · split at stepping
      · obtain rfl := Option.some.inj stepping
        rfl
      · simp at stepping
    · simp at stepping
  · simp at stepping

theorem undrawn?_of_painting {leaf : Command} {primitive : Primitive} {left : List Call}
    {tasks : List Task} (lies : .painting leaf primitive left :: tasks <:+ e.tasks) :
    e.undrawn? tasks.length = some left := by
  obtain ⟨above, same⟩ := lies
  simp [undrawn?, ← same]

/-- Nothing is drawn where another task lies. -/
theorem undrawn?_of_other (task : Task) {tasks : List Task} (lies : task :: tasks <:+ e.tasks)
    (other : ∀ leaf primitive left, task ≠ .painting leaf primitive left) :
    e.undrawn? tasks.length = none := by
  obtain ⟨above, same⟩ := lies
  simp only [undrawn?, ← same, List.reverse_append, List.reverse_cons, List.append_assoc,
    List.getElem?_append_right (Nat.le_of_eq List.length_reverse), List.length_reverse,
    Nat.sub_self]
  cases task with
  | painting leaf primitive left => exact absurd rfl (other leaf primitive left)
  | _ => rfl

/-- The primitive that is drawn at a height is there, among the tasks. -/
theorem split_of_undrawn? {left : List Call} (busy : e.undrawn? height = some left) :
    ∃ above leaf primitive tasks,
      e.tasks = above ++ .painting leaf primitive left :: tasks ∧ tasks.length = height := by
  unfold undrawn? at busy
  split at busy
  · rename_i leaf primitive rest found
    obtain rfl := Option.some.inj busy
    obtain ⟨within, same⟩ := List.getElem?_eq_some_iff.mp found
    have order : e.tasks = (e.tasks.reverse.drop (height + 1)).reverse ++
        .painting leaf primitive rest :: (e.tasks.reverse.take height).reverse := by
      rw [← same]
      have whole := List.take_append_drop height e.tasks.reverse
      rw [List.drop_eq_getElem_cons within] at whole
      have back := congrArg List.reverse whole
      simpa using back.symm
    refine ⟨_, leaf, primitive, _, order, ?_⟩
    rw [List.length_reverse, List.length_take]
    omega
  · simp at busy

/-- What a turn does to a primitive that is being drawn: nothing, or it makes its next call, or it
is done with; and it is done with only when no call is left, or when the drawing has failed. -/
theorem Acts.draws {left : List Call} (acts : Acts rules e turn next)
    (busy : e.undrawn? height = some left) :
    (next.undrawn? height = some left ∧
        (next.tasks.length = height + 2 → next.drawing? = none)) ∨
      (∃ call rest, left = call :: rest ∧ next.undrawn? height = some rest ∧
        next.tasks.length = height + 2 ∧ next.drawing? = some call) ∨
      (next.undrawn? height = none ∧ (left = [] ∨ ∃ failure, e.signal = .raised failure)) := by
  obtain ⟨above, leaf, primitive, tasks, tasks_eq, rfl⟩ := split_of_undrawn? busy
  obtain ⟨s, all, signal⟩ := e
  dsimp only at tasks_eq
  subst tasks_eq
  cases above with
  | nil =>
    -- Control is with the primitive itself.
    rw [List.nil_append] at acts
    cases acts with
    | paint s leaf primitive rest tasks =>
      cases left with
      | nil =>
        right; right
        refine ⟨?_, Or.inl rfl⟩
        rcases paint_nil_cases s leaf primitive tasks with ⟨_, _, painted⟩ | ⟨_, painted⟩
        · rw [painted]
          exact undrawn?_of_other .pausing (tell_covers _ _).suffix fun _ _ _ => Task.noConfusion
        · rw [painted]
          simp [undrawn?]
      | cons call rest =>
        right; left
        exact ⟨call, rest, rfl, undrawn?_of_painting ⟨[.foreign (.drawing call)], rfl⟩, rfl, rfl⟩
    | spoil s leaf primitive rest fault tasks =>
      right; right
      have lies : .stepped true :: tasks <:+ (report s fault (.stepped true :: tasks)).tasks :=
        (report_covers fault).suffix
      refine ⟨undrawn?_of_other (.stepped true) lies fun _ _ _ => Task.noConfusion, ?_⟩
      exact Or.inr ⟨.fault fault, rfl⟩
    | pass s task failure tasks passes =>
      right; right
      exact ⟨by simp [undrawn?], Or.inr ⟨failure, rfl⟩⟩
  | cons top above =>
    left
    have covers : Covers (above ++ .painting leaf primitive left :: tasks) next := acts.covers
    have lies : .painting leaf primitive left :: tasks <:+ next.tasks :=
      (List.suffix_append above _).trans covers.suffix
    refine ⟨undrawn?_of_painting lies, fun length_eq => ?_⟩
    obtain ⟨higher, higher_eq, _, drawn⟩ := covers
    apply Classical.byContradiction
    intro drawing
    have bound := drawn drawing
    rw [higher_eq, List.length_append, List.length_append, List.length_cons] at length_eq
    omega

end Engine

namespace Plays

open Engine

variable {rules : Rules} {settings : Settings} {journal : Journal StepEvent}
  {registry : Registry} {earlier later past : List Moment} {e stopped next now : Engine}
  {turn : Turn} {height : Nat}

/-- Since a stop a cue has begun afresh, or no cycle is running that may go on. -/
def Discards (later : List Moment) (now : Engine) : Prop :=
  (∃ m ∈ later, m.StartsAfresh) ∨ (now.sched.phase = .running → now.sched.live = false)

theorem Discards.acts (before : Discards later e) (tidy : e.sched.Tidy)
    (acts : Acts rules e turn next) : Discards (⟨e, turn, next⟩ :: later) next := by
  rcases before with ⟨m, member, afresh⟩ | idle
  · exact Or.inl ⟨m, List.mem_cons_of_mem _ member, afresh⟩
  · cases acts.course with
    | level same =>
      right
      rw [same.phase_eq, same.live_eq]
      exact idle
    | stop _ _ _ stopped => exact Or.inr fun _ => stopped
    | close ended => exact Or.inr fun running => absurd running ended.rests
    | begin cued rests _ _ cycle_eq =>
      refine Or.inl ⟨_, List.mem_cons_self .., cued, cycle_eq, ?_, ?_⟩
      · exact tidy.stack_eq rests
      · exact tidy.waiting_eq rests

theorem discards
    (begun : Plays rules (.atRest (.fresh settings journal registry)) earlier stopped)
    (unlive : stopped.sched.live = false)
    (played : Plays rules (.atRest (.fresh settings journal registry)) (later ++ earlier) now) :
    Discards later now := by
  refine by_acts_since begun Discards ?_ ?_ played
  · exact Or.inr fun _ => unlive
  · exact fun _ _ _ _ before _ acts kept => kept.acts before.tidy acts

/-- The calls that a primitive at some height makes. -/
def strokes (height : Nat) : List Moment → List Call
  | [] => []
  | m :: past =>
    strokes height past ++
      if m.after.tasks.length = height + 2 then m.after.drawing?.toList else []

/-- A primitive makes its calls in their order, and it is left only when all of them are made or
the drawing has failed. -/
theorem strokes_of_acts {left : List Call} (acts : Acts rules e turn next)
    (busy : e.undrawn? height = some left) :
    (∃ rest, next.undrawn? height = some rest ∧
        strokes height (⟨e, turn, next⟩ :: past) ++ rest = strokes height past ++ left) ∨
      next.undrawn? height = none ∧ (left = [] ∨ ∃ failure, e.signal = .raised failure) := by
  rcases acts.draws busy with ⟨same, quiet⟩ | ⟨call, rest, rfl, same, length_eq, drawn⟩ | gone
  · left
    refine ⟨left, same, ?_⟩
    by_cases length_eq : next.tasks.length = height + 2
    · simp [strokes, quiet length_eq]
    · simp [strokes, length_eq]
  · left
    exact ⟨rest, same, by simp [strokes, length_eq, drawn]⟩
  · right
    exact gone

theorem strokes_since {rest : List Call}
    (begun : Plays rules (.atRest (.fresh settings journal registry)) earlier stopped)
    (busy : stopped.undrawn? height = some rest)
    (played : Plays rules (.atRest (.fresh settings journal registry)) (later ++ earlier) now)
    (drawn : ∀ m ∈ later, m.after.undrawn? height ≠ none) :
    ∃ left, now.undrawn? height = some left ∧ strokes height later ++ left = rest := by
  refine by_acts_since begun (fun later now => (∀ m ∈ later, m.after.undrawn? height ≠ none) →
    ∃ left, now.undrawn? height = some left ∧ strokes height later ++ left = rest) ?_ ?_ played
    drawn
  · exact fun _ => ⟨rest, busy, rfl⟩
  · intro later e turn next _ _ acts before drawn
    obtain ⟨left, busy, whole⟩ := before fun m member => drawn m (List.mem_cons_of_mem _ member)
    rcases strokes_of_acts acts busy with ⟨left', busy', same⟩ | ⟨gone, _⟩
    · exact ⟨left', busy', same.trans whole⟩
    · exact absurd gone (drawn _ (List.mem_cons_self ..))

/-- After a stop every step does nothing at all, or nothing but end the stopped cycle, until a cue
has begun afresh, and then nothing is left of what waited or was being carried out.  A primitive
that is being drawn makes the calls that are left to it, in their order, unless the drawing
fails. -/
theorem stop_discards
    (played : Plays rules (.atRest (.fresh settings journal registry))
      (later ++ ⟨e, .move .stop, stopped⟩ :: earlier) now) :
    (∀ newer m older s, later = newer ++ m :: older → m.before.stepping? m.turn = some s →
        s.step = (s, .halt .cancelled) ∨ s.step = (s, .answer false) ∨
          ∃ begun ∈ older, begun.StartsAfresh) ∧
      ∀ height rest newer m older, later = newer ++ m :: older →
        e.undrawn? height = some rest → (∀ drawn ∈ older, drawn.after.undrawn? height ≠ none) →
          (∃ left, m.after.undrawn? height = some left ∧
            strokes height (m :: older) ++ left = rest) ∨
          m.after.undrawn? height = none ∧
            (strokes height older = rest ∨ ∃ failure, m.before.signal = .raised failure) := by
  obtain ⟨middle, begun⟩ := played.of_append
  obtain ⟨before, taken, rfl⟩ := begun.last
  obtain ⟨unlive, same⟩ : stopped.sched.live = false ∧ stopped.tasks = e.tasks := by
    cases turn?_acts before.shaped taken
    exact ⟨rfl, rfl⟩
  -- A moment since the stop is the last one of a play of its own.
  have moment : ∀ {newer m older}, later = newer ++ m :: older →
      Plays rules (.atRest (.fresh settings journal registry))
          (older ++ ⟨e, .move .stop, stopped⟩ :: earlier) m.before ∧
        Acts rules m.before m.turn m.after := by
    rintro newer m older rfl
    rw [List.append_assoc] at played
    obtain ⟨_, until_m⟩ := played.of_append
    obtain ⟨before_m, taken_m, _⟩ := until_m.last
    exact ⟨before_m, turn?_acts before_m.shaped taken_m⟩
  constructor
  · intro newer m older s split stepping
    rcases discards begun unlive (moment split).1 with afresh | idle
    · exact Or.inr (Or.inr afresh)
    · have idle' : s.phase = .running → s.live = false := by
        rw [m.before.stepping?_phase stepping, stepping?_live stepping]
        exact idle
      rcases Scheduler.step_of_stopped idle' with halts | answers
      · exact Or.inl halts
      · exact Or.inr (Or.inl answers)
  · intro height rest newer m older split busy drawn
    obtain ⟨before_m, acts⟩ := moment split
    have busy' : stopped.undrawn? height = some rest := by
      rw [← busy, undrawn?, undrawn?, same]
    obtain ⟨left, left_busy, whole⟩ := strokes_since begun busy' before_m drawn
    rcases strokes_of_acts acts left_busy with ⟨left', busy_m, more⟩ | ⟨gone, finished⟩
    · exact Or.inl ⟨left', busy_m, more.trans whole⟩
    · refine Or.inr ⟨gone, ?_⟩
      rcases finished with rfl | failed
      · exact Or.inl (by rw [← whole, List.append_nil])
      · exact Or.inr failed

/-- The pen is to be lifted twice, and the cycle is stopped while it is lifted for the first
time. -/
theorem lifting_discarded :
    ∃ later e stopped earlier now rest,
      Plays .free (.atRest plainStart) (later ++ ⟨e, .move .stop, stopped⟩ :: earlier) now ∧
      e.sched.phase = .running ∧ e.undrawn? 2 = some rest ∧ now.sched.phase = .cancelled ∧
      now.sched.calls.length = 1 ∧
      (∀ newer m older s, later = newer ++ m :: older → m.before.stepping? m.turn = some s →
        s.step = (s, .halt .cancelled) ∨ s.step = (s, .answer false) ∨
          ∃ begun ∈ older, begun.StartsAfresh) ∧
      ∀ newer m older, later = newer ++ m :: older →
        (∀ drawn ∈ older, drawn.after.undrawn? 2 ≠ none) →
          (∃ left, m.after.undrawn? 2 = some left ∧ strokes 2 (m :: older) ++ left = rest) ∨
          m.after.undrawn? 2 = none ∧
            (strokes 2 older = rest ∨ ∃ failure, m.before.signal = .raised failure) := by
  obtain ⟨past, now, played, facts⟩ := exists_of_play? .free (.atRest plainStart)
    [.move (.cue (List.replicate 2 (.command (.leaf "pu" [] none))) none), .work, .work,
      .move .stop, .move .finish, .work, .work, .work, .work, .work, .work]
    (fun past now => past.any (fun m => m.stops && (m.before.undrawn? 2).isSome) &&
      decide (now.sched.phase = .cancelled ∧ now.sched.calls.length = 1))
    (by decide)
  obtain ⟨asked, ended⟩ := Bool.and_eq_true_iff.mp facts
  obtain ⟨cancelled, once⟩ := of_decide_eq_true ended
  obtain ⟨⟨e, turn, stopped⟩, listed, asked⟩ := List.any_eq_true.mp asked
  obtain ⟨stops, busy⟩ := Bool.and_eq_true_iff.mp asked
  obtain ⟨rfl, running⟩ := Moment.turn_of_stops stops
  obtain ⟨rest, undrawn⟩ := Option.isSome_iff_exists.mp busy
  obtain ⟨later, earlier, rfl⟩ := List.append_of_mem listed
  obtain ⟨steps, strokes⟩ := stop_discards played
  refine ⟨later, e, stopped, earlier, now, rest, played, running, undrawn, cancelled, once, steps,
    ?_⟩
  exact fun newer m older split drawn => strokes 2 rest newer m older split undrawn drawn

end Plays

end Turtle
