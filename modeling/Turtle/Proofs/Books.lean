import Turtle.Proofs.Play

/-!
# Books

What becomes of the callbacks that are given with a batch is entered into books: which callbacks
wait in the running cycle, and which are owed by cycles that have ended.  The books balance against
what has happened in a play, and an entry keeps them so.
-/

set_option autoImplicit false

namespace Turtle

/-- A batch is not turned away: a cycle is running, or one can begin. -/
def Scheduler.admits (s : Scheduler) : Bool :=
  s.phase = .running || !(s.settings.animate && !s.settings.clocked)

/-- The result of the cycle that has ended in between. -/
def Scheduler.ended? (before after : Scheduler) : Option RunResult :=
  if before.phase = .running ∧ after.phase ≠ .running then
    some ⟨after.phase, after.cycle, after.steps⟩
  else none

theorem Scheduler.ended?_self (s : Scheduler) : s.ended? s = none :=
  if_neg fun both => both.2 both.1

/-- The callback that is called at this moment, and what it is called with. -/
def Engine.calling? (e : Engine) : Option (Nat × RunResult) :=
  match e.signal, e.tasks with
  | .called, .foreign (.callback id result) :: _ => some (id, result)
  | _, _ => none

namespace Moment

/-- The callback of a batch that is taken in: by the cue itself or, if a stopped cycle had to end
first, after that. -/
def accepted? (m : Moment) : Option Nat :=
  match m.turn, m.before.tasks, m.before.signal with
  | .work, .cueing _ callback? :: _, .returned =>
    if m.before.sched.admits then callback? else none
  | .move (.cue entries callback?), _, _ =>
    match Engine.commands entries with
    | .error _ => none
    | .ok _ =>
      if m.before.sched.phase = .running ∧ m.before.sched.live = false then none
      else if m.before.sched.admits then callback? else none
  | _, _, _ => none

/-- A callback fails, or the announcement of the end does, while others were to be called with the
same result. -/
def abandoned? (m : Moment) : Option (RunResult × List Nat) :=
  match m.turn, m.before.tasks, m.after.signal with
  | .move (.raise _), .foreign (.callback _ _) :: .settling result rest :: _, _ =>
    some (result, rest)
  | .work, .announcing _ _ :: .settling result rest :: _, .raised _ => some (result, rest)
  | _, _, _ => none

def uncalled (m : Moment) (cycle : Nat) : List Nat :=
  match m.abandoned? with
  | some (result, rest) => if result.cycle = cycle then rest else []
  | none => []

def ended? (m : Moment) : Option RunResult :=
  m.before.sched.ended? m.after.sched

end Moment

namespace Plays

/-- The callbacks that were taken in with batches of a cycle, in their order. -/
def accepted (cycle : Nat) : List Moment → List Nat
  | [] => []
  | m :: past =>
    accepted cycle past ++ if m.after.sched.cycle = cycle then m.accepted?.toList else []

/-- The calls of callbacks, with the results they were called with, in their order. -/
def calls : List Moment → List (Nat × RunResult)
  | [] => []
  | m :: past => calls past ++ m.after.calling?.toList

/-- The callbacks that were called with a result of a cycle, in their order. -/
def invoked (cycle : Nat) (past : List Moment) : List Nat :=
  ((calls past).filter fun call => call.2.cycle = cycle).map Prod.fst

/-- The callbacks that were still to be called with the result of a cycle when something failed. -/
def abandoned (cycle : Nat) : List Moment → List Nat
  | [] => []
  | m :: past =>
    abandoned cycle past ++ m.uncalled cycle

/-- The results of the cycles that have ended, the last one first. -/
def results (past : List Moment) : List RunResult :=
  past.filterMap Moment.ended?

end Plays

/-- A callback fails while others are still to be called with the result of the same cycle.  So
does an observer of the end, if its failure cannot be reported because the stack, which a cycle
begun in between has left, cannot be recorded. -/
inductive Moment.CutsShort (cycle : Nat) : Moment → Prop where
  | intro (s : Scheduler) (id : Nat) (result : RunResult) (next : Nat) (rest : List Nat)
    (tasks : List Task) (signal : Signal) (failure : Failure) (after : Engine) :
    result.cycle = cycle →
      CutsShort cycle
        ⟨⟨s, .foreign (.callback id result) :: .settling result (next :: rest) :: tasks, signal⟩,
          .move (.raise failure), after⟩
  | unreported (s : Scheduler) (result : RunResult) (others : List Nat) (next : Nat)
    (rest : List Nat) (tasks : List Task) (failure : Failure) (after : Engine) :
    result.cycle = cycle → ¬s.Recordable →
      CutsShort cycle
        ⟨⟨s, .announcing (.programEnd result) others :: .settling result (next :: rest) :: tasks,
          .raised failure⟩, .work, after⟩

/-! ## The books -/

structure Books where
  running : Bool
  cycle : Nat
  /-- The callbacks of the running cycle. -/
  waiting : List Nat
  /-- The callbacks that are still to be called with the results of cycles that have ended. -/
  owed : List (RunResult × List Nat)

def Task.owes? : Task → Option (RunResult × List Nat)
  | .settling result rest => some (result, rest)
  | _ => none

namespace Engine

def Settling (e : Engine) (cycle : Nat) : Prop :=
  ∃ owed ∈ e.tasks.filterMap Task.owes?, owed.1.cycle = cycle

instance (e : Engine) (cycle : Nat) : Decidable (e.Settling cycle) :=
  inferInstanceAs (Decidable (∃ owed ∈ e.tasks.filterMap Task.owes?, owed.1.cycle = cycle))

/-- What is owed.  A task that hears of a failure calls no further callbacks. -/
def owed (e : Engine) : List (RunResult × List Nat) :=
  match e.signal, e.tasks with
  | .raised _, .settling _ _ :: tasks => tasks.filterMap Task.owes?
  | _, tasks => tasks.filterMap Task.owes?

def booksOf (s : Scheduler) (owed : List (RunResult × List Nat)) : Books :=
  ⟨s.isRunning, s.cycle, s.callbacks, owed⟩

def books (e : Engine) : Books :=
  booksOf e.sched e.owed

end Engine

namespace Books

/-- The entries of the books: what was accepted, called, abandoned and ended. -/
inductive Entry : Books → Option Nat → Option (Nat × RunResult) →
    Option (RunResult × List Nat) → Option RunResult → Books → Prop where
  | nothing (b : Books) : Entry b none none none none b
  | join (cycle : Nat) (waiting : List Nat) (owed : List (RunResult × List Nat))
    (callback? : Option Nat) :
    Entry ⟨true, cycle, waiting, owed⟩ callback? none none none
      ⟨true, cycle, waiting ++ callback?.toList, owed⟩
  | begin (cycle : Nat) (owed : List (RunResult × List Nat)) (callback? : Option Nat) :
    Entry ⟨false, cycle, [], owed⟩ callback? none none none
      ⟨true, cycle + 1, callback?.toList, owed⟩
  | close (result : RunResult) (waiting : List Nat) (owed : List (RunResult × List Nat)) :
    Entry ⟨true, result.cycle, waiting, owed⟩ none none none (some result)
      ⟨false, result.cycle, [], (result, waiting) :: owed⟩
  | call (running : Bool) (cycle : Nat) (waiting : List Nat) (callback : Nat)
    (result : RunResult) (rest : List Nat) (owed : List (RunResult × List Nat)) :
    Entry ⟨running, cycle, waiting, (result, callback :: rest) :: owed⟩ none
      (some (callback, result)) none none ⟨running, cycle, waiting, (result, rest) :: owed⟩
  | settle (running : Bool) (cycle : Nat) (waiting : List Nat) (result : RunResult)
    (owed : List (RunResult × List Nat)) :
    Entry ⟨running, cycle, waiting, (result, []) :: owed⟩ none none none none
      ⟨running, cycle, waiting, owed⟩
  | abandon (running : Bool) (cycle : Nat) (waiting : List Nat) (result : RunResult)
    (rest : List Nat) (owed : List (RunResult × List Nat)) :
    Entry ⟨running, cycle, waiting, (result, rest) :: owed⟩ none none (some (result, rest)) none
      ⟨running, cycle, waiting, owed⟩

/-- The callbacks that are due to be called with the result of a cycle. -/
def due (b : Books) (cycle : Nat) : List Nat :=
  (b.owed.flatMap fun owed => if owed.1.cycle = cycle then owed.2 else []) ++
    if b.cycle = cycle then b.waiting else []

def Over (b : Books) (cycle : Nat) : Prop :=
  cycle < b.cycle ∨ cycle = b.cycle ∧ b.running = false

end Books

namespace Plays

variable {past : List Moment} {m : Moment} {cycle : Nat}

theorem accepted_cons {callback? : Option Nat} (accepts : m.accepted? = callback?) :
    accepted cycle (m :: past) =
      accepted cycle past ++ if m.after.sched.cycle = cycle then callback?.toList else [] := by
  rw [accepted, accepts]

theorem accepted_cons_none (accepts : m.accepted? = none) :
    accepted cycle (m :: past) = accepted cycle past := by
  simp [accepted, accepts]

theorem calls_cons_none (calling : m.after.calling? = none) :
    calls (m :: past) = calls past := by
  simp [calls, calling]

theorem invoked_cons_none (calling : m.after.calling? = none) :
    invoked cycle (m :: past) = invoked cycle past := by
  rw [invoked, calls_cons_none calling, invoked]

theorem invoked_cons_some {callback : Nat} {result : RunResult}
    (calling : m.after.calling? = some (callback, result)) :
    invoked cycle (m :: past) =
      invoked cycle past ++ if result.cycle = cycle then [callback] else [] := by
  by_cases same : result.cycle = cycle <;> simp [invoked, calls, calling, same]

theorem abandoned_cons_none (abandons : m.abandoned? = none) :
    abandoned cycle (m :: past) = abandoned cycle past := by
  simp [abandoned, Moment.uncalled, abandons]

theorem abandoned_cons_some {result : RunResult} {rest : List Nat}
    (abandons : m.abandoned? = some (result, rest)) :
    abandoned cycle (m :: past) =
      abandoned cycle past ++ if result.cycle = cycle then rest else [] := by
  simp only [abandoned, Moment.uncalled, abandons]

theorem results_cons_none (ends : m.ended? = none) : results (m :: past) = results past := by
  simp [results, ends]

theorem results_cons_some {result : RunResult} (ends : m.ended? = some result) :
    results (m :: past) = result :: results past := by
  simp [results, ends]

end Plays

namespace Books

open Plays

/-- What was accepted has been called, or abandoned, or is due. -/
structure Balanced (past : List Moment) (b : Books) : Prop where
  accepted_eq : ∀ cycle,
    accepted cycle past = invoked cycle past ++ (abandoned cycle past ++ b.due cycle)
  owed_ordered : b.owed.Pairwise fun upper lower => lower.1.cycle < upper.1.cycle
  owed_over : ∀ owed ∈ b.owed, b.Over owed.1.cycle
  abandoned_over : ∀ cycle, abandoned cycle past ≠ [] →
    b.Over cycle ∧ ∀ owed ∈ b.owed, owed.1.cycle ≠ cycle

/-- Callbacks are called with results of cycles that have ended, and a cycle ends once. -/
structure Closed (past : List Moment) (b : Books) : Prop where
  owed_ended : ∀ owed ∈ b.owed, owed.1 ∈ results past
  called_ended : ∀ call ∈ calls past, call.2 ∈ results past
  ordered : (results past).Pairwise fun later earlier => earlier.cycle < later.cycle
  ended_over : ∀ result ∈ results past, b.Over result.cycle

variable {past : List Moment} {b b' : Books} {m : Moment} {accepted? : Option Nat}
  {called? : Option (Nat × RunResult)} {abandoned? : Option (RunResult × List Nat)}
  {ended? : Option RunResult}

theorem Balanced.owes_nothing (balanced : b.Balanced past) {cycle : Nat}
    (unfinished : ¬b.Over cycle) :
    (b.owed.flatMap fun owed => if owed.1.cycle = cycle then owed.2 else []) = [] := by
  rw [List.flatMap_eq_nil_iff]
  intro owed member
  have other : owed.1.cycle ≠ cycle := by
    rintro rfl
    exact unfinished (balanced.owed_over owed member)
  exact if_neg other

theorem Balanced.abandons_nothing (balanced : b.Balanced past) {owed : RunResult × List Nat}
    (member : owed ∈ b.owed) : abandoned owed.1.cycle past = [] := by
  apply Classical.byContradiction
  intro some
  exact (balanced.abandoned_over _ some).2 owed member rfl

theorem Entry.stays_over (entry : Entry b accepted? called? abandoned? ended? b') {cycle : Nat}
    (before : b.Over cycle) : b'.Over cycle := by
  cases entry with
  | nothing => exact before
  | join => exact before
  | begin old =>
    refine Or.inl (?_ : cycle < old + 1)
    rcases before with earlier | ⟨same, _⟩
    · exact Nat.lt_succ_of_lt earlier
    · exact Nat.lt_succ_of_le (Nat.le_of_eq same)
  | close result =>
    rcases before with earlier | ⟨_, stopped⟩
    · exact Or.inl earlier
    · contradiction
  | call => exact before
  | settle => exact before
  | abandon => exact before

theorem Balanced.entry (balanced : b.Balanced past)
    (entry : Entry b accepted? called? abandoned? ended? b')
    (accepts : m.accepted? = accepted?) (calling : m.after.calling? = called?)
    (abandons : m.abandoned? = abandoned?) (same : m.after.sched.cycle = b'.cycle) :
    b'.Balanced (m :: past) := by
  have stays : ∀ {cycle}, b.Over cycle → b'.Over cycle := entry.stays_over
  obtain ⟨accepted_eq, owed_ordered, owed_over, abandoned_over⟩ := id balanced
  cases entry with
  | nothing =>
    refine ⟨fun cycle => ?_, owed_ordered, owed_over, fun cycle => ?_⟩
    · rw [accepted_cons_none accepts, invoked_cons_none calling, abandoned_cons_none abandons]
      exact accepted_eq cycle
    · rw [abandoned_cons_none abandons]
      exact abandoned_over cycle
  | join current waiting owed =>
    refine ⟨fun cycle => ?_, owed_ordered, owed_over, fun cycle => ?_⟩
    · rw [accepted_cons accepts, invoked_cons_none calling, abandoned_cons_none abandons,
        accepted_eq cycle, same]
      by_cases here : current = cycle <;> simp [due, here]
    · rw [abandoned_cons_none abandons]
      exact abandoned_over cycle
  | begin current owed =>
    refine ⟨fun cycle => ?_, owed_ordered, fun owed member => stays (owed_over owed member),
      fun cycle => ?_⟩
    · rw [accepted_cons accepts, invoked_cons_none calling, abandoned_cons_none abandons,
        accepted_eq cycle, same]
      by_cases here : current + 1 = cycle <;> simp [due, here]
    · rw [abandoned_cons_none abandons]
      intro some
      exact ⟨stays (abandoned_over cycle some).1, (abandoned_over cycle some).2⟩
  | close result waiting owed =>
    have unfinished : ¬(Books.mk true result.cycle waiting owed).Over result.cycle := by
      simp [Over]
    have none := balanced.owes_nothing unfinished
    refine ⟨fun cycle => ?_, ?_, ?_, fun cycle => ?_⟩
    · rw [accepted_cons_none accepts, invoked_cons_none calling, abandoned_cons_none abandons,
        accepted_eq cycle]
      by_cases here : result.cycle = cycle
      · subst here
        simp only [due] at none ⊢
        simp [none]
      · simp [due, here]
    · refine List.pairwise_cons.mpr ⟨?_, owed_ordered⟩
      intro other member
      rcases owed_over other member with earlier | ⟨_, stopped⟩
      · exact earlier
      · contradiction
    · intro other member
      rcases List.mem_cons.mp member with rfl | earlier
      · exact Or.inr ⟨rfl, rfl⟩
      · exact stays (owed_over other earlier)
    · rw [abandoned_cons_none abandons]
      intro some
      obtain ⟨ended, others⟩ := abandoned_over cycle some
      refine ⟨stays ended, ?_⟩
      intro other member
      rcases List.mem_cons.mp member with rfl | earlier
      · rintro rfl
        exact unfinished ended
      · exact others other earlier
  | call running current waiting callback result rest owed =>
    have none := balanced.abandons_nothing (List.mem_cons_self ..)
    refine ⟨fun cycle => ?_, ?_, ?_, fun cycle => ?_⟩
    · rw [accepted_cons_none accepts, invoked_cons_some calling, abandoned_cons_none abandons,
        accepted_eq cycle]
      by_cases here : result.cycle = cycle
      · subst here
        dsimp only at none
        simp [due, none]
      · simp [due, here]
    · exact List.pairwise_cons.mpr (List.pairwise_cons.mp owed_ordered)
    · intro other member
      rcases List.mem_cons.mp member with rfl | earlier
      · exact owed_over (result, callback :: rest) (List.mem_cons_self ..)
      · exact owed_over other (List.mem_cons_of_mem _ earlier)
    · rw [abandoned_cons_none abandons]
      intro some
      obtain ⟨ended, others⟩ := abandoned_over cycle some
      refine ⟨ended, ?_⟩
      intro other member
      rcases List.mem_cons.mp member with rfl | earlier
      · exact others (result, callback :: rest) (List.mem_cons_self ..)
      · exact others other (List.mem_cons_of_mem _ earlier)
  | settle running current waiting result owed =>
    refine ⟨fun cycle => ?_, (List.pairwise_cons.mp owed_ordered).2,
      fun other member => owed_over other (List.mem_cons_of_mem _ member), fun cycle => ?_⟩
    · rw [accepted_cons_none accepts, invoked_cons_none calling, abandoned_cons_none abandons,
        accepted_eq cycle]
      simp [due]
    · rw [abandoned_cons_none abandons]
      intro some
      obtain ⟨ended, others⟩ := abandoned_over cycle some
      exact ⟨ended, fun other member => others other (List.mem_cons_of_mem _ member)⟩
  | abandon running current waiting result rest owed =>
    obtain ⟨lower, ordered⟩ := List.pairwise_cons.mp owed_ordered
    refine ⟨fun cycle => ?_, ordered,
      fun other member => owed_over other (List.mem_cons_of_mem _ member), fun cycle => ?_⟩
    · rw [accepted_cons_none accepts, invoked_cons_none calling, abandoned_cons_some abandons,
        accepted_eq cycle]
      simp [due]
    · rw [abandoned_cons_some abandons]
      intro some
      by_cases here : result.cycle = cycle
      · subst here
        refine ⟨owed_over (result, rest) (List.mem_cons_self ..), ?_⟩
        intro other member
        exact Nat.ne_of_lt (lower other member)
      · rw [if_neg here, List.append_nil] at some
        obtain ⟨ended, others⟩ := abandoned_over cycle some
        exact ⟨ended, fun other member => others other (List.mem_cons_of_mem _ member)⟩

theorem Closed.result_unique (closed : b.Closed past) {result other : RunResult}
    (member : result ∈ results past) (ended : other ∈ results past)
    (same : result.cycle = other.cycle) : result = other := by
  have ordered := closed.ordered
  clear closed
  generalize results past = all at member ended ordered
  induction all with
  | nil => exact absurd member List.not_mem_nil
  | cons first rest ih =>
    obtain ⟨later, ordered⟩ := List.pairwise_cons.mp ordered
    rcases List.mem_cons.mp member with rfl | inside
    · rcases List.mem_cons.mp ended with rfl | below
      · rfl
      · have less := later other below
        omega
    · rcases List.mem_cons.mp ended with rfl | below
      · have less := later result inside
        omega
      · exact ih inside below ordered

theorem Closed.keep (closed : b.Closed past) (ends : m.ended? = none)
    (calling : ∀ call, m.after.calling? = some call → ∃ rest, (call.2, rest) ∈ b.owed)
    (owed : ∀ owed ∈ b'.owed, ∃ rest, (owed.1, rest) ∈ b.owed)
    (stays : ∀ cycle, b.Over cycle → b'.Over cycle) : b'.Closed (m :: past) := by
  obtain ⟨owed_ended, called_ended, ordered, ended_over⟩ := closed
  rw [← results_cons_none ends] at owed_ended called_ended ordered ended_over
  refine ⟨?_, ?_, ordered, fun result member => stays _ (ended_over result member)⟩
  · intro later member
    obtain ⟨rest, before⟩ := owed later member
    exact owed_ended (later.1, rest) before
  · intro call member
    rcases List.mem_append.mp member with earlier | now
    · exact called_ended call earlier
    · obtain ⟨rest, before⟩ := calling call (Option.mem_toList.mp now)
      exact owed_ended _ before

theorem Closed.entry (closed : b.Closed past)
    (entry : Entry b accepted? called? abandoned? ended? b')
    (calling : m.after.calling? = called?) (ends : m.ended? = ended?) :
    b'.Closed (m :: past) := by
  have stays : ∀ cycle, b.Over cycle → b'.Over cycle := fun _ => entry.stays_over
  cases entry with
  | nothing => exact closed.keep ends (by simp [calling]) (fun owed member => ⟨_, member⟩) stays
  | join => exact closed.keep ends (by simp [calling]) (fun owed member => ⟨_, member⟩) stays
  | begin => exact closed.keep ends (by simp [calling]) (fun owed member => ⟨_, member⟩) stays
  | close result waiting owed =>
    obtain ⟨owed_ended, called_ended, ordered, ended_over⟩ := closed
    refine ⟨?_, ?_, ?_, ?_⟩
    all_goals rw [results_cons_some ends]
    · intro other member
      rcases List.mem_cons.mp member with rfl | earlier
      · exact List.mem_cons_self ..
      · exact List.mem_cons_of_mem _ (owed_ended other earlier)
    · rw [calls_cons_none calling]
      exact fun call member => List.mem_cons_of_mem _ (called_ended call member)
    · refine List.pairwise_cons.mpr ⟨?_, ordered⟩
      intro earlier member
      rcases ended_over earlier member with less | ⟨_, stopped⟩
      · exact less
      · contradiction
    · intro other member
      rcases List.mem_cons.mp member with rfl | earlier
      · exact Or.inr ⟨rfl, rfl⟩
      · exact stays _ (ended_over other earlier)
  | call running current waiting callback result rest owed =>
    refine closed.keep ends ?_ ?_ stays
    · intro call called
      obtain rfl := Option.some.inj (calling.symm.trans called)
      exact ⟨callback :: rest, List.mem_cons_self ..⟩
    · intro other member
      rcases List.mem_cons.mp member with rfl | earlier
      · exact ⟨callback :: rest, List.mem_cons_self ..⟩
      · exact ⟨other.2, List.mem_cons_of_mem _ earlier⟩
  | settle =>
    exact closed.keep ends (by simp [calling])
      (fun owed member => ⟨owed.2, List.mem_cons_of_mem _ member⟩) stays
  | abandon =>
    exact closed.keep ends (by simp [calling])
      (fun owed member => ⟨owed.2, List.mem_cons_of_mem _ member⟩) stays

end Books

end Turtle
