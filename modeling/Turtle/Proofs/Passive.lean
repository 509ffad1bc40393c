import Turtle.Proofs.Legible
import Turtle.Proofs.Likeness

/-!
# Watching

A scheduler is watched by observers and by its journal, and some observers are passive: whenever
they are told of something they return, and that is all.  Two schedulers that differ only in how
they are watched do alike, step by step, but for the turns of passive observers, which one of them
may have to pass before it is where the other one is.  All commands are legible there: whether the
stack is recorded would matter otherwise, for it might be that it cannot be.
-/

set_option autoImplicit false

namespace Turtle

open Relation

/-- An entry without its stack. -/
def Entry.bare {α : Type} (entry : Entry α) : Entry α :=
  { entry with stack? := none }

namespace Journal

variable {α : Type} {j k : Journal α}

/-- Two journals, which may hold different numbers of entries, have been written alike but for the
stacks. -/
structure Agrees (j k : Journal α) : Prop where
  next_eq : j.next = k.next
  last_eq : j.last?.map Entry.bare = k.last?.map Entry.bare
  numbered : ∀ entry ∈ j.recent, entry.index < j.next
  numbered' : ∀ entry ∈ k.recent, entry.index < k.next
  same : ∀ entry ∈ j.recent, ∀ entry' ∈ k.recent, entry.index = entry'.index →
    entry.bare = entry'.bare

theorem agrees_empty (history history' : Nat) :
    (empty history : Journal α).Agrees (empty history') where
  next_eq := rfl
  last_eq := rfl
  numbered := by simp [empty]
  numbered' := by simp [empty]
  same := by simp [empty]

theorem mem_recent_record {event : α} {at? : Option Location} {stack? : Option (List String)}
    {entry : Entry α} (member : entry ∈ (j.record event at? stack?).recent) :
    entry = ⟨j.next, event, at?, stack?⟩ ∨ entry ∈ j.recent := by
  rcases List.mem_cons.mp member with new | kept
  · exact Or.inl new
  · split at kept
    · exact Or.inr (List.mem_of_mem_take kept)
    · exact Or.inr kept

theorem numbered_record (numbered : ∀ entry ∈ j.recent, entry.index < j.next) (event : α)
    (at? : Option Location) (stack? : Option (List String)) :
    ∀ entry ∈ (j.record event at? stack?).recent,
      entry.index < (j.record event at? stack?).next := by
  intro entry member
  rcases mem_recent_record member with rfl | earlier
  · exact Nat.lt_succ_self j.next
  · exact Nat.lt_succ_of_lt (numbered entry earlier)

theorem Agrees.record (agrees : j.Agrees k) (event : α) (at? : Option Location)
    (stack? stack?' : Option (List String)) :
    (j.record event at? stack?).Agrees (k.record event at? stack?') where
  next_eq := congrArg (· + 1) agrees.next_eq
  last_eq := by simp [Journal.record, last?, Entry.bare, agrees.next_eq]
  numbered := numbered_record agrees.numbered event at? stack?
  numbered' := numbered_record agrees.numbered' event at? stack?'
  same := by
    intro entry member entry' member' index_eq
    rcases mem_recent_record member with rfl | earlier
    · rcases mem_recent_record member' with rfl | earlier'
      · simp [Entry.bare, agrees.next_eq]
      · have below := agrees.numbered' entry' earlier'
        rw [← index_eq, ← agrees.next_eq] at below
        exact absurd below (Nat.lt_irrefl _)
    · rcases mem_recent_record member' with rfl | earlier'
      · have below := agrees.numbered entry earlier
        rw [index_eq, agrees.next_eq] at below
        exact absurd below (Nat.lt_irrefl _)
      · exact agrees.same entry earlier entry' earlier' index_eq

/-- The place of the last entry can be read off either journal. -/
theorem Agrees.place_eq (agrees : j.Agrees k) :
    j.last?.bind Entry.at? = k.last?.bind Entry.at? := by
  have read : ∀ last : Option (Entry α),
      last.bind Entry.at? = (last.map Entry.bare).bind Entry.at? := by
    intro last
    cases last <;> rfl
  rw [read, agrees.last_eq, ← read]

/-- Whatever both journals still hold is the same in both, but for the stacks. -/
theorem Agrees.held_same (agrees : j.Agrees k) :
    ∀ entry ∈ j.held, ∀ entry' ∈ k.held, entry.index = entry'.index →
      entry.bare = entry'.bare := by
  have recent : ∀ {journal : Journal α} {entry}, entry ∈ journal.held → entry ∈ journal.recent :=
    fun member => List.mem_of_mem_take (List.mem_reverse.mp member)
  exact fun entry member entry' member' =>
    agrees.same entry (recent member) entry' (recent member')

end Journal

variable {passive : Nat → Bool}

namespace Scheduler

/-- A scheduler that is watched in some other way. -/
def seen (s : Scheduler) (verbose : Bool) (journal : Journal StepEvent)
    (observers : List (Event × Nat)) : Scheduler :=
  { s with
    settings := { s.settings with verbose := verbose }
    journal := journal
    observers := observers }

/-- Two schedulers differ only in how they are watched: in the length of the journal and in whether
stacks are written into it, and in the passive observers. -/
inductive Indistinct (passive : Nat → Bool) (s : Scheduler) : Scheduler → Prop where
  | intro (verbose : Bool) (journal : Journal StepEvent) (observers : List (Event × Nat)) :
    s.journal.Agrees journal →
    s.observers.filter (fun attached => !passive attached.2) =
      observers.filter (fun attached => !passive attached.2) →
    Indistinct passive s (s.seen verbose journal observers)

namespace Indistinct

variable {s t : Scheduler}

/-- What does not depend on how a scheduler is watched is the same. -/
theorem read {α : Type} {f : Scheduler → α} (same : s.Indistinct passive t)
    (unseen : ∀ verbose journal observers, f (s.seen verbose journal observers) = f s) :
    f t = f s := by
  obtain ⟨verbose, journal, observers, _, _⟩ := same
  exact unseen verbose journal observers

/-- What changes neither the journal nor the observers, and does not depend on them, makes no
difference. -/
theorem change {f : Scheduler → Scheduler} (same : s.Indistinct passive t)
    (unseen : ∀ verbose journal observers,
      f (s.seen verbose journal observers) = (f s).seen verbose journal observers)
    (journal_eq : (f s).journal = s.journal) (observers_eq : (f s).observers = s.observers) :
    (f s).Indistinct passive (f t) := by
  obtain ⟨verbose, journal, observers, agrees, active⟩ := same
  rw [unseen]
  exact .intro verbose journal observers (journal_eq ▸ agrees) (observers_eq ▸ active)

theorem phase_eq (same : s.Indistinct passive t) : t.phase = s.phase :=
  same.read fun _ _ _ => rfl

theorem live_eq (same : s.Indistinct passive t) : t.live = s.live :=
  same.read fun _ _ _ => rfl

theorem stack_eq (same : s.Indistinct passive t) : t.stack = s.stack :=
  same.read fun _ _ _ => rfl

theorem queue_eq (same : s.Indistinct passive t) : t.queue = s.queue :=
  same.read fun _ _ _ => rfl

theorem registry_eq (same : s.Indistinct passive t) : t.registry = s.registry :=
  same.read fun _ _ _ => rfl

theorem reports_eq (same : s.Indistinct passive t) : t.reports = s.reports :=
  same.read fun _ _ _ => rfl

theorem calls_eq (same : s.Indistinct passive t) : t.calls = s.calls :=
  same.read fun _ _ _ => rfl

theorem timers_eq (same : s.Indistinct passive t) : t.timers = s.timers :=
  same.read fun _ _ _ => rfl

theorem agrees (same : s.Indistinct passive t) : s.journal.Agrees t.journal := by
  cases same
  assumption

/-- The observers that are not passive are told of the same. -/
theorem observersOf_eq (same : s.Indistinct passive t) (event : Event) :
    (s.observersOf event).filter (fun id => !passive id) =
      (t.observersOf event).filter (fun id => !passive id) := by
  have watching : ∀ observers : List (Event × Nat),
      ((observers.filter fun attached => attached.1 = event).map Prod.snd).filter
          (fun id => !passive id) =
        ((observers.filter fun attached => !passive attached.2).filter
          fun attached => attached.1 = event).map Prod.snd := by
    intro observers
    rw [List.filter_map, List.filter_filter, List.filter_filter]
    refine congrArg (List.map Prod.snd) (List.filter_congr fun attached _ => ?_)
    exact Bool.and_comm _ _
  obtain ⟨verbose, journal, observers, _, active⟩ := same
  exact (watching s.observers).trans
    ((congrArg (fun active => (active.filter fun attached => attached.1 = event).map Prod.snd)
      active).trans (watching observers).symm)

/-- What can be come to is the same. -/
theorem every {fits : Command → Bool} (same : s.Indistinct passive t) (every : s.Every fits) :
    t.Every fits := by
  cases same
  exact { every with }

theorem enter (same : s.Indistinct passive t) (event : StepEvent) (at? : Option Location)
    (stack? stack?' : Option (List String)) :
    (s.enter event at? stack?).Indistinct passive (t.enter event at? stack?') := by
  obtain ⟨verbose, journal, observers, agrees, active⟩ := same
  exact .intro verbose _ observers (agrees.record event at? _ _) active

/-- What is legible can be recorded in either. -/
theorem complete (same : s.Indistinct passive t) {event : StepEvent} {at? : Option Location}
    (legible : (s.complete event at?).1.Legible) :
    (s.complete event at?).1.Indistinct passive (t.complete event at?).1 ∧
      (t.complete event at?).2 = (s.complete event at?).2 := by
  have written : s.Legible := by
    obtain ⟨journal, framed⟩ := s.complete_frame event at?
    rw [framed] at legible
    exact { legible with }
  obtain ⟨stack?, recorded⟩ := written.recordable
  obtain ⟨stack?', recorded'⟩ := (same.every written).recordable
  rw [complete_of_snapshot recorded, complete_of_snapshot recorded']
  exact ⟨same.enter event at? stack? stack?', rfl⟩

theorem lay (same : s.Indistinct passive t) (stack : List Frame) :
    (s.lay stack).Indistinct passive (t.lay stack) :=
  same.change (f := (·.lay stack)) (fun _ _ _ => rfl) rfl rfl

theorem leave (same : s.Indistinct passive t) (queue : CommandQueue) :
    (s.leave queue).Indistinct passive (t.leave queue) :=
  same.change (f := (·.leave queue)) (fun _ _ _ => rfl) rfl rfl

theorem count (same : s.Indistinct passive t) : s.count.Indistinct passive t.count :=
  same.change (fun _ _ _ => rfl) rfl rfl

theorem define (same : s.Indistinct passive t) (name : String) (params : List String)
    (body : List Command) :
    (s.define name params body).Indistinct passive (t.define name params body) :=
  same.change (f := (·.define name params body)) (fun _ _ _ => rfl) rfl rfl

theorem stop (same : s.Indistinct passive t) : s.stop.Indistinct passive t.stop :=
  same.change (fun _ _ _ => rfl) rfl rfl

theorem ask (same : s.Indistinct passive t) (call : Call) :
    (s.ask call).Indistinct passive (t.ask call) :=
  same.change (f := (·.ask call)) (fun _ _ _ => rfl) rfl rfl

theorem attach (same : s.Indistinct passive t) (event : Event) (observer : Nat) :
    (s.attach event observer).Indistinct passive (t.attach event observer) := by
  obtain ⟨verbose, journal, observers, agrees, active⟩ := same
  refine .intro verbose journal _ agrees ?_
  rw [Scheduler.attach, List.filter_append, active, ← List.filter_append]
  rfl

theorem addReport (same : s.Indistinct passive t) (fault : Fault) :
    (s.addReport fault).Indistinct passive (t.addReport fault) :=
  same.change (f := (·.addReport fault)) (fun _ _ _ => rfl) rfl rfl

theorem arm (same : s.Indistinct passive t) : s.arm.Indistinct passive t.arm :=
  same.change (fun _ _ _ => rfl) rfl rfl

theorem expire (same : s.Indistinct passive t) (position : Nat) :
    Scheduler.Indistinct passive { s with timers := s.timers.eraseIdx position }
      { t with timers := t.timers.eraseIdx position } :=
  same.change (f := fun s => { s with timers := s.timers.eraseIdx position })
    (fun _ _ _ => rfl) rfl rfl

theorem accept (same : s.Indistinct passive t) (batch : List Command) (callback? : Option Nat) :
    (s.accept batch callback?).Indistinct passive (t.accept batch callback?) :=
  same.change (f := (·.accept batch callback?)) (fun _ _ _ => rfl) rfl rfl

theorem beginCycle (same : s.Indistinct passive t) :
    s.beginCycle.Indistinct passive t.beginCycle :=
  same.change (fun _ _ _ => rfl) rfl rfl

theorem prime (same : s.Indistinct passive t) : s.prime.Indistinct passive t.prime :=
  same.change (fun _ _ _ => rfl) rfl rfl

theorem enqueue (same : s.Indistinct passive t) (commands : List Command) :
    (s.enqueue commands).Indistinct passive (t.enqueue commands) :=
  same.change (f := (·.enqueue commands)) (fun _ _ _ => rfl) rfl rfl

theorem endCycle (same : s.Indistinct passive t) (phase : Phase) :
    (s.endCycle phase).1.Indistinct passive (t.endCycle phase).1 ∧
      (t.endCycle phase).2 = (s.endCycle phase).2 := by
  obtain ⟨verbose, journal, observers, agrees, active⟩ := same
  refine ⟨?_, rfl⟩
  exact .intro verbose _ observers (agrees.record (.halt phase) none _ _) active

/-- A fault is given the same number. -/
theorem reportWith (same : s.Indistinct passive t) (fault : Fault)
    (stack? stack?' : Option (List String)) :
    (s.reportWith fault stack?).1.Indistinct passive (t.reportWith fault stack?').1 ∧
      (t.reportWith fault stack?').2 = (s.reportWith fault stack?).2 := by
  have number : t.journal.next = s.journal.next := same.agrees.next_eq.symm
  have entered := same.enter (.error fault.message) fault.at? stack? stack?'
  refine ⟨?_, by simp only [Scheduler.reportWith, number]⟩
  simp only [Scheduler.reportWith, number]
  exact entered.addReport _

theorem operate (same : s.Indistinct passive t) {op : String} {args : List String}
    {at? : Option Location} (legible : (s.operate op args at?).1.Legible) :
    (s.operate op args at?).1.Indistinct passive (t.operate op args at?).1 ∧
      (t.operate op args at?).2 = (s.operate op args at?).2 := by
  have lookup : t.registry.get? op = s.registry.get? op := by rw [same.registry_eq]
  unfold Scheduler.operate at legible ⊢
  rw [lookup]
  cases found : s.registry.get? op with
  | some procedure =>
    rw [found] at legible
    cases bound : procedure.bind args at? with
    | error fault =>
      simp only [bound]
      exact ⟨same, trivial⟩
    | ok body =>
      have stacked : Frame.load body t.stack = Frame.load body s.stack := by rw [same.stack_eq]
      simp only [bound, stacked] at legible ⊢
      exact (same.lay (Frame.load body s.stack)).complete legible
  | none =>
    cases Primitive.ofWord? op with
    | none => exact ⟨same, rfl⟩
    | some primitive =>
      cases fit : primitive.calls args with
      | error cause =>
        simp only [fit]
        exact ⟨same, trivial⟩
      | ok calls =>
        simp only [fit]
        exact ⟨same, trivial⟩

theorem advance (same : s.Indistinct passive t) {frame : Frame} {below : List Frame}
    (legible : (s.advance frame below).1.Legible) :
    (s.advance frame below).1.Indistinct passive (t.advance frame below).1 ∧
      (t.advance frame below).2 = (s.advance frame below).2 := by
  unfold Scheduler.advance at legible ⊢
  cases command : frame.command with
  | leaf op args at? =>
    rw [command] at legible
    exact (same.lay below).operate legible
  | loop count body at? =>
    rw [command] at legible
    dsimp only at legible ⊢
    split at legible
    · split at legible
      · rename_i again
        simp only [if_pos again]
        exact (same.lay _).complete legible
      · rename_i complete
        simp only [if_neg complete]
        exact (same.lay below).complete legible
    · exact ⟨same, rfl⟩
  | define name params body at? =>
    rw [command] at legible
    exact ((same.lay below).define name params body).complete legible
  | stray shown? => exact ⟨same.lay below, rfl⟩

/-- A step leaves the same to be done. -/
theorem step (same : s.Indistinct passive t) (legible : s.step.1.Legible) :
    s.step.1.Indistinct passive t.step.1 ∧ t.step.2 = s.step.2 := by
  by_cases running : s.phase = .running
  · have running' := same.phase_eq.trans running
    cases live : s.live with
    | false =>
      rw [step_of_unlive running live, step_of_unlive running' (same.live_eq.trans live)]
      exact ⟨same, rfl⟩
    | true =>
      have live' := same.live_eq.trans live
      cases stacked : s.stack with
      | cons frame below =>
        rw [step_of_frame running live stacked] at legible ⊢
        rw [step_of_frame running' live' (same.stack_eq.trans stacked)]
        exact same.count.advance legible
      | nil =>
        have empty' := same.stack_eq.trans stacked
        cases taken : s.queue.next? with
        | some next =>
          obtain ⟨command, rest⟩ := next
          have taken' := (congrArg CommandQueue.next? same.queue_eq).trans taken
          rw [step_of_waiting running live stacked taken] at legible ⊢
          rw [step_of_waiting running' live' empty' taken']
          exact (((same.leave rest).count).lay _).complete legible
        | none =>
          have none' := (congrArg CommandQueue.next? same.queue_eq).trans taken
          rw [step_of_nothing running live stacked taken,
            step_of_nothing running' live' empty' none']
          exact ⟨same.count, rfl⟩
  · rw [step_of_rest running, step_of_rest (same.phase_eq ▸ running)]
    exact ⟨same, rfl⟩

end Indistinct

end Scheduler

/-! ## Engines that are watched differently -/

namespace Task

/-- No passive observer has to do with a task. -/
def isFirm (passive : Nat → Bool) : Task → Bool
  | .foreign (.observer id _) => !passive id
  | .announcing _ _ => false
  | .reporting _ _ => false
  | _ => true

/-- Two tasks differ only in the passive observers that are still to be told. -/
inductive Alike (passive : Nat → Bool) : Task → Task → Prop where
  | firm {task : Task} : task.isFirm passive = true → Alike passive task task
  | announcing (notice : Notice) {rest rest' : List Nat} :
    rest.filter (fun id => !passive id) = rest'.filter (fun id => !passive id) →
    Alike passive (.announcing notice rest) (.announcing notice rest')
  | reporting (fault : Fault) {rest rest' : List Nat} :
    rest.filter (fun id => !passive id) = rest'.filter (fun id => !passive id) →
    Alike passive (.reporting fault rest) (.reporting fault rest')

end Task

namespace Engine

/-- Two engines are at the same place, and no passive observer has control. -/
inductive Matches (passive : Nat → Bool) : Engine → Engine → Prop where
  | intro {s t : Scheduler} {tasks tasks' : List Task} (signal : Signal) :
    s.Indistinct passive t → List.Forall₂ (Task.Alike passive) tasks tasks' →
    Matches passive ⟨s, tasks, signal⟩ ⟨t, tasks', signal⟩

/-- Observers are told while some task waits. -/
def telling (s : Scheduler) (notice : Notice) (wait : List Nat → Task) (tasks : List Task) :
    List Nat → Engine
  | [] => ⟨s, tasks, .returned⟩
  | observer :: rest => ⟨s, .foreign (.observer observer notice) :: wait rest :: tasks, .called⟩

theorem tell_eq_telling (s : Scheduler) (notice : Notice) (tasks : List Task) (rest : List Nat) :
    tell s notice tasks rest = telling s notice (.announcing notice) tasks rest := by
  cases rest <;> rfl

theorem tellFault_eq_telling (s : Scheduler) (fault : Fault) (tasks : List Task)
    (rest : List Nat) :
    tellFault s fault tasks rest = telling s (.onError fault) (.reporting fault) tasks rest := by
  cases rest <;> rfl

/-- A turn that has to do with passive observers only: one of them returns, or the next observer is
told. -/
inductive Passing (passive : Nat → Bool) : Engine → Engine → Prop where
  | leave (s : Scheduler) {id : Nat} (notice : Notice) (tasks : List Task) (signal : Signal) :
    passive id = true →
    Passing passive ⟨s, .foreign (.observer id notice) :: tasks, signal⟩ ⟨s, tasks, .returned⟩
  | tell (s : Scheduler) (notice : Notice) (rest : List Nat) (tasks : List Task) :
    Passing passive ⟨s, .announcing notice rest :: tasks, .returned⟩
      (Engine.tell s notice tasks rest)
  | tellFault (s : Scheduler) (fault : Fault) (rest : List Nat) (tasks : List Task) :
    Passing passive ⟨s, .reporting fault rest :: tasks, .returned⟩
      (Engine.tellFault s fault tasks rest)

abbrev Passes (passive : Nat → Bool) : Engine → Engine → Prop :=
  ReflTransGen (Passing passive)

/-- Two engines come to the same place when passive observers have been passed. -/
def Joins (passive : Nat → Bool) (e f : Engine) : Prop :=
  ∃ e' f', Passes passive e e' ∧ Passes passive f f' ∧ Matches passive e' f'

theorem Joins.of_matches {e f : Engine} (matched : Matches passive e f) : Joins passive e f :=
  ⟨e, f, .refl, .refl, matched⟩

variable {s t : Scheduler} {tasks tasks' : List Task}

/-- When passive observers have been passed then either none is left to be told, or one is told that
is not passive. -/
theorem telling_passes {notice : Notice} {wait : List Nat → Task}
    (again : ∀ rest, Passing passive ⟨s, wait rest :: tasks, .returned⟩
      (telling s notice wait tasks rest)) (rest : List Nat) :
    rest.filter (fun id => !passive id) = [] ∧
        Passes passive (telling s notice wait tasks rest) ⟨s, tasks, .returned⟩ ∨
      ∃ id later, rest.filter (fun id => !passive id) = id :: later.filter (fun id => !passive id) ∧
        passive id = false ∧
        Passes passive (telling s notice wait tasks rest)
          ⟨s, .foreign (.observer id notice) :: wait later :: tasks, .called⟩ := by
  induction rest with
  | nil => exact Or.inl ⟨rfl, .refl⟩
  | cons observer rest ih =>
    cases inert : passive observer with
    | false => exact Or.inr ⟨observer, rest, by simp [inert], inert, .refl⟩
    | true =>
      have onward : Passes passive (telling s notice wait tasks (observer :: rest))
          (telling s notice wait tasks rest) :=
        .head (.leave s notice _ .called inert) (.single (again rest))
      rw [List.filter_cons_of_neg (by simp [inert])]
      rcases ih with ⟨none, passes⟩ | ⟨id, later, first, active, passes⟩
      · exact Or.inl ⟨none, onward.trans passes⟩
      · exact Or.inr ⟨id, later, first, active, onward.trans passes⟩

section Joining

variable (same : s.Indistinct passive t) (alike : List.Forall₂ (Task.Alike passive) tasks tasks')
include same alike

theorem joins_same (signal : Signal) : Joins passive ⟨s, tasks, signal⟩ ⟨t, tasks', signal⟩ :=
  .of_matches (.intro signal same alike)

theorem joins_telling {notice : Notice} {wait : List Nat → Task}
    (again : ∀ s tasks rest, Passing passive ⟨s, wait rest :: tasks, .returned⟩
      (telling s notice wait tasks rest))
    (waits : ∀ rest rest' : List Nat,
      rest.filter (fun id => !passive id) = rest'.filter (fun id => !passive id) →
        Task.Alike passive (wait rest) (wait rest'))
    {rest rest' : List Nat}
    (active : rest.filter (fun id => !passive id) = rest'.filter (fun id => !passive id)) :
    Joins passive (telling s notice wait tasks rest) (telling t notice wait tasks' rest') := by
  rcases telling_passes (again s tasks) rest with ⟨none, passes⟩ | ⟨id, later, first, firm, passes⟩
  · rcases telling_passes (again t tasks') rest' with
      ⟨_, passes'⟩ | ⟨id', later', first', _, _⟩
    · exact ⟨_, _, passes, passes', .intro _ same alike⟩
    · rw [none, first'] at active
      exact absurd active (List.cons_ne_nil _ _).symm
  · rcases telling_passes (again t tasks') rest' with
      ⟨none', _⟩ | ⟨id', later', first', _, passes'⟩
    · rw [first, none'] at active
      exact absurd active (List.cons_ne_nil _ _)
    · rw [first, first', List.cons.injEq] at active
      obtain ⟨rfl, remaining⟩ := active
      have told : Task.isFirm passive (.foreign (.observer id notice)) = true := by
        simp [Task.isFirm, firm]
      exact ⟨_, _, passes, passes',
        .intro _ same (.cons (.firm told) (.cons (waits _ _ remaining) alike))⟩

theorem joins_tell (notice : Notice) {rest rest' : List Nat}
    (active : rest.filter (fun id => !passive id) = rest'.filter (fun id => !passive id)) :
    Joins passive (tell s notice tasks rest) (tell t notice tasks' rest') := by
  rw [tell_eq_telling, tell_eq_telling]
  refine joins_telling same alike (fun s tasks rest => ?_) (fun _ _ => .announcing notice) active
  rw [← tell_eq_telling]
  exact .tell s notice rest tasks

theorem joins_announce (notice : Notice) :
    Joins passive (announce s notice tasks) (announce t notice tasks') :=
  joins_tell same alike notice (same.observersOf_eq notice.event)

theorem joins_tellFault (fault : Fault) {rest rest' : List Nat}
    (active : rest.filter (fun id => !passive id) = rest'.filter (fun id => !passive id)) :
    Joins passive (tellFault s fault tasks rest) (tellFault t fault tasks' rest') := by
  rw [tellFault_eq_telling, tellFault_eq_telling]
  refine joins_telling same alike (fun s tasks rest => ?_) (fun _ _ => .reporting fault) active
  rw [← tellFault_eq_telling]
  exact .tellFault s fault rest tasks

theorem joins_report (legible : s.Legible) (fault : Fault) :
    Joins passive (report s fault tasks) (report t fault tasks') := by
  obtain ⟨stack?, recorded⟩ := legible.recordable
  obtain ⟨stack?', recorded'⟩ := (same.every legible).recordable
  obtain ⟨reported, number_eq⟩ := same.reportWith fault stack? stack?'
  rw [report_of_snapshot recorded, report_of_snapshot recorded', number_eq]
  exact joins_tellFault reported alike _ (same.observersOf_eq .onError)

theorem joins_settle (result : RunResult) (callbacks : List Nat) :
    Joins passive (settle s result tasks callbacks) (settle t result tasks' callbacks) := by
  cases callbacks with
  | nil => exact joins_same same alike .returned
  | cons callback rest =>
    exact joins_same same (.cons (.firm rfl) (.cons (.firm rfl) alike)) .called

theorem joins_halt (phase : Phase) :
    Joins passive (halt s phase tasks) (halt t phase tasks') := by
  by_cases running : s.phase = .running
  · have result_eq : (t.endCycle phase).2 = (s.endCycle phase).2 := (same.endCycle phase).2
    rw [halt_of_running running, halt_of_running (same.phase_eq.trans running)]
    rw [show RunResult.mk phase t.cycle t.steps = ⟨phase, s.cycle, s.steps⟩ from
        congrArg Prod.fst result_eq,
      show t.callbacks = s.callbacks from congrArg Prod.snd result_eq]
    exact joins_announce (same.endCycle phase).1 (.cons (.firm rfl) alike) _
  · rw [halt_of_rest running, halt_of_rest (same.phase_eq ▸ running)]
    exact joins_same same alike .returned

theorem joins_paint (legible : s.Legible) (leaf : Command) (primitive : Primitive)
    (calls : List Call) :
    Joins passive (paint s leaf primitive tasks calls) (paint t leaf primitive tasks' calls) := by
  cases calls with
  | nil =>
    obtain ⟨stack?, recorded⟩ := legible.recordable
    obtain ⟨stack?', recorded'⟩ := (same.every legible).recordable
    rw [paint_nil_of_snapshot recorded, paint_nil_of_snapshot recorded']
    exact joins_announce (same.enter _ _ stack? stack?') (.cons (.firm rfl) alike) _
  | cons call rest =>
    exact joins_same (same.ask call) (.cons (.firm rfl) (.cons (.firm rfl) alike)) .called

theorem joins_takeStep (legible : s.Legible) :
    Joins passive (takeStep s tasks) (takeStep t tasks') := by
  have legible' : s.step.1.Legible := legible.step Command.steadfast_describe?
  obtain ⟨stepped, work_eq⟩ := same.step legible'
  unfold takeStep
  obtain ⟨next, work, found⟩ : ∃ next work, s.step = (next, work) := ⟨_, _, rfl⟩
  obtain ⟨next', work', found'⟩ : ∃ next work, t.step = (next, work) := ⟨_, _, rfl⟩
  rw [found] at legible'
  rw [found, found'] at stepped work_eq
  obtain rfl : work' = work := work_eq
  rw [found, found']
  cases work' with
  | answer more => exact joins_same stepped alike (.answered more)
  | draw leaf primitive calls => exact joins_paint stepped alike legible' leaf primitive calls
  | report fault => exact joins_report stepped (.cons (.firm rfl) alike) legible' fault
  | halt phase => exact joins_halt stepped (.cons (.firm rfl) alike) phase
  | fail failure => exact joins_same stepped alike (.raised failure)

theorem joins_pause : Joins passive (pause s tasks) (pause t tasks') := by
  have waits : (t.settings.animate && t.paced) = (s.settings.animate && s.paced) :=
    same.read (f := fun s => s.settings.animate && s.paced) fun _ _ _ => rfl
  unfold pause
  rw [waits]
  split
  · exact joins_same same.arm alike (.answered false)
  · exact joins_same same alike (.answered true)

theorem joins_receive (batch : List Command) (callback? : Option Nat) :
    Joins passive (receive s batch callback? tasks) (receive t batch callback? tasks') := by
  have clockless : (t.settings.animate && !t.settings.clocked) =
      (s.settings.animate && !s.settings.clocked) :=
    same.read (f := fun s => s.settings.animate && !s.settings.clocked) fun _ _ _ => rfl
  have accepted := same.accept batch callback?
  unfold receive
  rw [same.phase_eq, clockless]
  split
  · exact joins_same accepted alike .returned
  · split
    · exact joins_same same alike (.raised .noClock)
    · exact joins_announce accepted.beginCycle (.cons (.firm rfl) alike) _

theorem joins_cue (entries : List Value) (callback? : Option Nat) :
    Joins passive (cue s entries callback? tasks) (cue t entries callback? tasks') := by
  unfold cue
  cases commands entries with
  | error failure => exact joins_same same alike (.raised failure)
  | ok batch =>
    dsimp only
    rw [same.phase_eq, same.live_eq]
    split
    · exact joins_halt same (.cons (.firm rfl) alike) .cancelled
    · exact joins_receive same alike batch callback?

theorem joins_resume (legible : s.Legible) (timer : Timer) :
    Joins passive (resume s timer tasks) (resume t timer tasks') := by
  have generation_eq : t.generation = s.generation :=
    same.read (f := Scheduler.generation) fun _ _ _ => rfl
  unfold resume
  rw [generation_eq]
  split
  · exact joins_takeStep same (.cons (.firm rfl) alike) legible
  · exact joins_same same alike .returned

end Joining

/-- Foreign code that is not passive has the same moves in both engines, and they come to the
same. -/
theorem Matches.perform {e f : Engine} (matched : Matches passive e f)
    (legible : e.sched.Legible) (move : Move) :
    Joins passive (e.perform move) (f.perform move) := by
  obtain @⟨s, t, tasks, tasks', signal, same, alike⟩ := matched
  cases move with
  | cue entries callback? => exact joins_cue same alike entries callback?
  | stop => exact joins_same same.stop alike .returned
  | step => exact joins_takeStep same alike legible
  | fire position =>
    have timer_eq : t.timers[position]? = s.timers[position]? := by rw [same.timers_eq]
    simp only [Engine.perform, timer_eq]
    cases s.timers[position]? with
    | none => exact joins_same same alike .returned
    | some timer => exact joins_resume (same.expire position) alike { legible with } timer
  | attach event observer => exact joins_same (same.attach event observer) alike .returned
  | define name params body => exact joins_same (same.define name params body) alike .returned
  | prime => exact joins_same same.prime alike .returned
  | enqueue commands => exact joins_same (same.enqueue commands) alike .returned
  | finish => exact joins_same same (List.forall₂_drop 1 alike) .returned
  | raise failure => exact joins_same same (List.forall₂_drop 1 alike) (.raised failure)

theorem observerFault_eq (same : s.Indistinct passive t) (event : Event) (failure : Failure) :
    observerFault t event failure = observerFault s event failure := by
  cases failure with
  | fault fault => rfl
  | _ => simp only [observerFault, same.agrees.place_eq]

/-- A task that has nothing to do with passive observers goes on in the same way. -/
theorem next_of_firm {task : Task} {signal : Signal} {next : Engine} (same : s.Indistinct passive t)
    (alike : List.Forall₂ (Task.Alike passive) tasks tasks') (legible : s.Legible)
    (firm : task.isFirm passive = true) (worked : next? ⟨s, task :: tasks, signal⟩ = some next) :
    ∃ next', next? ⟨t, task :: tasks', signal⟩ = some next' ∧ Joins passive next next' := by
  cases task
  case foreign site => simp [next?] at worked
  case announcing notice rest => simp [Task.isFirm] at firm
  case reporting fault rest => simp [Task.isFirm] at firm
  all_goals
    obtain rfl := Option.some.inj worked
    refine ⟨_, rfl, ?_⟩
  case cueing batch callback? =>
    cases signal with
    | raised failure => exact joins_same same alike (.raised failure)
    | _ => exact joins_receive same alike batch callback?
  case starting =>
    cases signal with
    | raised failure => exact joins_same same alike (.raised failure)
    | _ => exact joins_takeStep same (.cons (.firm rfl) alike) legible
  case running =>
    cases signal with
    | raised failure => exact joins_halt same (.cons (.firm rfl) alike) .cancelled
    | answered more =>
      cases more with
      | true => exact joins_takeStep same (.cons (.firm rfl) alike) legible
      | false => exact joins_same same alike .returned
    | _ => exact joins_same same alike .returned
  case rethrow failure =>
    cases signal with
    | raised later => exact joins_same same alike (.raised later)
    | _ => exact joins_same same alike (.raised failure)
  case painting leaf primitive rest =>
    cases signal with
    | raised failure =>
      cases failure with
      | fault fault => exact joins_report same (.cons (.firm rfl) alike) legible fault
      | _ => exact joins_same same alike (.raised _)
    | _ => exact joins_paint same alike legible leaf primitive rest
  case pausing =>
    cases signal with
    | raised failure => exact joins_same same alike (.raised failure)
    | _ => exact joins_pause same alike
  case settling result rest =>
    cases signal with
    | raised failure => exact joins_same same alike (.raised failure)
    | _ => exact joins_settle same alike result rest
  case stepped more =>
    cases signal with
    | raised failure => exact joins_same same alike (.raised failure)
    | _ => exact joins_same same alike (.answered more)

/-- Where both engines go on by themselves they come to the same. -/
theorem Matches.next {e f e' : Engine} (matched : Matches passive e f)
    (legible : e.sched.Legible) (worked : e.next? = some e') :
    ∃ f', f.next? = some f' ∧ Joins passive e' f' := by
  obtain @⟨s, t, tasks, tasks', signal, same, alike⟩ := matched
  cases alike with
  | nil => simp [next?] at worked
  | @cons task _ tasks tasks' first alike =>
    cases first with
    | firm firm => exact next_of_firm same alike legible firm worked
    | announcing notice active =>
      obtain rfl := Option.some.inj worked
      refine ⟨_, rfl, ?_⟩
      cases signal with
      | raised failure =>
        dsimp only
        rw [observerFault_eq same]
        exact joins_report same alike legible _
      | _ => exact joins_tell same alike notice active
    | reporting fault active =>
      obtain rfl := Option.some.inj worked
      refine ⟨_, rfl, ?_⟩
      cases signal with
      | raised failure => exact joins_same (same.addReport _) alike .returned
      | _ => exact joins_tellFault same alike fault active

end Engine

end Turtle
