import Mathlib.Data.List.Nodup
import Turtle.Proofs.Traffic

/-!
# Tickets

A command that is put into the queue is given a ticket, with the cycle that it is put there for and
a number of its own.  A ledger is kept of the tickets: those that were given out, those in line,
those whose commands were taken out, and those that were left when their cycle ended.  So commands
are told apart even if they are the same, and none is lost, taken twice or taken in another cycle.
-/

set_option autoImplicit false

namespace Turtle

structure Ticket where
  cycle : Nat
  number : Nat
  command : Command

structure Ledger where
  issued : List Ticket
  line : List Ticket
  /-- The tickets of commands that were taken out, each with the cycle in which it was. -/
  taken : List (Nat × Ticket)
  dropped : List Ticket

namespace Ledger

def empty : Ledger := ⟨[], [], [], []⟩

/-- Gives out tickets for commands that are put into the queue in a cycle. -/
def issue (l : Ledger) (cycle : Nat) (commands : List Command) : Ledger :=
  let tickets := (commands.zipIdx l.issued.length).map fun entry => ⟨cycle, entry.2, entry.1⟩
  { l with issued := l.issued ++ tickets, line := l.line ++ tickets }

/-- Writes down the command that was taken out, on the first ticket in line. -/
def take (l : Ledger) (cycle : Nat) (command : Command) : Ledger :=
  match l.line with
  | [] => l
  | ticket :: rest =>
    { l with line := rest, taken := l.taken ++ [(cycle, { ticket with command := command })] }

def clear (l : Ledger) : Ledger :=
  { l with line := [], dropped := l.dropped ++ l.line }

/-- The tickets that were given out for a cycle, in their order. -/
def appended (l : Ledger) (cycle : Nat) : List Ticket :=
  l.issued.filter fun ticket => ticket.cycle = cycle

/-- The tickets of the commands that were taken out in a cycle, in their order. -/
def dequeued (l : Ledger) (cycle : Nat) : List Ticket :=
  (l.taken.filter fun entry => entry.1 = cycle).map Prod.snd

def discarded (l : Ledger) (cycle : Nat) : List Ticket :=
  l.dropped.filter fun ticket => ticket.cycle = cycle

/-- The ledger agrees with the queue, and what was given out has been taken, dropped or is in
line. -/
structure Sound (l : Ledger) (s : Scheduler) : Prop where
  line_eq : l.line.map Ticket.command = s.queue.pending
  line_current : ∀ ticket ∈ l.line, ticket.cycle = s.cycle
  numbered : l.issued.map Ticket.number = List.range l.issued.length
  appended_eq : ∀ cycle, l.appended cycle =
    l.dequeued cycle ++ (l.discarded cycle ++ l.line.filter fun ticket => ticket.cycle = cycle)
  dropped_over : ∀ ticket ∈ l.dropped,
    ticket.cycle < s.cycle ∨ ticket.cycle = s.cycle ∧ s.phase ≠ .running
  cursor_eq : s.queue.cursor = l.taken.length
  issued_length : l.issued.length = l.taken.length + l.dropped.length + l.line.length

variable {l : Ledger} {s next : Scheduler}

theorem Sound.keep (sound : l.Sound s) (same : s.Alike next) : l.Sound next := by
  obtain ⟨line_eq, line_current, numbered, appended_eq, dropped_over, cursor_eq, issued_length⟩ :=
    sound
  rw [← same.queue_eq] at line_eq cursor_eq
  rw [← same.cycle_eq] at line_current dropped_over
  rw [← same.phase_eq] at dropped_over
  exact ⟨line_eq, line_current, numbered, appended_eq, dropped_over, cursor_eq, issued_length⟩

theorem Sound.line_eq_nil (sound : l.Sound s) (empty : s.queue.pending = []) : l.line = [] := by
  have line_eq := sound.line_eq
  rw [empty, List.map_eq_nil_iff] at line_eq
  exact line_eq

theorem Sound.discards_nothing (sound : l.Sound s) (running : s.phase = .running) :
    l.discarded s.cycle = [] := by
  rw [discarded, List.filter_eq_nil_iff]
  intro ticket member
  rcases sound.dropped_over ticket member with earlier | ⟨_, rests⟩
  · simp only [decide_eq_true_eq]
    omega
  · exact absurd running rests

theorem Sound.issue (sound : l.Sound s) {commands : List Command}
    (queue_eq : next.queue = s.queue.append commands)
    (line_current : ∀ ticket ∈ l.line, ticket.cycle = next.cycle)
    (dropped_over : ∀ ticket ∈ l.dropped, ticket.cycle < next.cycle) :
    (l.issue next.cycle commands).Sound next := by
  have all_new : ∀ ticket ∈ (commands.zipIdx l.issued.length).map
      (fun entry => (⟨next.cycle, entry.2, entry.1⟩ : Ticket)), ticket.cycle = next.cycle := by
    intro ticket member
    obtain ⟨entry, _, rfl⟩ := List.mem_map.mp member
    rfl
  refine ⟨?_, ?_, ?_, ?_, ?_, ?_, ?_⟩
  · rw [queue_eq, CommandQueue.append, ← sound.line_eq]
    simp [Ledger.issue, Function.comp_def]
  · intro ticket member
    rcases List.mem_append.mp member with earlier | new
    · exact line_current ticket earlier
    · exact all_new ticket new
  · have numbered := sound.numbered
    rw [List.range_eq_range'] at numbered ⊢
    simp only [Ledger.issue, List.map_append, List.map_map, Function.comp_def, List.length_append,
      List.length_map, List.length_zipIdx, numbered]
    rw [List.zipIdx_map_snd, ← List.range'_append]
    simp
  · intro cycle
    have before := sound.appended_eq cycle
    simp only [appended, dequeued, discarded, Ledger.issue, List.filter_append] at before ⊢
    rw [before]
    simp
  · intro ticket member
    exact Or.inl (dropped_over ticket member)
  · rw [queue_eq]
    exact sound.cursor_eq
  · have before := sound.issued_length
    simp only [Ledger.issue, List.length_append]
    omega

theorem Sound.take (sound : l.Sound s) {command : Command} (running : s.phase = .running)
    (phase_eq : next.phase = s.phase) (cycle_eq : next.cycle = s.cycle)
    (first : s.queue.next? = some (command, next.queue)) :
    (l.take s.cycle command).Sound next := by
  have nothing := sound.discards_nothing running
  obtain ⟨issued, line, taken, dropped⟩ := l
  obtain ⟨line_eq, line_current, numbered, appended_eq, dropped_over, cursor_eq, issued_length⟩ :=
    sound
  -- The first in line is the command that comes out.
  obtain ⟨rest, pending_eq, queue_eq⟩ : ∃ rest, s.queue.pending = command :: rest ∧
      next.queue = ⟨rest, s.queue.cursor + 1⟩ := by
    unfold CommandQueue.next? at first
    split at first
    · simp at first
    · rename_i head rest pending_eq
      simp only [Option.some.injEq, Prod.mk.injEq] at first
      exact ⟨rest, by rw [pending_eq, first.1], first.2.symm⟩
  rw [pending_eq] at line_eq
  cases line with
  | nil => simp at line_eq
  | cons ticket line =>
    obtain ⟨cycle, number, known⟩ := ticket
    simp only [List.map_cons, List.cons.injEq] at line_eq
    obtain ⟨rfl, line_eq⟩ := line_eq
    have own : cycle = s.cycle := line_current _ (List.mem_cons_self ..)
    refine ⟨?_, ?_, numbered, ?_, ?_, ?_, ?_⟩
    · rw [queue_eq]
      exact line_eq
    · intro ticket member
      rw [cycle_eq]
      exact line_current ticket (List.mem_cons_of_mem _ member)
    · intro other
      have before := appended_eq other
      simp only [appended, dequeued, discarded, Ledger.take, List.filter_append,
        List.map_append] at before nothing ⊢
      by_cases here : s.cycle = other
      · subst here
        rw [before, nothing]
        simp [own]
      · rw [before]
        simp [own, here]
    · rw [phase_eq, cycle_eq]
      exact dropped_over
    · simp only [queue_eq, Ledger.take, List.length_append, List.length_singleton]
      exact congrArg (· + 1) cursor_eq
    · simp only [Ledger.take, List.length_append, List.length_cons] at issued_length ⊢
      simp only [List.length_nil]
      omega

theorem Sound.clear (sound : l.Sound s) (rests : next.phase ≠ .running)
    (cycle_eq : next.cycle = s.cycle) (queue_eq : next.queue = s.queue.clear) :
    l.clear.Sound next := by
  refine ⟨?_, ?_, sound.numbered, ?_, ?_, ?_, ?_⟩
  · rw [queue_eq]
    rfl
  · intro ticket member
    exact absurd member List.not_mem_nil
  · intro cycle
    have before := sound.appended_eq cycle
    simp only [appended, dequeued, discarded, Ledger.clear, List.filter_append] at before ⊢
    rw [before]
    simp
  · intro ticket member
    rw [cycle_eq]
    rcases List.mem_append.mp member with earlier | left
    · rcases sound.dropped_over ticket earlier with less | ⟨same, _⟩
      · exact Or.inl less
      · exact Or.inr ⟨same, rests⟩
    · exact Or.inr ⟨sound.line_current ticket left, rests⟩
  · rw [queue_eq]
    exact sound.cursor_eq
  · have before := sound.issued_length
    simp only [Ledger.clear, List.length_append, List.length_nil]
    omega

theorem Sound.dequeued_prefix (sound : l.Sound s) (cycle : Nat) :
    l.dequeued cycle <+: l.appended cycle :=
  ⟨_, (sound.appended_eq cycle).symm⟩

theorem Sound.appended_nodup (sound : l.Sound s) (cycle : Nat) : (l.appended cycle).Nodup := by
  have numbers : (l.issued.map Ticket.number).Nodup := by
    rw [sound.numbered]
    exact List.nodup_range
  exact (List.Nodup.of_map Ticket.number numbers).filter _

theorem Sound.cycle_of_taken (sound : l.Sound s) {entry : Nat × Ticket}
    (taken : entry ∈ l.taken) : entry.2.cycle = entry.1 := by
  have dequeued : entry.2 ∈ l.dequeued entry.1 := by
    refine List.mem_map.mpr ⟨entry, List.mem_filter.mpr ⟨taken, ?_⟩, rfl⟩
    simp
  have appended := (sound.dequeued_prefix entry.1).subset dequeued
  simpa using (List.mem_filter.mp appended).2

theorem Sound.issued_size (sound : l.Sound s) :
    l.issued.length = l.taken.length + l.dropped.length + s.queue.size := by
  rw [CommandQueue.size, ← sound.line_eq, List.length_map]
  exact sound.issued_length

end Ledger

/-- What a moment has to enter: a command that is taken out, an end at which the line is cleared,
and a batch of which the definitions do not wait. -/
def Moment.entered (m : Moment) (l : Ledger) : Ledger :=
  let taken :=
    match m.before.taken? m.turn with
    | none => l
    | some command => l.take m.before.sched.cycle command
  let cleared :=
    match m.ended? with
    | none => taken
    | some _ => taken.clear
  match m.before.batch? m.turn with
  | none => cleared
  | some batch =>
    cleared.issue m.after.sched.cycle (batch.filter fun command => !command.isDefinition)

namespace Plays

open Engine

def ledger : List Moment → Ledger
  | [] => .empty
  | m :: past => m.entered (ledger past)

variable {rules : Rules} {settings : Settings} {journal : Journal StepEvent}
  {registry : Registry} {past : List Moment} {now e next : Engine} {turn : Turn}

/-- Nothing is dropped when a cycle ends as exhausted. -/
def Spent (past : List Moment) : Prop :=
  ∀ result ∈ results past, result.phase = .exhausted → (ledger past).discarded result.cycle = []

theorem Spent.keep {m : Moment} (spent : Spent past) (unended : m.ended? = none)
    (same : (ledger (m :: past)).dropped = (ledger past).dropped) : Spent (m :: past) := by
  intro result member exhausted
  rw [results_cons_none unended] at member
  rw [Ledger.discarded, same]
  exact spent result member exhausted

theorem unlined (played : Plays rules (.atRest (.fresh settings journal registry)) past now)
    (sound : (ledger past).Sound now.sched) {result : RunResult} (ended : result ∈ results past) :
    ((ledger past).line.filter fun ticket => ticket.cycle = result.cycle) = [] := by
  rw [List.filter_eq_nil_iff]
  intro ticket member
  have current := sound.line_current ticket member
  rcases played.books.2.ended_over result ended with earlier | ⟨_, stopped⟩
  · have less : result.cycle < now.sched.cycle := earlier
    simp only [decide_eq_true_eq]
    omega
  · rw [sound.line_eq_nil (played.tidy.waiting_eq (of_decide_eq_false stopped))] at member
    exact absurd member List.not_mem_nil

/-- The line is dropped when a cycle ends, but as exhausted that cycle has no line left, and no
earlier cycle has anything in line. -/
theorem Spent.clear {m : Moment} {result : RunResult}
    (played : Plays rules (.atRest (.fresh settings journal registry)) past e)
    (sound : (ledger past).Sound e.sched) (spent : Spent past) (running : e.sched.phase = .running)
    (ended : m.ended? = some result) (same : result.cycle = e.sched.cycle)
    (empty : result.phase = .exhausted → e.sched.queue.pending = [])
    (cleared : ledger (m :: past) = (ledger past).clear) : Spent (m :: past) := by
  intro other member exhausted
  rw [results_cons_some ended] at member
  rw [cleared, Ledger.discarded, Ledger.clear, List.filter_append, List.append_eq_nil_iff]
  rcases List.mem_cons.mp member with rfl | earlier
  · rw [same, sound.line_eq_nil (empty exhausted)]
    exact ⟨sound.discards_nothing running, rfl⟩
  · exact ⟨spent other earlier exhausted, played.unlined sound earlier⟩

theorem take_dropped (l : Ledger) (cycle : Nat) (command : Command) :
    (l.take cycle command).dropped = l.dropped := by
  unfold Ledger.take
  split <;> rfl

theorem ledger_issued {batch : List Command} (sound : (ledger past).Sound e.sched)
    (spent : Spent past) (asked : e.batch? turn = some batch) (untaken : e.taken? turn = none)
    (unended : (Moment.mk e turn next).ended? = none)
    (queue_eq : next.sched.queue =
      e.sched.queue.append (batch.filter fun command => !command.isDefinition))
    (line_current : ∀ ticket ∈ (ledger past).line, ticket.cycle = next.sched.cycle)
    (dropped_over : ∀ ticket ∈ (ledger past).dropped, ticket.cycle < next.sched.cycle) :
    (ledger (⟨e, turn, next⟩ :: past)).Sound next.sched ∧ Spent (⟨e, turn, next⟩ :: past) := by
  have entered : ledger (⟨e, turn, next⟩ :: past) = (ledger past).issue next.sched.cycle
      (batch.filter fun command => !command.isDefinition) := by
    simp only [ledger, Moment.entered, asked, untaken, unended]
  refine ⟨?_, spent.keep unended (by rw [entered]; rfl)⟩
  rw [entered]
  exact sound.issue queue_eq line_current dropped_over

theorem ledger_entered
    (played : Plays rules (.atRest (.fresh settings journal registry)) past e)
    (traffic : Traffic e turn next) (sound : (ledger past).Sound e.sched) (spent : Spent past) :
    (ledger (⟨e, turn, next⟩ :: past)).Sound next.sched ∧ Spent (⟨e, turn, next⟩ :: past) := by
  cases traffic with
  | keep unasked untaken same =>
    have unended := unended_of_phase turn same.phase_eq
    have entered : ledger (⟨e, turn, next⟩ :: past) = ledger past := by
      simp only [ledger, Moment.entered, unasked, untaken, unended]
    refine ⟨?_, spent.keep unended (by rw [entered])⟩
    rw [entered]
    exact sound.keep same
  | take command unasked taken running phase_eq cycle_eq first =>
    have unended := unended_of_phase turn phase_eq
    have entered : ledger (⟨e, turn, next⟩ :: past) =
        (ledger past).take e.sched.cycle command := by
      simp only [ledger, Moment.entered, unasked, taken, unended]
    refine ⟨?_, spent.keep unended (by rw [entered, take_dropped])⟩
    rw [entered]
    exact sound.take running phase_eq cycle_eq first
  | join batch asked untaken running phase_eq cycle_eq queue_eq =>
    apply ledger_issued sound spent asked untaken (unended_of_phase turn phase_eq) queue_eq
    · rw [cycle_eq]
      exact sound.line_current
    · intro ticket member
      rw [cycle_eq]
      rcases sound.dropped_over ticket member with earlier | ⟨_, rests⟩
      · exact earlier
      · exact absurd running rests
  | begin batch asked untaken rests running cycle_eq queue_eq =>
    apply ledger_issued sound spent asked untaken (unended_of_rest turn next rests) queue_eq
    -- Nothing is in line while no cycle is running, so all tickets in line will be new ones.
    · intro ticket member
      rw [sound.line_eq_nil (played.tidy.waiting_eq rests)] at member
      exact absurd member List.not_mem_nil
    · intro ticket member
      rcases sound.dropped_over ticket member with earlier | ⟨same, _⟩
      · omega
      · omega
  | close unasked untaken running how empty cycle_eq queue_eq =>
    have rests := rests_of_ended how
    have ended := ended_of_rest turn running rests
    have entered : ledger (⟨e, turn, next⟩ :: past) = (ledger past).clear := by
      simp only [ledger, Moment.entered, unasked, untaken, ended]
    constructor
    · rw [entered]
      exact sound.clear rests cycle_eq queue_eq
    · exact spent.clear played sound running ended cycle_eq empty entered

theorem ledger_sound (played : Plays rules (.atRest (.fresh settings journal registry)) past now) :
    (ledger past).Sound now.sched ∧ Spent past := by
  refine played.by_acts (fun past now => (ledger past).Sound now.sched ∧ Spent past) ?_ ?_
  · refine ⟨⟨rfl, ?_, rfl, fun _ => rfl, ?_, rfl, rfl⟩, ?_⟩
    · intro ticket member
      exact absurd member List.not_mem_nil
    · intro ticket member
      exact absurd member List.not_mem_nil
    · intro result member
      exact absurd member List.not_mem_nil
  · intro past e turn next earlier _ acts before
    exact ledger_entered earlier acts.traffic before.1 before.2

/-- The commands that are taken out of the queue in a cycle are the first of those that were put
there for it, in the order of the cues and of their batches, each of them once; they are all of
them if the cycle has ended as exhausted.  The queue holds what was neither taken out nor dropped
at the end of a cycle, and its cursor counts what was taken out. -/
theorem queue_conserved
    (played : Plays rules (.atRest (.fresh settings journal registry)) past now) :
    (∀ cycle, (ledger past).dequeued cycle <+: (ledger past).appended cycle ∧
        ((ledger past).dequeued cycle).Nodup) ∧
      (∀ entry ∈ (ledger past).taken, entry.2.cycle = entry.1) ∧
      (∀ result ∈ results past, result.phase = .exhausted →
        (ledger past).dequeued result.cycle = (ledger past).appended result.cycle) ∧
      (ledger past).issued.map Ticket.number = List.range (ledger past).issued.length ∧
      (ledger past).line.map Ticket.command = now.sched.queue.pending ∧
      now.sched.queue.cursor = (ledger past).taken.length ∧
      (ledger past).issued.length =
        (ledger past).taken.length + (ledger past).dropped.length + now.sched.queue.size := by
  obtain ⟨sound, spent⟩ := played.ledger_sound
  refine ⟨?_, ?_, ?_, sound.numbered, sound.line_eq, sound.cursor_eq,
    sound.issued_size⟩
  · intro cycle
    have first := sound.dequeued_prefix cycle
    exact ⟨first, (sound.appended_nodup cycle).sublist first.sublist⟩
  · intro entry taken
    exact sound.cycle_of_taken taken
  · intro result ended exhausted
    have whole := sound.appended_eq result.cycle
    rw [spent result ended exhausted, played.unlined sound ended, List.append_nil,
      List.append_nil] at whole
    exact whole.symm

/-- The pen is to be lifted twice, but the cycle is stopped in between; and someone who watches its
end cues another batch then, which is exhausted. -/
theorem lifting_conserved :
    ∃ past now, Plays .free (.atRest plainStart) past now ∧
      ((ledger past).appended 1).length = 2 ∧ ((ledger past).dequeued 1).length = 1 ∧
      (ledger past).dequeued 1 <+: (ledger past).appended 1 ∧
      ((ledger past).appended 2).length = 1 ∧
      (ledger past).dequeued 2 = (ledger past).appended 2 ∧
      (∀ entry ∈ (ledger past).taken, entry.2.cycle = entry.1) ∧ now.sched.queue.cursor = 2 ∧
      now.sched.queue.cursor = (ledger past).taken.length ∧ (ledger past).dropped.length = 1 ∧
      (ledger past).issued.length =
        (ledger past).taken.length + (ledger past).dropped.length + now.sched.queue.size := by
  obtain ⟨past, now, played, facts⟩ := exists_of_play? .free (.atRest plainStart)
    [.move (.attach .programEnd 0),
      .move (.cue (List.replicate 2 (.command (.leaf "pu" [] none))) none), .work, .work,
      .move .stop, .move .finish, .work, .work, .work,
      .move (.cue [.command (.leaf "pd" [] none)] none), .work, .work, .move .finish, .work,
      .work, .work]
    (fun past now => decide ((⟨.exhausted, 2, 3⟩ : RunResult) ∈ results past ∧
      ((ledger past).appended 1).length = 2 ∧ ((ledger past).dequeued 1).length = 1 ∧
      ((ledger past).appended 2).length = 1 ∧ now.sched.queue.cursor = 2 ∧
      (ledger past).dropped.length = 1))
    (by decide)
  obtain ⟨ended, two, one, again, cursor, dropped⟩ := of_decide_eq_true facts
  obtain ⟨first, own, whole, _, _, cursor_eq, count⟩ := queue_conserved played
  exact ⟨past, now, played, two, one, (first 1).1, again, whole _ ended rfl, own, cursor,
    cursor_eq, dropped, count⟩

end Plays

end Turtle
