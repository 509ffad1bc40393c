import Turtle.Proofs.Costs
import Turtle.Proofs.Entries

/-!
# The accounts of a cycle

What is entered into the journal in a cycle is accounted for in full: one entry for each of its
steps and for each failure of an observer, and one if it is cancelled, as long as the stack can be
recorded.  The errors among the entries are the faults of the cycle, each of them followed by the
failure of an observer that was to be told of it, if there was one.
-/

set_option autoImplicit false

namespace Turtle

/-! ## Accounts of errors -/

/-- An error that has been entered: the fault it is reported as, and how an observer of that fault
has failed. -/
structure Account where
  entry : Entry StepEvent
  fault : Fault
  failure? : Option Failure

namespace Account

/-- What is reported on account of an error: its fault, and directly after it that an observer of
the fault has failed. -/
def faults (account : Account) : List Fault :=
  account.fault :: (account.failure?.map (Engine.secondaryFault account.fault)).toList

def secondary? (account : Account) : Option Occurrence :=
  account.failure?.map (Occurrence.failed (.onError account.fault))

end Account

/-- The errors among some entries, the faults that are reported and the failures of observers of
faults are accounted for, one error after another. -/
structure Accounted (entries : List (Entry StepEvent)) (failures : List Occurrence)
    (faults : List Fault) (accounts : List Account) : Prop where
  answers : ∀ account ∈ accounts, account.fault.Answers account.entry
  errors_eq : entries.filter (fun entry => entry.event.isError) = accounts.map Account.entry
  faults_eq : faults = accounts.flatMap Account.faults
  failures_eq : failures.filter Occurrence.isSecondary = accounts.filterMap Account.secondary?

/-- The last error has been reported, and no observer of it has failed yet. -/
def Pending (fault : Fault) (accounts : List Account) : Prop :=
  ∃ earlier entry, accounts = earlier ++ [⟨entry, fault, none⟩]

namespace Accounted

variable {entries entries' : List (Entry StepEvent)} {failures failures' : List Occurrence}
  {faults faults' : List Fault} {accounts accounts' : List Account}

theorem append (first : Accounted entries failures faults accounts)
    (second : Accounted entries' failures' faults' accounts') :
    Accounted (entries ++ entries') (failures ++ failures') (faults ++ faults')
      (accounts ++ accounts') where
  answers := List.forall_mem_append.mpr ⟨first.answers, second.answers⟩
  errors_eq := by
    rw [List.filter_append, first.errors_eq, second.errors_eq, List.map_append]
  faults_eq := by rw [first.faults_eq, second.faults_eq, List.flatMap_append]
  failures_eq := by
    rw [List.filter_append, first.failures_eq, second.failures_eq, List.filterMap_append]

theorem filter_of_primary (primary : ∀ o ∈ failures, o.isSecondary = false) :
    failures.filter Occurrence.isSecondary = [] := by
  simpa using primary

/-- Nothing has to be accounted for. -/
theorem nothing (unfailing : ∀ entry ∈ entries, entry.event.isError = false)
    (primary : ∀ o ∈ failures, o.isSecondary = false) : Accounted entries failures [] [] where
  answers := by simp
  errors_eq := by simpa using unfailing
  faults_eq := rfl
  failures_eq := filter_of_primary primary

/-- An error is reported. -/
theorem report {entry : Entry StepEvent} {fault : Fault} (answers : fault.Answers entry)
    (primary : ∀ o ∈ failures, o.isSecondary = false) :
    Accounted [entry] failures [fault] [⟨entry, fault, none⟩] where
  answers := List.forall_mem_singleton.mpr answers
  errors_eq := by
    rw [List.filter_singleton, answers.event_eq]
    rfl
  faults_eq := rfl
  failures_eq := filter_of_primary primary

/-- An observer of the last error fails. -/
theorem giveUp {fault : Fault} (accounted : Accounted entries failures faults accounts)
    (pending : Pending fault accounts) (failure : Failure) :
    ∃ accounts', Accounted entries (failures ++ [.failed (.onError fault) failure])
      (faults ++ [Engine.secondaryFault fault failure]) accounts' := by
  obtain ⟨earlier, entry, rfl⟩ := pending
  obtain ⟨answers, errors_eq, faults_eq, failures_eq⟩ := accounted
  refine ⟨earlier ++ [⟨entry, fault, some failure⟩], ?_, ?_, ?_, ?_⟩
  · rw [List.forall_mem_append, List.forall_mem_singleton] at answers ⊢
    exact answers
  · rw [errors_eq, List.map_append, List.map_append]
    rfl
  · rw [faults_eq, List.flatMap_append, List.flatMap_append, List.append_assoc]
    rfl
  · rw [List.filter_append, failures_eq, List.filterMap_append, List.filterMap_append,
      List.append_assoc]
    rfl

end Accounted

/-! ## What a cycle leaves -/

/-- The entry that is made at a moment. -/
def Moment.logged? (m : Moment) : Option (Entry StepEvent) :=
  m.before.sched.logged? m.after.sched

namespace Plays

/-- What is read off the moments of a cycle, in their order. -/
def during {α : Type} (read? : Moment → Option α) (cycle : Nat) : List Moment → List α
  | [] => []
  | m :: past =>
    during read? cycle past ++ if m.before.sched.cycle = cycle then (read? m).toList else []

/-- The entries that are made in a cycle: nothing is entered when it begins. -/
def entriesOf (cycle : Nat) (past : List Moment) : List (Entry StepEvent) :=
  during Moment.logged? cycle past

/-- The failures of observers that are heard of in a cycle. -/
def failuresOf (cycle : Nat) (past : List Moment) : List Occurrence :=
  during Moment.failed? cycle past

/-- How often someone has failed who was told of the start or the end of a cycle, or of a
primitive. -/
def complaints (cycle : Nat) (past : List Moment) : Nat :=
  (failuresOf cycle past).countP fun o => !o.isSecondary

/-- Whatever has been done in a cycle, the stack could be recorded after it. -/
def RecordableIn (cycle : Nat) (past : List Moment) : Prop :=
  ∀ m ∈ past, m.before.sched.cycle = cycle → m.after.sched.Recordable

section During

variable {α : Type} {read? : Moment → Option α} {cycle : Nat} {m : Moment} {past : List Moment}

theorem during_cons_of_other (other : m.before.sched.cycle ≠ cycle) :
    during read? cycle (m :: past) = during read? cycle past := by
  rw [during, if_neg other, List.append_nil]

theorem during_cons_of_none (none : read? m = none) :
    during read? cycle (m :: past) = during read? cycle past := by
  rw [during, none, Option.toList_none, ite_self, List.append_nil]

theorem during_of_later {rules : Rules} {s : Scheduler} {now : Engine}
    (played : Plays rules (.atRest s) past now) (later : now.sched.cycle < cycle) :
    during read? cycle past = [] := by
  induction played with
  | start => rfl
  | turn _ taken ih =>
    have before := Nat.lt_of_le_of_lt (Engine.turn?_cycle_le taken) later
    rw [during_cons_of_other (Nat.ne_of_lt before)]
    exact ih before

theorem recordableIn_cons_of_current (same : m.before.sched.cycle = cycle) :
    RecordableIn cycle (m :: past) ↔ RecordableIn cycle past ∧ m.after.sched.Recordable := by
  rw [RecordableIn, List.forall_mem_cons, and_comm]
  exact and_congr Iff.rfl ⟨fun current => current same, fun recordable _ => recordable⟩

theorem recordableIn_cons_of_other (other : m.before.sched.cycle ≠ cycle) :
    RecordableIn cycle (m :: past) ↔ RecordableIn cycle past := by
  rw [RecordableIn, List.forall_mem_cons]
  exact and_iff_right fun same => absurd same other

theorem recordableIn_of_later {rules : Rules} {s : Scheduler} {now : Engine}
    (played : Plays rules (.atRest s) past now) (later : now.sched.cycle < cycle) :
    RecordableIn cycle past := by
  induction played with
  | start => exact fun _ member => absurd member List.not_mem_nil
  | turn _ taken ih =>
    have before := Nat.lt_of_le_of_lt (Engine.turn?_cycle_le taken) later
    exact (recordableIn_cons_of_other (Nat.ne_of_lt before)).mpr (ih before)

theorem complaints_cons_of_none (none : m.failed? = none) :
    complaints cycle (m :: past) = complaints cycle past := by
  rw [complaints, failuresOf, during_cons_of_none none]
  rfl

theorem complaints_cons_of_other (other : m.before.sched.cycle ≠ cycle) :
    complaints cycle (m :: past) = complaints cycle past := by
  rw [complaints, failuresOf, during_cons_of_other other]
  rfl

end During

end Plays

/-! ## What a turn adds to the accounts -/

namespace Plays

/-- Nothing has happened in a cycle that comes later. -/
def Unopened (past : List Moment) (e : Engine) : Prop :=
  ∀ cycle, e.sched.cycle < cycle →
    entriesOf cycle past = [] ∧ failuresOf cycle past = [] ∧ RecordableIn cycle past

end Plays

namespace Moment.Incurs

open Plays

variable {m : Moment} {past : List Moment} {cycle : Nat}

theorem tame (incurs : m.Incurs) : m.after.Tame := by
  cases incurs with
  | charges _ charged => exact charged.tame
  | keeps _ _ tame => exact tame
  | begins _ _ _ begun => exact begun.calm.tame
  | givesUp _ _ _ _ _ calm => exact calm.tame

theorem logged?_of_begins (begun : Engine.Begins m.before.sched m.after) : m.logged? = none :=
  Scheduler.logged?_of_same begun.journal_eq

theorem begun_of_ne (incurs : m.Incurs)
    (moved : m.after.sched.cycle ≠ m.before.sched.cycle) :
    m.failed? = none ∧ Engine.Begins m.before.sched m.after := by
  cases incurs with
  | charges _ charged => exact absurd charged.cycle_eq moved
  | keeps _ _ _ same => exact absurd same.cycle_eq moved
  | begins unfailed _ _ begun => exact ⟨unfailed, begun⟩
  | givesUp _ _ _ _ _ _ _ same => exact absurd same.cycle_eq moved

/-- A turn adds nothing to a cycle that is over after it. -/
theorem leaves (incurs : m.Incurs) (other : m.after.sched.cycle ≠ cycle) :
    entriesOf cycle (m :: past) = entriesOf cycle past ∧
      complaints cycle (m :: past) = complaints cycle past ∧
        (RecordableIn cycle (m :: past) ↔ RecordableIn cycle past) := by
  by_cases same : m.before.sched.cycle = cycle
  · obtain ⟨unfailed, begun⟩ := incurs.begun_of_ne (same ▸ other)
    refine ⟨during_cons_of_none (logged?_of_begins begun), complaints_cons_of_none unfailed, ?_⟩
    rw [recordableIn_cons_of_current same]
    exact and_iff_left begun.recordable
  · exact ⟨during_cons_of_other same, complaints_cons_of_other same,
      recordableIn_cons_of_other same⟩

end Moment.Incurs

namespace Plays

variable {rules : Rules} {settings : Settings} {journal : Journal StepEvent} {registry : Registry}
  {past : List Moment} {now : Engine}

theorem unopened {s : Scheduler} (played : Plays rules (.atRest s) past now) : Unopened past now :=
  fun _ later =>
    ⟨during_of_later played later, during_of_later played later, recordableIn_of_later played later⟩

theorem tame (whole : registry.isWhole = true)
    (played : Plays .tame (.atRest (.fresh settings journal registry)) past now) : now.Tame := by
  refine played.by_acts (fun _ now => now.Tame) ?_ fun past e turn next played shaped acts tame =>
    (acts.incurs shaped played.tidy tame).tame
  have fresh : (Scheduler.fresh settings journal registry).Whole :=
    ⟨⟨fun _ member => absurd member List.not_mem_nil, rfl, whole⟩,
      fun _ member => absurd member List.not_mem_nil⟩
  exact .steady .returned fresh (.cons rfl fun _ member => absurd member List.not_mem_nil)

end Plays

end Turtle
