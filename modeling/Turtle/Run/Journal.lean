import Turtle.Fault

/-!
# The journal

A numbered record of the steps of a run.  Numbers go on for the life of the journal, but only the
most recent entries are held: as many as the journal is made for.

Entries are kept newest first.  Older ones are dropped only when the record has grown by as many
as are held, so that dropping costs next to nothing; they are out of sight before.
-/

set_option autoImplicit false

namespace Turtle

/-- An entry: its number, what happened, where, and the stack at the time in short, if stacks are
recorded. -/
structure Entry (α : Type) where
  index : Nat
  event : α
  at? : Option Location
  stack? : Option (List String)
deriving Repr

/-- The identifier of the state after an entry: its number with six digits at least. -/
def Entry.stateId {α : Type} (entry : Entry α) : String :=
  let digits := toString entry.index
  "s_" ++ String.ofList (List.replicate (6 - digits.length) '0') ++ digits

def Entry.statement? {α : Type} (entry : Entry α) : Option String :=
  entry.at?.map Location.statement

/-- A journal that holds the last `history` of its entries. -/
structure Journal (α : Type) where
  history : Nat
  next : Nat
  /-- The newest entries, newest first, and perhaps some that are no longer held. -/
  recent : List (Entry α)

namespace Journal

variable {α : Type}

def empty (history : Nat) : Journal α := ⟨history, 0, []⟩

/-- No journal is made for as many entries as this. -/
def bound : Nat := Nat.pow 2 63

/-- A journal without entries that can hold one at least. -/
def start (history : Int) : Except Failure (Journal α) :=
  if history < 1 then .error .emptyHistory
  else if (bound : Int) ≤ history then .error .excessiveHistory
  else .ok (empty history.toNat)

def record (journal : Journal α) (event : α) (at? : Option Location)
    (stack? : Option (List String)) : Journal α :=
  let kept :=
    if journal.next % journal.history = 0 then journal.recent.take journal.history
    else journal.recent
  { journal with
    next := journal.next + 1
    recent := ⟨journal.next, event, at?, stack?⟩ :: kept }

def held (journal : Journal α) : List (Entry α) :=
  (journal.recent.take journal.history).reverse

def last? (journal : Journal α) : Option (Entry α) :=
  journal.recent.head?

def find? (journal : Journal α) (index : Nat) : Option (Entry α) :=
  if index < journal.next && journal.next - index ≤ journal.history then
    journal.recent[journal.next - index - 1]?
  else none

/-- The entry with a number that is given as any whole number, or not at all.  There are no negative
numbers. -/
def lookup (journal : Journal α) : Option Int → Option (Entry α)
  | some (.ofNat index) => journal.find? index
  | _ => none

theorem recent_take_record (journal : Journal α) (event : α) (at? : Option Location)
    (stack? : Option (List String)) :
    (journal.record event at? stack?).recent.take journal.history =
      (⟨journal.next, event, at?, stack?⟩ :: journal.recent.take journal.history).take
        journal.history := by
  simp only [record]
  split
  · rfl
  · cases h : journal.history with
    | zero => simp
    | succ n => simp [List.take_succ_cons, List.take_take]

/-- A new entry pushes the oldest one out when the journal is full. -/
theorem held_record (journal : Journal α) (event : α) (at? : Option Location)
    (stack? : Option (List String)) :
    (journal.record event at? stack?).held =
      ((⟨journal.next, event, at?, stack?⟩ :: journal.held.reverse).take
        journal.history).reverse := by
  have same := journal.recent_take_record event at? stack?
  simp only [held, List.reverse_reverse]
  rw [show (journal.record event at? stack?).history = journal.history from rfl, same]

end Journal

end Turtle
