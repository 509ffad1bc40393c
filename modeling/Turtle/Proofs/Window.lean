import Mathlib.Data.List.Induction
import Turtle.Run.Journal

/-!
# The window

A journal is a window on all that has been recorded: it holds as many of the last entries as it is
made for.  An entry is looked up by its number, and it is found if and only if it is in the window.
-/

set_option autoImplicit false

namespace Turtle

/-- Something to be recorded. -/
structure Note (α : Type) where
  event : α
  at? : Option Location
  stack? : Option (List String)

/-- Notes as entries, numbered from zero on. -/
def Note.entries {α : Type} (notes : List (Note α)) : List (Entry α) :=
  notes.mapIdx fun index note => ⟨index, note.event, note.at?, note.stack?⟩

namespace Journal

variable {α : Type} {journal : Journal α} {entries : List (Entry α)} {notes : List (Note α)}

/-- A journal is a window on some entries, which are numbered from zero on. -/
structure Views (journal : Journal α) (entries : List (Entry α)) : Prop where
  numbered : entries.map Entry.index = List.range entries.length
  next_eq : journal.next = entries.length
  recent_eq : journal.recent.take journal.history = entries.reverse.take journal.history

theorem views_empty (history : Nat) : (empty history : Journal α).Views [] :=
  ⟨rfl, rfl, rfl⟩

theorem Views.record (views : journal.Views entries) (event : α) (at? : Option Location)
    (stack? : Option (List String)) :
    (journal.record event at? stack?).Views
      (entries ++ [⟨journal.next, event, at?, stack?⟩]) := by
  refine ⟨?_, ?_, ?_⟩
  · rw [List.map_append, views.numbered, List.length_append, List.length_singleton,
      List.range_succ, views.next_eq]
    rfl
  · rw [List.length_append, List.length_singleton, ← views.next_eq]
    rfl
  · -- What falls out of the window does not come back with a new entry.
    have shorter : ∀ (first : Entry α) (rest : List (Entry α)) (count : Nat),
        (first :: rest.take count).take count = (first :: rest).take count := by
      intro first rest count
      cases count with
      | zero => rfl
      | succ count => simp [List.take_take]
    have grown := journal.recent_take_record event at? stack?
    rw [views.recent_eq, shorter] at grown
    rw [List.reverse_append, List.reverse_singleton, List.singleton_append]
    exact grown

theorem Views.index_eq (views : journal.Views entries) {index : Nat} {entry : Entry α}
    (found : entries[index]? = some entry) : entry.index = index := by
  have same := congrArg (·[index]?) views.numbered
  simp only [List.getElem?_map, found, Option.map_some] at same
  exact (List.getElem?_eq_some_iff.mp same.symm).2.symm.trans (List.getElem_range _)

/-- The number of the first entry in the window. -/
def first (journal : Journal α) : Nat :=
  journal.next - journal.history

theorem Views.held_eq (views : journal.Views entries) :
    journal.held = entries.drop journal.first := by
  rw [held, views.recent_eq, first, views.next_eq, List.take_reverse, List.reverse_reverse]

theorem Views.mem_held_iff (views : journal.Views entries) (entry : Entry α) :
    entry ∈ journal.held ↔ entries[entry.index]? = some entry ∧ journal.first ≤ entry.index := by
  rw [views.held_eq, List.mem_iff_getElem?]
  simp only [List.getElem?_drop]
  constructor
  · rintro ⟨place, found⟩
    rw [views.index_eq found]
    exact ⟨found, Nat.le_add_right _ _⟩
  · rintro ⟨found, within⟩
    exact ⟨entry.index - journal.first, by rw [Nat.add_sub_cancel' within, found]⟩

theorem Views.find?_eq (views : journal.Views entries) (index : Nat) :
    journal.find? index = if journal.first ≤ index then entries[index]? else none := by
  unfold find? first
  simp only [Bool.and_eq_true, decide_eq_true_eq, views.next_eq]
  by_cases known : index < entries.length
  · by_cases within : entries.length - index ≤ journal.history
    · -- Counted from the newest entry, the place is in the window.
      have place : entries.length - index - 1 < journal.history := by omega
      have back : entries.length - 1 - (entries.length - index - 1) = index := by omega
      rw [if_pos ⟨known, within⟩, if_pos (by omega), ← List.getElem?_take_of_lt place,
        views.recent_eq, List.getElem?_take_of_lt place, List.getElem?_reverse (by omega), back]
    · rw [if_neg (fun both => within both.2), if_neg (by omega)]
  · rw [if_neg (fun both => known both.1), List.getElem?_eq_none (Nat.not_lt.mp known)]
    split <;> rfl

/-- What is looked up is found if and only if it is in the window. -/
theorem Views.lookup_eq_some_iff (views : journal.Views entries) (number? : Option Int)
    (entry : Entry α) : journal.lookup number? = some entry ↔
      entry ∈ journal.held ∧ number? = some (entry.index : Int) := by
  have found_iff : ∀ index : Nat, journal.find? index = some entry ↔
      entry ∈ journal.held ∧ index = entry.index := by
    intro index
    rw [views.find?_eq, views.mem_held_iff]
    split
    · rename_i within
      constructor
      · intro found
        rw [views.index_eq found]
        exact ⟨⟨found, within⟩, rfl⟩
      · rintro ⟨⟨found, -⟩, rfl⟩
        exact found
    · rename_i without
      simp only [reduceCtorEq, false_iff, not_and]
      rintro ⟨-, within⟩ rfl
      exact without within
  match number? with
  | none => simp [lookup]
  | some (.ofNat index) =>
    refine (found_iff index).trans (and_congr_right fun _ => ?_)
    exact ⟨fun same => same ▸ rfl, fun same => Int.ofNat.inj (Option.some.inj same)⟩
  | some (.negSucc index) => simp [lookup]

/-! ## Notes in a journal -/

end Journal

end Turtle
