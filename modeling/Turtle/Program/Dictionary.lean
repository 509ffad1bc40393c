import Turtle.Fault
import Turtle.Number.Binary64
import Turtle.Program.Value

/-!
# Dictionaries

A dictionary gives each of its keys a value.  A key that is given again keeps its place, and the
later value counts.  Numbers of the same size are the same key, whatever their kind; a truth value
is the number zero or one.  What has parts that can be exchanged, such as a list, is no key.
-/

set_option autoImplicit false

namespace Turtle.Value

/-- The whole number that a value is as a key. -/
def whole? : Value → Option Int
  | whole n => some n
  | truth b => some (if b then 1 else 0)
  | _ => none

/-- Two values are numbers of the same size.  An undefined number is not even the same as itself. -/
def sameNumber (first second : Value) : Bool :=
  match first.whole?, second.whole?, first, second with
  | some m, some n, _, _ => m == n
  | some m, none, _, real y => Number.equalsWhole y m
  | none, some n, real x, _ => Number.equalsWhole x n
  | none, none, real x, real y => x == y
  | _, _, _, _ => false

mutual

/-- Two values are the same key. -/
def sameKey : Value → Value → Bool
  | text s, text t => s == t
  | absent, absent => true
  | tuple items, tuple others => sameKeys items others
  | first, second => sameNumber first second

def sameKeys : List Value → List Value → Bool
  | [], [] => true
  | first :: rest, second :: others => sameKey first second && sameKeys rest others
  | _, _ => false

end

def commandKind? : Command → Option String
  | .leaf _ _ _ => some "Leaf"
  | .loop _ _ _ => some "Repeat"
  | .define _ _ _ _ => some "ProcedureDef"
  | .stray _ => none

mutual

/-- The kind of a value that is no key, or of the first of its items that is none. -/
def unkeyable? : Value → Option String
  | list _ => some "list"
  | pairs _ => some "dict"
  | command c => commandKind? c
  | tuple items => firstUnkeyable? items
  | _ => none

def firstUnkeyable? : List Value → Option String
  | [] => none
  | value :: rest =>
    match unkeyable? value with
    | some kind => some kind
    | none => firstUnkeyable? rest

end

def putEntry (key value : Value) : List (Value × Value) → List (Value × Value)
  | [] => [(key, value)]
  | (earlier, old) :: rest =>
    if sameKey key earlier then (earlier, value) :: rest
    else (earlier, old) :: putEntry key value rest

theorem putEntry_of_new (key value : Value) {entries : List (Value × Value)}
    (new : ∀ entry ∈ entries, sameKey key entry.1 = false) :
    putEntry key value entries = entries ++ [(key, value)] := by
  induction entries with
  | nil => rfl
  | cons entry rest ih =>
    have other := new entry List.mem_cons_self
    have others := ih fun later member => new later (List.mem_cons_of_mem entry member)
    simp [putEntry, other, others]

def putEntries : List (Value × Value) → List (Value × Value) → Except Failure (List (Value × Value))
  | entries, [] => .ok entries
  | entries, (key, value) :: rest =>
    match unkeyable? key with
    | some kind => .error (.unkeyable kind)
    | none => putEntries (putEntry key value entries) rest

def dictionary (entries : List (Value × Value)) : Except Failure Value :=
  (putEntries [] entries).map pairs

end Turtle.Value
