import Turtle.Fault
import Turtle.Text.Lowercase

/-!
# Procedures by name

A registry holds the procedures that have been defined, at most one for each name.  The case of a
name does not matter.
-/

set_option autoImplicit false

namespace Turtle

/-- A procedure: its name in lower case, its parameters and its body. -/
structure Procedure where
  name : String
  params : List String
  body : List Command
deriving Repr

/-- The defined procedures, in the order in which their names were first defined. -/
structure Registry where
  procedures : List Procedure
deriving Repr

namespace Registry

/-- The registry without procedures. -/
def empty : Registry := ⟨[]⟩

/-- Puts a procedure in the place of the one with its name, or at the end. -/
def put (procedure : Procedure) : List Procedure → List Procedure
  | [] => [procedure]
  | other :: rest =>
    if other.name = procedure.name then procedure :: rest else other :: put procedure rest

/-- The procedure that a definition makes. -/
def procedureOf (name : String) (params : List String) (body : List Command) : Procedure :=
  ⟨Text.lower name, params, body⟩

/-- Defines a procedure; an earlier one of the same name is forgotten. -/
def define (registry : Registry) (name : String) (params : List String) (body : List Command) :
    Registry :=
  ⟨put (procedureOf name params body) registry.procedures⟩

/-- The procedure of a name. -/
def get? (registry : Registry) (name : String) : Option Procedure :=
  registry.procedures.find? fun procedure => procedure.name = Text.lower name

theorem find?_put_self (procedure : Procedure) (procedures : List Procedure) :
    (put procedure procedures).find? (fun other => other.name = procedure.name) =
      some procedure := by
  induction procedures with
  | nil => simp [put]
  | cons other rest ih =>
    rw [put]
    split
    · simp
    · rename_i different
      rw [List.find?_cons_of_neg (by simpa using different), ih]

theorem find?_put_of_ne (procedure : Procedure) {name : String}
    (different : procedure.name ≠ name) (procedures : List Procedure) :
    (put procedure procedures).find? (fun other => other.name = name) =
      procedures.find? fun other => other.name = name := by
  induction procedures with
  | nil => simp [put, different]
  | cons other rest ih =>
    rw [put]
    split
    · rename_i same
      have otherDifferent : other.name ≠ name := same ▸ different
      rw [List.find?_cons_of_neg (by simpa using different),
        List.find?_cons_of_neg (by simpa using otherDifferent)]
    · rw [List.find?_cons, List.find?_cons, ih]

/-- A definition can be found under its name, in whatever case. -/
theorem get?_define_self (registry : Registry) {name other : String}
    (same : Text.lower other = Text.lower name) (params : List String) (body : List Command) :
    (registry.define name params body).get? other =
      some (procedureOf name params body) := by
  have found := find?_put_self (procedureOf name params body) registry.procedures
  simp only [get?, define, same]
  exact found

/-- A definition leaves other names alone. -/
theorem get?_define_of_ne (registry : Registry) {name other : String}
    (different : Text.lower name ≠ Text.lower other) (params : List String)
    (body : List Command) :
    (registry.define name params body).get? other = registry.get? other :=
  find?_put_of_ne (procedureOf name params body) different registry.procedures

/-- Whether a name is defined. -/
def has (registry : Registry) (name : String) : Bool :=
  (registry.get? name).isSome

/-- The procedure of a name, which has to be defined. -/
def get (registry : Registry) (name : String) (at? : Option Location) : Except Fault Procedure :=
  match registry.get? name with
  | some procedure => .ok procedure
  | none => .error ⟨.unknownOperator name, at?, none⟩

/-- The number of procedures. -/
def size (registry : Registry) : Nat :=
  registry.procedures.length

/-- The procedures by name, in the order of code points. -/
def sorted (registry : Registry) : List Procedure :=
  registry.procedures.mergeSort fun first second => decide (first.name ≤ second.name)

/-- The defined names, in the order of code points. -/
def names (registry : Registry) : List String :=
  registry.sorted.map Procedure.name

/-- Defines the procedures that the definitions among some commands make, in their order. -/
def defineAll (registry : Registry) : List Command → Registry
  | [] => registry
  | .define name params body _ :: rest => (registry.define name params body).defineAll rest
  | _ :: rest => registry.defineAll rest

theorem defineAll_of_none {batch : List Command} (registry : Registry)
    (none : ∀ command ∈ batch, command.isDefinition = false) :
    registry.defineAll batch = registry := by
  induction batch with
  | nil => rfl
  | cons command rest ih =>
    have here := none command (List.mem_cons_self ..)
    have later := ih fun other member => none other (List.mem_cons_of_mem _ member)
    cases command with
    | define name params body at? => simp [Command.isDefinition] at here
    | _ => exact later

theorem defineAll_append (registry : Registry) (batch others : List Command) :
    registry.defineAll (batch ++ others) = (registry.defineAll batch).defineAll others := by
  induction batch generalizing registry with
  | nil => rfl
  | cons command rest ih => cases command <;> exact ih _

end Registry

end Turtle
