import Mathlib.Data.List.Forall2
import Mathlib.Data.Option.Basic
import Turtle.Procedure.Registry

/-!
# Registries side by side

Two registries in which procedures of the same names stand in the same places, each related to the
one beside it, stay so when related procedures are put into them, and the same names find related
procedures.
-/

set_option autoImplicit false

namespace Turtle.Registry

variable {related : Procedure → Procedure → Prop} {procedure procedure' : Procedure}
  {procedures procedures' : List Procedure}

theorem forall₂_put (named : ∀ {first other}, related first other → other.name = first.name)
    (registered : List.Forall₂ related procedures procedures')
    (new : related procedure procedure') :
    List.Forall₂ related (put procedure procedures) (put procedure' procedures') := by
  induction registered with
  | nil => exact .cons new .nil
  | cons first rest ih =>
    rw [put, put, named first, named new]
    split
    · exact .cons new rest
    · exact .cons first ih

theorem rel_find? (named : ∀ {first other}, related first other → other.name = first.name)
    (registered : List.Forall₂ related procedures procedures') (name : String) :
    Option.Rel related (procedures.find? fun procedure => procedure.name = name)
      (procedures'.find? fun procedure => procedure.name = name) := by
  induction registered with
  | nil => exact .none
  | @cons procedure procedure' _ _ first _ ih =>
    have name_eq := named first
    by_cases found : procedure.name = name
    · rw [List.find?_cons_of_pos (by simpa using found),
        List.find?_cons_of_pos (by simpa [name_eq] using found)]
      exact .some first
    · rw [List.find?_cons_of_neg (by simpa using found),
        List.find?_cons_of_neg (by simpa [name_eq] using found)]
      exact ih

/-- The case of a name does not matter. -/
theorem rel_get? {registry registry' : Registry} {name name' : String}
    (named : ∀ {first other}, related first other → other.name = first.name)
    (registered : List.Forall₂ related registry.procedures registry'.procedures)
    (same : Text.lower name' = Text.lower name) :
    Option.Rel related (registry.get? name) (registry'.get? name') := by
  rw [get?, get?, same]
  exact rel_find? named registered _

end Turtle.Registry
