import Turtle.Procedure.Registry
import Turtle.Program.Value

/-!
# Arguments for parameters

A procedure is called by putting its arguments for its parameters, everywhere in its body at once.
A parameter is replaced where a whole token of a leaf, operator or argument, is equal to it; where
two parameters are equal the last one counts.  A call without arguments runs the body as it stands.
-/

set_option autoImplicit false

namespace Turtle

/-- The argument for each parameter, the last parameter first. -/
abbrev Bindings := List (String × String)

def Bindings.token (bindings : Bindings) (token : String) : String :=
  (bindings.lookup token).getD token

mutual

def Command.substitute (bindings : Bindings) : Command → Command
  | .leaf op args at? => .leaf (bindings.token op) (args.map bindings.token) at?
  | .loop count body at? => .loop count (Command.substituteAll bindings body) at?
  | .define name params body at? =>
    .define name params (Command.substituteAll bindings body) at?
  | .stray shown? => .stray shown?

def Command.substituteAll (bindings : Bindings) : List Command → List Command
  | [] => []
  | command :: rest => command.substitute bindings :: Command.substituteAll bindings rest

end

theorem Command.substituteAll_eq_map (bindings : Bindings) (commands : List Command) :
    Command.substituteAll bindings commands = commands.map (Command.substitute bindings) := by
  induction commands with
  | nil => rfl
  | cons command rest ih => rw [Command.substituteAll, List.map_cons, ih]

theorem Command.location?_substitute (bindings : Bindings) (command : Command) :
    (command.substitute bindings).location? = command.location? := by
  cases command <;> rfl

namespace Procedure

/-- A call needs an argument for each parameter, or none at all. -/
def accepts (procedure : Procedure) (count : Nat) : Bool :=
  count = 0 || count = procedure.params.length

def checkArity (procedure : Procedure) (count : Nat) (at? : Option Location) :
    Except Fault Unit :=
  if procedure.accepts count then .ok ()
  else .error ⟨.wrongArity procedure.name procedure.params.length count, at?, none⟩

def bindings (procedure : Procedure) (args : List String) : Bindings :=
  (procedure.params.zip args).reverse

def bind (procedure : Procedure) (args : List String) (at? : Option Location) :
    Except Fault (List Command) :=
  match args with
  | [] => .ok procedure.body
  | _ :: _ =>
    (procedure.checkArity args.length at?).map fun _ =>
      Command.substituteAll (procedure.bindings args) procedure.body

/-- Puts values for the parameters, each by the token that it is written as. -/
def bindValues (procedure : Procedure) (values : List Value) (at? : Option Location) :
    Except Failure (List Command) :=
  match values with
  | [] => .ok procedure.body
  | _ :: _ => do
    (procedure.checkArity values.length at?).mapError Failure.fault
    match Value.tokens? values with
    | some tokens => return Command.substituteAll (procedure.bindings tokens) procedure.body
    | none => throw .unwritableNumber

/-- Nothing is put for what is no parameter. -/
theorem token_of_unbound (procedure : Procedure) (args : List String) {token : String}
    (unbound : token ∉ procedure.params) : (procedure.bindings args).token token = token := by
  have none : (procedure.bindings args).lookup token = none := by
    rw [List.lookup_eq_none_iff]
    intro pair member
    have listed := (List.of_mem_zip (List.mem_reverse.mp member)).1
    simp only [bne_iff_ne, ne_eq]
    rintro rfl
    exact unbound listed
  rw [Bindings.token, none, Option.getD_none]

theorem bind_nil (procedure : Procedure) (at? : Option Location) :
    procedure.bind [] at? = .ok procedure.body := rfl

/-- Tokens are put for parameters as they are. -/
theorem bindValues_map_text (procedure : Procedure) (args : List String)
    (at? : Option Location) :
    procedure.bindValues (args.map .text) at? =
      (procedure.bind args at?).mapError Failure.fault := by
  cases args with
  | nil => rfl
  | cons arg args =>
    have written := Value.tokens?_map_text (arg :: args)
    rw [List.map_cons] at written ⊢
    rw [bindValues, written, bind, List.length_cons, List.length_map, List.length_cons]
    cases procedure.checkArity (args.length + 1) at? <;> rfl

/-- A call that is not refused runs the body as it stands, or with the arguments put into it. -/
theorem body_of_bind {procedure : Procedure} {args : List String} {at? : Option Location}
    {body : List Command} (bound : procedure.bind args at? = .ok body) :
    body = procedure.body ∨
      body = Command.substituteAll (procedure.bindings args) procedure.body := by
  cases args with
  | nil => exact Or.inl (Except.ok.inj bound).symm
  | cons arg args =>
    rw [bind] at bound
    cases checked : procedure.checkArity (arg :: args).length at? with
    | error fault =>
      rw [checked] at bound
      contradiction
    | ok _ =>
      rw [checked] at bound
      exact Or.inr (Except.ok.inj bound).symm

/-- A call is refused just where the number of its arguments is. -/
theorem bind_eq_error_iff (procedure : Procedure) (args : List String)
    (at? : Option Location) (fault : Fault) :
    procedure.bind args at? = .error fault ↔
      procedure.accepts args.length = false ∧
        fault = ⟨.wrongArity procedure.name procedure.params.length args.length, at?, none⟩ := by
  cases args with
  | nil => simp [bind, accepts]
  | cons arg args =>
    rw [bind, checkArity]
    cases accepted : procedure.accepts (arg :: args).length with
    | true => simp [Except.map]
    | false =>
      simp only [Bool.false_eq_true, if_false, Except.map, true_and, Except.error.injEq]
      exact eq_comm

end Procedure

end Turtle
