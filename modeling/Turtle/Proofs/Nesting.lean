import Turtle.Proofs.Completion
import Turtle.Proofs.Likeness
import Turtle.Proofs.WordForWord

/-!
# Definitions within procedures

A procedure may define another one when it is called.  The words of the call are put into the inner
body before it is registered, and the words of a call of the inner procedure are put into what has
come of that.  So an inner procedure has no parameters to itself: a word of its body that is a
parameter of both is taken by the outer call, and an argument of the outer call that is a parameter
of the inner one is replaced again.
-/

set_option autoImplicit false

namespace Turtle

/-- What a call puts for each word when it gives some arguments for some parameters. -/
def putting (params args : List String) : String → String :=
  Bindings.token (params.zip args).reverse

/-- What is put for each word by an inner call that keeps its own parameters from the outer one. -/
def keeping (params : List String) (inner outer : String → String) (word : String) : String :=
  if word ∈ params then inner word else outer word

theorem putting_nil (params : List String) : putting params [] = id := by
  funext word
  simp [putting, Bindings.token]

namespace Procedure

/-- A call puts its words into the whole body, also when it has none. -/
theorem eq_of_bind_eq_ok {procedure : Procedure} {args : List String} {at? : Option Location}
    {bound : List Command} (accepted : procedure.bind args at? = .ok bound) :
    bound = Command.rewordAll (putting procedure.params args) procedure.body := by
  cases args with
  | nil =>
    rw [putting_nil, Command.rewordAll_id]
    exact (Except.ok.inj accepted).symm
  | cons arg args =>
    rw [bind, checkArity] at accepted
    split at accepted
    · rw [← Except.ok.inj accepted, Command.substituteAll_eq_rewordAll]
      rfl
    · contradiction

theorem bind_eq_ok_of_length {procedure : Procedure} {args : List String}
    (fits : args.length = procedure.params.length) (at? : Option Location) :
    procedure.bind args at? =
      .ok (Command.rewordAll (putting procedure.params args) procedure.body) := by
  by_cases given : args = []
  · rw [given, bind_nil, putting_nil, Command.rewordAll_id]
  · exact procedure.bind_eq_ok_of_fits given fits at?

end Procedure

namespace Command

/-- The commands that a body itself brings to the top of the stack: its own commands, and those in
the body of a loop that is one of them. -/
inductive Placed (body : List Command) : Command → Prop where
  | here {command : Command} : command ∈ body → Placed body command
  | inside {count : Int} {inner : List Command} {at? : Option Location} {command : Command} :
    Placed body (.loop count inner at?) → command ∈ inner → Placed body command

variable {f g : String → String} {body : List Command} {command : Command}

theorem mem_rewordAll_iff :
    command ∈ rewordAll f body ↔ ∃ stored ∈ body, command = stored.reword f := by
  rw [rewordAll_eq_map, List.mem_map]
  exact exists_congr fun stored => and_congr_right fun _ => eq_comm

/-- Other words do not change what is placed where. -/
theorem placed_rewordAll_iff :
    Placed (rewordAll f body) command ↔
      ∃ stored, Placed body stored ∧ command = stored.reword f := by
  constructor
  · intro placed
    induction placed with
    | here member =>
      obtain ⟨stored, listed, rfl⟩ := mem_rewordAll_iff.mp member
      exact ⟨stored, .here listed, rfl⟩
    | inside _ member ih =>
      obtain ⟨outer, placed, same⟩ := ih
      cases outer with
      | loop count inner at? =>
        obtain ⟨rfl, rfl, rfl⟩ := loop.inj same
        obtain ⟨stored, listed, rfl⟩ := mem_rewordAll_iff.mp member
        exact ⟨stored, .inside placed listed, rfl⟩
      | _ => simp [reword] at same
  · rintro ⟨stored, placed, rfl⟩
    induction placed with
    | here member => exact .here (mem_rewordAll_iff.mpr ⟨_, member, rfl⟩)
    | inside _ member ih => exact .inside ih (mem_rewordAll_iff.mpr ⟨_, member, rfl⟩)

/-- What two calls put one after the other is what an inner call with parameters of its own would
put if and only if the outer call leaves them alone and brings in none of them. -/
theorem rewordAll_keeping_iff (params : List String) (inner outer : String → String) :
    rewordAll (inner ∘ outer) body = rewordAll (keeping params inner outer) body ↔
      ∀ word ∈ wordsOfAll body,
        (word ∈ params → inner (outer word) = inner word) ∧
          (word ∉ params → inner (outer word) = outer word) := by
  rw [rewordAll_eq_iff]
  refine forall₂_congr fun word _ => ?_
  by_cases own : word ∈ params <;> simp [keeping, own]

end Command

namespace Scheduler

/-- The next step of a running cycle takes a command from the stack. -/
structure Takes (s : Scheduler) (command : Command) (below : List Frame) : Prop where
  running : s.phase = .running
  live : s.live = true
  stack_eq : s.stack = Frame.ofCommand command :: below

variable {s : Scheduler} {below : List Frame} {name : String} {params : List String}
  {body : List Command} {op : String} {args : List String} {at? : Option Location}

theorem Takes.step {command : Command} (takes : s.Takes command below) :
    s.step = s.count.advance (Frame.ofCommand command) below :=
  step_of_frame takes.running takes.live takes.stack_eq

theorem Takes.registry_of_define (takes : s.Takes (.define name params body at?) below) :
    s.step.1.registry = s.registry.define name params body := by
  rw [takes.step]
  exact complete_registry _ _ _

theorem Takes.stack_of_call {procedure : Procedure} {bound : List Command}
    (takes : s.Takes (.leaf op args at?) below) (found : s.registry.get? op = some procedure)
    (accepted : procedure.bind args at? = .ok bound) :
    s.step.1.stack = Frame.load bound below := by
  have lookup : (s.count.lay below).registry.get? op = some procedure := found
  rw [takes.step]
  change ((s.count.lay below).operate op args at?).1.stack = _
  simp only [operate, lookup, accepted]
  exact complete_stack _ _ _

/-- The two calls of a definition within a procedure.  The outer call puts its words into all that
the outer body places.  When a definition that is placed there has been registered, and its name
still finds what was registered, a call of it carries out the inner body with first the outer and
then the inner words put in.  An inner call with parameters of its own would carry out the same if
and only if no word of the inner body is taken by the wrong call. -/
theorem stack_of_nested_call {called : Scheduler} {outer : Procedure} {word : String}
    {given : List String} {rest : List Frame} {bound : List Command}
    (calls : called.Takes (.leaf word given at?) rest)
    (found : called.registry.get? word = some outer)
    (accepted : outer.bind given at? = .ok bound) :
    called.step.1.stack = Frame.load bound rest ∧
    (∀ command, Command.Placed bound command ↔ ∃ stored, Command.Placed outer.body stored ∧
      command = stored.reword (putting outer.params given)) ∧
    ∀ {place? : Option Location}, Command.Placed outer.body (.define name params body place?) →
      s.Takes ((Command.define name params body place?).reword (putting outer.params given)) below →
      ∀ {t : Scheduler} {under : List Frame} {spot? : Option Location},
        t.Takes (.leaf op args spot?) under →
        t.registry.get? op = s.step.1.registry.get? name → args.length = params.length →
        t.step.1.stack = Frame.load
          (Command.rewordAll (putting params args ∘ putting outer.params given) body) under ∧
        (Command.rewordAll (putting params args ∘ putting outer.params given) body =
            Command.rewordAll
              (keeping params (putting params args) (putting outer.params given)) body ↔
          ∀ word ∈ Command.wordsOfAll body,
            (word ∈ params → putting params args (putting outer.params given word) =
              putting params args word) ∧
            (word ∉ params → putting params args (putting outer.params given word) =
              putting outer.params given word)) := by
  obtain rfl := Procedure.eq_of_bind_eq_ok accepted
  refine ⟨calls.stack_of_call found accepted, fun command => Command.placed_rewordAll_iff, ?_⟩
  intro place? _ registers t under spot? applies kept fits
  have registered : s.step.1.registry.get? name = some (Registry.procedureOf name params
      (Command.rewordAll (putting outer.params given) body)) := by
    rw [registers.registry_of_define]
    exact Registry.get?_define_self _ rfl _ _
  have bound : (Registry.procedureOf name params
      (Command.rewordAll (putting outer.params given) body)).bind args spot? =
        .ok (Command.rewordAll (putting params args ∘ putting outer.params given) body) := by
    rw [Procedure.bind_eq_ok_of_length (by exact fits), ← Command.rewordAll_rewordAll]
    rfl
  exact ⟨applies.stack_of_call (kept.trans registered) bound,
    Command.rewordAll_keeping_iff params _ _⟩

/-- A procedure with a loop that defines another one, which uses the parameters of both. -/
def pens : Procedure :=
  ⟨"p", ["x"], [.loop 1 [.define "q" ["y"] [.leaf "x" [] none, .leaf "y" [] none] none] none]⟩

/-- The procedure is about to be called with the word for lifting the pen. -/
def callingPens : Scheduler :=
  { Plays.plainStart with
    phase := .running, live := true, registry := ⟨[pens]⟩,
    stack := [Frame.ofCommand (.leaf "p" ["pu"] none)] }

theorem stack_of_call_within_pens :
    let registered := callingPens.step.1.step.1.step.1
    let called : Scheduler := { registered with stack := [Frame.ofCommand (.leaf "Q" ["pd"] none)] }
    called.step.1.stack = Frame.load [.leaf "pu" [] none, .leaf "pd" [] none] [] := by
  intro registered called
  have calls : callingPens.Takes (.leaf "p" ["pu"] none) [] := ⟨rfl, rfl, rfl⟩
  have found : callingPens.registry.get? "p" = some pens := by rfl
  obtain ⟨_, _, nested⟩ := stack_of_nested_call calls found rfl
  have placed : Command.Placed pens.body
      (.define "q" ["y"] [.leaf "x" [] none, .leaf "y" [] none] none) :=
    .inside (.here (List.mem_singleton.mpr rfl)) (List.mem_singleton.mpr rfl)
  have registers : callingPens.step.1.step.1.Takes
      ((Command.define "q" ["y"] [.leaf "x" [] none, .leaf "y" [] none] none).reword
        (putting ["x"] ["pu"])) callingPens.step.1.step.1.stack.tail := ⟨rfl, rfl, rfl⟩
  have applies : called.Takes (.leaf "Q" ["pd"] none) [] := ⟨rfl, rfl, rfl⟩
  have same : Text.lower "Q" = Text.lower "q" := by decide
  have kept : called.registry.get? "Q" = registered.registry.get? "q" := by
    rw [Registry.get?, Registry.get?, same]
  exact (nested placed registers applies kept rfl).1

end Scheduler

namespace Plays

/-- An inner procedure has the same parameter as the outer one, and each of them is called with a
word of its own.  The inner call carries out the word of the outer one. -/
theorem shared_parameter_taken :
    (∃ past now, Plays .free (.atRest plainStart) past now ∧ now.Outside ∧
      now.sched.phase = .exhausted ∧ now.sched.calls = [.penUp] ∧
      ∃ m ∈ past, m.before.sched.stack.map (fun frame => frame.command.describe?) = [some "q pd"] ∧
        m.after.sched.stack.map (fun frame => frame.command.describe?) = [some "pu"]) ∧
    Command.rewordAll (keeping ["x"] (putting ["x"] ["pd"]) (putting ["x"] ["pu"]))
      [.leaf "x" [] none] = [.leaf "pd" [] none] := by
  refine ⟨?_, by rfl⟩
  obtain ⟨past, now, played, facts⟩ := exists_of_play? .free (.atRest plainStart)
    [.move (.cue [.command (.define "p" ["x"] [.define "q" ["x"] [.leaf "x" [] none] none] none),
        .command (.leaf "p" ["pu"] none), .command (.leaf "q" ["pd"] none)] none),
      .work, .work, .work, .work, .work, .work, .move .finish, .work, .work, .work, .work, .work,
      .work]
    (fun past now => decide (now.Outside ∧ now.sched.phase = .exhausted ∧
      now.sched.calls = [.penUp] ∧
      ∃ m ∈ past, m.before.sched.stack.map (fun frame => frame.command.describe?) = [some "q pd"] ∧
        m.after.sched.stack.map (fun frame => frame.command.describe?) = [some "pu"]))
    (by decide)
  exact ⟨past, now, played, of_decide_eq_true facts⟩

end Plays

end Turtle
