import Turtle.Proofs.Grammar
import Turtle.Proofs.Legible

/-!
# Words that can be written

The words of a program that was read are tokens, and they remain so while the program runs: an
argument takes the place of a parameter, token for token.  Every leaf that a step draws can
therefore be written as a line of program, and by itself, with nothing defined, it stands for the
same calls.
-/

set_option autoImplicit false

namespace Turtle

namespace Command

/-- The words of all leaves in a command are tokens, and the counts of its loops can be written. -/
inductive Lexical : Command → Prop where
  | leaf {op : String} {args : List String} {at? : Option Location} :
    (∀ word ∈ op :: args, IsToken word) → Lexical (.leaf op args at?)
  | loop {count : Int} {body : List Command} {at? : Option Location} :
    Number.writeInteger count ≠ none → (∀ command ∈ body, Lexical command) →
      Lexical (.loop count body at?)
  | define {name : String} {params : List String} {body : List Command} {at? : Option Location} :
    (∀ command ∈ body, Lexical command) → Lexical (.define name params body at?)

/-- A leaf that stands for a primitive with fitting arguments. -/
inductive Draws : Command → Primitive → List Call → Prop where
  | leaf {op : String} {args : List String} {at? : Option Location} {primitive : Primitive}
    {calls : List Call} : (∀ word ∈ op :: args, IsToken word) →
    Primitive.ofWord? op = some primitive → primitive.calls args = .ok calls →
    Draws (.leaf op args at?) primitive calls

variable {command : Command}

theorem Fits.lexical {inside : Bool} (fits : command.Fits inside) : command.Lexical := by
  induction fits with
  | leaf _ _ tokens => exact .leaf tokens
  | loop isCount _ _ ih =>
    refine .loop (Number.writeInteger_ne_none_iff.mpr ?_) ih
    have few := isCount.few
    have nonneg := isCount.nonneg
    omega
  | define _ _ _ ih => exact .define ih

theorem isToken_token {bindings : Bindings} (tokens : ∀ pair ∈ bindings, IsToken pair.2)
    {word : String} (token : IsToken word) : IsToken (bindings.token word) := by
  unfold Bindings.token
  cases found : bindings.lookup word with
  | none => exact token
  | some arg =>
    obtain ⟨_, after, split, _⟩ := List.lookup_eq_some_iff.mp found
    exact tokens (word, arg) (split ▸ by simp)

theorem Lexical.substitute {bindings : Bindings} (tokens : ∀ pair ∈ bindings, IsToken pair.2)
    (lexical : command.Lexical) : (command.substitute bindings).Lexical := by
  induction lexical with
  | leaf words =>
    refine .leaf fun word member => ?_
    rw [← List.map_cons] at member
    obtain ⟨other, listed, rfl⟩ := List.mem_map.mp member
    exact isToken_token tokens (words other listed)
  | loop writable _ ih =>
    refine .loop writable fun other member => ?_
    rw [substituteAll_eq_map] at member
    obtain ⟨inner, listed, rfl⟩ := List.mem_map.mp member
    exact ih inner listed
  | define _ ih =>
    refine .define fun other member => ?_
    rw [substituteAll_eq_map] at member
    obtain ⟨inner, listed, rfl⟩ := List.mem_map.mp member
    exact ih inner listed

end Command

theorem Procedure.lexical_bind {procedure : Procedure} {args : List String} {at? : Option Location}
    {body : List Command} (lexical : ∀ command ∈ procedure.body, command.Lexical)
    (tokens : ∀ word ∈ args, IsToken word) (bound : procedure.bind args at? = .ok body) :
    ∀ command ∈ body, command.Lexical := by
  rcases procedure.body_of_bind bound with rfl | rfl
  · exact lexical
  · have given : ∀ pair ∈ procedure.bindings args, IsToken pair.2 := fun pair member =>
      tokens pair.2 (List.of_mem_zip (List.mem_reverse.mp member)).2
    intro command member
    rw [Command.substituteAll_eq_map] at member
    obtain ⟨inner, listed, rfl⟩ := List.mem_map.mp member
    exact (lexical inner listed).substitute given

/-- Lexical commands can be written down, and so can the commands in them. -/
theorem Command.Lexical.isLegible {command : Command} (lexical : command.Lexical) :
    command.isLegible = true := by
  induction lexical with
  | leaf => rfl
  | loop writable _ ih =>
    obtain ⟨number, written⟩ := Option.ne_none_iff_exists'.mp writable
    rw [Command.isLegible, Command.every, Bool.and_eq_true, Command.describe?, written]
    exact ⟨rfl, Command.everyOf_eq_true_iff.mpr ih⟩
  | define _ ih =>
    rw [Command.isLegible, Command.every, Bool.and_eq_true]
    exact ⟨rfl, Command.everyOf_eq_true_iff.mpr ih⟩

theorem Command.areLegible_of_lexical {program : List Command}
    (lexical : ∀ command ∈ program, command.Lexical) : Command.areLegible program = true :=
  Command.everyOf_eq_true_iff.mpr fun command member => (lexical command member).isLegible

/-- Everything that a frame holds is lexical. -/
structure Frame.Lexical (frame : Frame) : Prop where
  command : frame.command.Lexical
  pending : ∀ body ∈ frame.pending?, ∀ command ∈ body, command.Lexical

def Registry.Lexical (registry : Registry) : Prop :=
  ∀ procedure ∈ registry.procedures, ∀ command ∈ procedure.body, command.Lexical

/-- Everything that a scheduler can still come to is lexical. -/
structure Scheduler.Lexical (s : Scheduler) : Prop where
  stack : ∀ frame ∈ s.stack, frame.Lexical
  waiting : ∀ command ∈ s.queue.pending, command.Lexical
  registry : s.registry.Lexical

/-- The words of programs that were read never keep a stack from being recorded. -/
theorem Scheduler.Lexical.recordable {s : Scheduler} (lexical : s.Lexical) : s.Recordable :=
  s.recordable_iff.mpr fun frame member =>
    s.settings.writes_of_legible (lexical.stack frame member).command.isLegible

theorem Frame.lexical_ofCommand {command : Command} (lexical : command.Lexical) :
    (ofCommand command).Lexical := by
  cases lexical with
  | leaf words => exact ⟨.leaf words, fun _ pending => absurd pending (Option.not_mem_none _)⟩
  | loop writable inner =>
    refine ⟨.loop writable inner, fun body pending => ?_⟩
    obtain rfl := Option.some.inj pending
    exact inner
  | define inner => exact ⟨.define inner, fun _ pending => absurd pending (Option.not_mem_none _)⟩

theorem Frame.lexical_load {body : List Command} {stack : List Frame}
    (body_lexical : ∀ command ∈ body, command.Lexical)
    (stack_lexical : ∀ frame ∈ stack, frame.Lexical) :
    ∀ frame ∈ load body stack, frame.Lexical := by
  intro frame member
  rcases List.mem_append.mp member with loaded | below
  · obtain ⟨command, listed, rfl⟩ := List.mem_map.mp loaded
    exact lexical_ofCommand (body_lexical command listed)
  · exact stack_lexical frame below

namespace Registry

theorem mem_put {procedure other : Procedure} {procedures : List Procedure}
    (member : other ∈ put procedure procedures) : other = procedure ∨ other ∈ procedures := by
  induction procedures with
  | nil => exact Or.inl (List.mem_singleton.mp member)
  | cons first rest ih =>
    rw [put] at member
    split at member
    · exact (List.mem_cons.mp member).imp id (List.mem_cons_of_mem _)
    · rcases List.mem_cons.mp member with rfl | later
      · exact Or.inr (List.mem_cons_self ..)
      · exact (ih later).imp id (List.mem_cons_of_mem _)

theorem mem_of_get? {registry : Registry} {name : String} {procedure : Procedure}
    (found : registry.get? name = some procedure) : procedure ∈ registry.procedures :=
  List.mem_of_find?_eq_some found

theorem Lexical.define {registry : Registry} (lexical : registry.Lexical) (name : String)
    (params : List String) {body : List Command}
    (body_lexical : ∀ command ∈ body, command.Lexical) :
    (registry.define name params body).Lexical := by
  intro procedure member
  rcases mem_put member with rfl | earlier
  · exact body_lexical
  · exact lexical procedure earlier

theorem Lexical.defineAll {registry : Registry} (lexical : registry.Lexical)
    {batch : List Command} (batch_lexical : ∀ command ∈ batch, command.Lexical) :
    (registry.defineAll batch).Lexical := by
  induction batch generalizing registry with
  | nil => exact lexical
  | cons command rest ih =>
    have here := batch_lexical command (List.mem_cons_self ..)
    have later := fun other member => batch_lexical other (List.mem_cons_of_mem _ member)
    cases here with
    | leaf => exact ih lexical later
    | loop => exact ih lexical later
    | define inner => exact ih (lexical.define _ _ inner) later

end Registry

namespace Scheduler

/-- What a step makes of a scheduler is lexical again, and so is a leaf that it leaves to be drawn.
-/
structure Lexically (outcome : Scheduler × Work) : Prop where
  lexical : outcome.1.Lexical
  draws : ∀ leaf primitive calls, outcome.2 = .draw leaf primitive calls →
    leaf.Draws primitive calls

variable {s : Scheduler}

theorem Lexical.lay (lexical : s.Lexical) {stack : List Frame}
    (stack_lexical : ∀ frame ∈ stack, frame.Lexical) :
    ({ s with stack := stack } : Scheduler).Lexical :=
  { lexical with stack := stack_lexical }

theorem lexically_complete (lexical : s.Lexical) (event : StepEvent) (at? : Option Location) :
    Lexically (s.complete event at?) := by
  rcases s.complete_cases event at? with ⟨_, _, completed⟩ | ⟨_, completed⟩ <;> rw [completed]
  · exact ⟨{ lexical with }, fun _ _ _ => Work.noConfusion⟩
  · exact ⟨lexical, fun _ _ _ => Work.noConfusion⟩

theorem lexically_operate (lexical : s.Lexical) {op : String} {args : List String}
    (tokens : ∀ word ∈ op :: args, IsToken word) (at? : Option Location) :
    Lexically (s.operate op args at?) := by
  unfold operate
  split
  · rename_i procedure found
    split
    · exact ⟨lexical, fun _ _ _ => Work.noConfusion⟩
    · rename_i body bound
      have known := lexical.registry procedure (Registry.mem_of_get? found)
      have loaded := procedure.lexical_bind known
        (fun word member => tokens word (List.mem_cons_of_mem _ member)) bound
      exact lexically_complete (lexical.lay (Frame.lexical_load loaded lexical.stack)) _ _
  · split
    · exact ⟨lexical, fun _ _ _ => Work.noConfusion⟩
    · rename_i primitive known
      split
      · exact ⟨lexical, fun _ _ _ => Work.noConfusion⟩
      · rename_i calls fit
        refine ⟨lexical, fun leaf primitive' calls' same => ?_⟩
        cases same
        exact .leaf tokens known fit

theorem lexically_advance (lexical : s.Lexical) {frame : Frame} {below : List Frame}
    (frame_lexical : frame.Lexical) (below_lexical : ∀ other ∈ below, other.Lexical) :
    Lexically (s.advance frame below) := by
  obtain ⟨command, iteration?, pending?⟩ := frame
  obtain ⟨command_lexical, pending⟩ := frame_lexical
  have popped := lexical.lay below_lexical
  cases command_lexical with
  | leaf words => exact lexically_operate popped words _
  | define inner =>
    exact lexically_complete (s := ({ s with stack := below } : Scheduler).define _ _ _)
      ⟨below_lexical, lexical.waiting, lexical.registry.define _ _ inner⟩ _ _
  | loop writable inner =>
    unfold advance
    dsimp only
    split
    · rename_i body
      split
      · refine lexically_complete
          (lexical.lay (Frame.lexical_load (pending body rfl) ?_)) _ _
        intro other member
        rcases List.mem_cons.mp member with rfl | later
        · exact ⟨.loop writable inner, pending⟩
        · exact below_lexical other later
      · exact lexically_complete popped _ _
    · exact ⟨lexical, fun _ _ _ => Work.noConfusion⟩

theorem lexically_step (lexical : s.Lexical) : Lexically s.step := by
  unfold step
  split
  · exact ⟨lexical, fun _ _ _ => Work.noConfusion⟩
  split
  · exact ⟨lexical, fun _ _ _ => Work.noConfusion⟩
  dsimp only
  split
  · rename_i frame below stacked
    have all := lexical.stack
    rw [stacked] at all
    have counted : ({ s with steps := s.steps + 1 } : Scheduler).Lexical := { lexical with }
    exact lexically_advance counted (all frame (List.mem_cons_self ..)) fun other member =>
      all other (List.mem_cons_of_mem _ member)
  · split
    · exact ⟨{ lexical with }, fun _ _ _ => Work.noConfusion⟩
    · rename_i command rest taken
      have split : s.queue.pending = command :: rest.pending := by
        unfold CommandQueue.next? at taken
        split at taken
        · contradiction
        · rename_i pending
          cases taken
          exact pending
      have waiting := lexical.waiting
      rw [split] at waiting
      have loaded : ({ s with
          steps := s.steps + 1, queue := rest, stack := [Frame.ofCommand command] } :
            Scheduler).Lexical :=
        ⟨List.forall_mem_singleton.mpr (Frame.lexical_ofCommand (waiting command (by simp))),
          fun other member => waiting other (List.mem_cons_of_mem _ member), lexical.registry⟩
      exact lexically_complete loaded _ _

end Scheduler

/-- A batch of lexical commands is taken as it is. -/
theorem commands_of_lexical {program : List Command}
    (lexical : ∀ command ∈ program, command.Lexical) :
    Engine.commands (program.map .command) = .ok program := by
  induction program with
  | nil => rfl
  | cons command rest ih =>
    have here := lexical command (List.mem_cons_self ..)
    have later := ih fun other member => lexical other (List.mem_cons_of_mem _ member)
    have itself : (Value.command command).command? = some command := by
      cases here <;> rfl
    rw [List.map_cons, Engine.commands, itself]
    simp [later, Except.map]

end Turtle
