import Turtle.Proofs.Likeness
import Turtle.Proofs.Recordable
import Turtle.Proofs.Registries
import Turtle.Proofs.Trimming
import Turtle.Proofs.WordForWord

/-!
# Spellings

The operator of a leaf can be spelled anew, with letters of another case.  Procedures do not tell
the two spellings apart, so that a program whose operators have been spelled anew does what it did
before, step by step, if primitives do not tell them apart either.
-/

set_option autoImplicit false

namespace Turtle

namespace Command

/-- An operator as it was, or in a new spelling: an allowed one that has the same lower-case form,
in a place where no parameter has it. -/
inductive Spelling (allowed : String → String → Prop) (scope : List String) (op : String) :
    String → Prop where
  | same : Spelling allowed scope op op
  | anew {op' : String} : allowed op op' → Text.lower op' = Text.lower op →
    (∀ name ∈ scope, Text.lower name ≠ Text.lower op) → Spelling allowed scope op op'

mutual

/-- Operators of the leaves of a command may have been spelled anew, among parameters that are in
scope. -/
inductive Respelt (allowed : String → String → Prop) : List String → Command → Command → Prop where
  | leaf {scope : List String} {op op' : String} (args : List String) (at? : Option Location) :
    Spelling allowed scope op op' → Respelt allowed scope (.leaf op args at?) (.leaf op' args at?)
  | loop {scope : List String} (count : Int) {body body' : List Command} (at? : Option Location) :
    AllRespelt allowed scope body body' →
      Respelt allowed scope (.loop count body at?) (.loop count body' at?)
  | define {scope : List String} (name : String) (params : List String)
    {body body' : List Command} (at? : Option Location) :
    AllRespelt allowed (params ++ scope) body body' →
      Respelt allowed scope (.define name params body at?) (.define name params body' at?)
  | stray {scope : List String} (shown? : Option String) :
    Respelt allowed scope (.stray shown?) (.stray shown?)

inductive AllRespelt (allowed : String → String → Prop) :
    List String → List Command → List Command → Prop where
  | nil {scope : List String} : AllRespelt allowed scope [] []
  | cons {scope : List String} {command command' : Command} {rest rest' : List Command} :
    Respelt allowed scope command command' → AllRespelt allowed scope rest rest' →
      AllRespelt allowed scope (command :: rest) (command' :: rest')

end

end Command

/-- Operators in the body of a procedure may have been spelled anew. -/
structure Procedure.Respelt (allowed : String → String → Prop) (procedure procedure' : Procedure) :
    Prop where
  name_eq : procedure'.name = procedure.name
  params_eq : procedure'.params = procedure.params
  body : Command.AllRespelt allowed procedure.params procedure.body procedure'.body

def Registry.Respelt (allowed : String → String → Prop) (registry registry' : Registry) : Prop :=
  List.Forall₂ (Procedure.Respelt allowed) registry.procedures registry'.procedures

inductive Frame.Respelt (allowed : String → String → Prop) : Frame → Frame → Prop where
  | intro {command command' : Command} (iteration? : Option Nat)
    {pending? pending?' : Option (List Command)} : command.Respelt allowed [] command' →
      Option.Rel (Command.AllRespelt allowed []) pending? pending?' →
      Respelt allowed ⟨command, iteration?, pending?⟩ ⟨command', iteration?, pending?'⟩

/-- The kinds of the reported faults, newest first, with the cycles they were reported in. -/
def Scheduler.kinds (s : Scheduler) : List (Nat × FaultKind) :=
  s.reports.map fun report => (report.cycle, report.fault.cause.kind)

/-- Operators may have been spelled anew in whatever waits, is being carried out or is defined.
Nobody watches and there are no pauses.  What the journal holds, and what faults say, may differ. -/
structure Scheduler.Respelt (allowed : String → String → Prop) (s t : Scheduler) : Prop where
  unobserved : s.observers = []
  plain : s.settings.animate = false
  settings_eq : t.settings = s.settings
  observers_eq : t.observers = s.observers
  phase_eq : t.phase = s.phase
  live_eq : t.live = s.live
  cycle_eq : t.cycle = s.cycle
  steps_eq : t.steps = s.steps
  callbacks_eq : t.callbacks = s.callbacks
  generation_eq : t.generation = s.generation
  timers_eq : t.timers = s.timers
  calls_eq : t.calls = s.calls
  kinds_eq : t.kinds = s.kinds
  pending : Command.AllRespelt allowed [] s.queue.pending t.queue.pending
  stack : List.Forall₂ (Frame.Respelt allowed) s.stack t.stack
  registry : s.registry.Respelt allowed t.registry

/-- What a step leaves to be done is the same, but for the words of a leaf and of a fault. -/
inductive Work.Respelt : Work → Work → Prop where
  | answer (more : Bool) : Respelt (.answer more) (.answer more)
  | draw {leaf leaf' : Command} (primitive : Primitive) (calls : List Call) :
    Respelt (.draw leaf primitive calls) (.draw leaf' primitive calls)
  | report {fault fault' : Fault} : fault'.cause.kind = fault.cause.kind →
    Respelt (.report fault) (.report fault')
  | halt (phase : Phase) : Respelt (.halt phase) (.halt phase)
  | fail (failure : Failure) : Respelt (.fail failure) (.fail failure)

/-- The operators of a value that stands for a command may have been spelled anew.  In a loose
command any spelling with the same lower-case form will do. -/
inductive Value.Respelt (allowed : String → String → Prop) : Value → Value → Prop where
  | command {command command' : Command} : command.Respelt allowed [] command' →
    Respelt allowed (.command command) (.command command')
  | list {op op' : String} (args : List Value) : Text.lower op' = Text.lower op →
    Respelt allowed (.list (.text op :: args)) (.list (.text op' :: args))
  | tuple {op op' : String} (args : List Value) : Text.lower op' = Text.lower op →
    Respelt allowed (.tuple (.text op :: args)) (.tuple (.text op' :: args))

variable {allowed : String → String → Prop}

namespace Command

variable {scope scope' : List String} {command command' : Command}
  {batch batch' others others' : List Command}

theorem Spelling.lower_eq {op op' : String} (spelling : Spelling allowed scope op op') :
    Text.lower op' = Text.lower op := by
  cases spelling with
  | same => rfl
  | anew _ same _ => exact same

/-- In another spelling a command can be written down just as before. -/
theorem Respelt.describe?_isSome (respelt : command.Respelt allowed scope command') :
    command'.describe?.isSome = command.describe?.isSome := by
  cases respelt <;> rfl

theorem Respelt.isDefinition_eq (respelt : command.Respelt allowed scope command') :
    command'.isDefinition = command.isDefinition := by
  cases respelt <;> rfl

theorem allRespelt_same (scope : List String) (commands : List Command) :
    AllRespelt allowed scope commands commands := by
  induction commands using induction_on_bodies generalizing scope with
  | nil => exact .nil
  | cons command rest ihBody ihRest =>
    refine .cons ?_ (ihRest scope)
    cases command with
    | leaf op args at? => exact .leaf args at? .same
    | loop count body at? => exact .loop count at? (ihBody scope)
    | define name params body at? => exact .define name params at? (ihBody _)
    | stray shown? => exact .stray shown?

theorem respelt_same (command : Command) : command.Respelt allowed scope command := by
  cases @allRespelt_same allowed scope [command] with
  | cons first _ => exact first

theorem AllRespelt.append (respelt : AllRespelt allowed scope batch batch')
    (later : AllRespelt allowed scope others others') :
    AllRespelt allowed scope (batch ++ others) (batch' ++ others') := by
  induction batch generalizing batch' with
  | nil =>
    cases respelt
    exact later
  | cons command batch ih =>
    cases respelt with
    | cons first rest => exact .cons first (ih rest)

theorem AllRespelt.filter (respelt : AllRespelt allowed scope batch batch') :
    AllRespelt allowed scope (batch.filter fun command => !command.isDefinition)
      (batch'.filter fun command => !command.isDefinition) := by
  induction batch generalizing batch' with
  | nil =>
    cases respelt
    exact .nil
  | cons command batch ih =>
    cases respelt with
    | cons first rest =>
      have same := first.isDefinition_eq
      cases definition : command.isDefinition with
      | true =>
        rw [definition] at same
        rw [List.filter_cons_of_neg (by simp [definition]),
          List.filter_cons_of_neg (by simp [same])]
        exact ih rest
      | false =>
        rw [definition] at same
        rw [List.filter_cons_of_pos (by simp [definition]),
          List.filter_cons_of_pos (by simp [same])]
        exact .cons first (ih rest)

/-- Words that are no parameters in whatever case stay when others are put for the parameters, and
then fewer parameters may be in scope. -/
theorem AllRespelt.rewordAll {f : String → String}
    (fixed : ∀ word, (∀ name ∈ scope, Text.lower name ≠ Text.lower word) → f word = word)
    (fewer : scope' ⊆ scope) (respelt : AllRespelt allowed scope batch batch') :
    AllRespelt allowed scope' (rewordAll f batch) (Command.rewordAll f batch') := by
  induction batch using induction_on_bodies generalizing batch' scope scope' with
  | nil =>
    cases respelt
    exact .nil
  | cons command rest ihBody ihRest =>
    cases respelt with
    | cons first others =>
      refine .cons ?_ (ihRest fixed fewer others)
      cases first with
      | leaf args at? spelling =>
        refine .leaf _ at? ?_
        cases spelling with
        | same => exact .same
        | anew allowed same apart =>
          rw [fixed _ apart, fixed _ fun name member => same ▸ apart name member]
          exact .anew allowed same fun name member => apart name (fewer member)
      | loop count at? bodies => exact .loop count at? (ihBody fixed fewer bodies)
      | define name params at? bodies =>
        refine .define name params at? (ihBody ?_ (List.append_subset.mpr ⟨?_, ?_⟩) bodies)
        · intro word apart
          exact fixed word fun other member => apart other (List.mem_append_right _ member)
        · exact List.subset_append_left _ _
        · exact List.Subset.trans fewer (List.subset_append_right _ _)
      | stray shown? => exact .stray shown?

theorem AllRespelt.mono (respelt : AllRespelt allowed scope batch batch')
    (fewer : scope' ⊆ scope) : AllRespelt allowed scope' batch batch' := by
  have reworded := respelt.rewordAll (f := id) (fun _ _ => rfl) fewer
  rwa [rewordAll_id, rewordAll_id] at reworded

theorem Respelt.ofCommand (respelt : command.Respelt allowed [] command') :
    (Frame.ofCommand command).Respelt allowed (Frame.ofCommand command') := by
  cases respelt with
  | leaf args at? spelling => exact .intro _ (.leaf args at? spelling) .none
  | loop count at? bodies => exact .intro _ (.loop count at? bodies) (.some bodies)
  | define name params at? bodies => exact .intro _ (.define name params at? bodies) .none
  | stray shown? => exact .intro _ (.stray shown?) .none

theorem AllRespelt.load (respelt : AllRespelt allowed [] batch batch') {stack stack' : List Frame}
    (below : List.Forall₂ (Frame.Respelt allowed) stack stack') :
    List.Forall₂ (Frame.Respelt allowed) (Frame.load batch stack) (Frame.load batch' stack') := by
  induction batch generalizing batch' with
  | nil =>
    cases respelt
    exact below
  | cons command batch ih =>
    cases respelt with
    | cons first rest => exact .cons first.ofCommand (ih rest)

end Command

namespace Procedure

variable {procedure procedure' : Procedure}

theorem respelt_same (procedure : Procedure) : Respelt allowed procedure procedure :=
  ⟨rfl, rfl, Command.allRespelt_same _ _⟩

/-- A call is bound alike: the arguments are put for the parameters, and these are spelled as they
were. -/
theorem Respelt.bind (respelt : Respelt allowed procedure procedure') (args : List String)
    (at? : Option Location) :
    (∃ fault, procedure.bind args at? = .error fault ∧ procedure'.bind args at? = .error fault) ∨
      ∃ body body', procedure.bind args at? = .ok body ∧ procedure'.bind args at? = .ok body' ∧
        Command.AllRespelt allowed [] body body' := by
  obtain ⟨name, params, body⟩ := procedure
  obtain ⟨name', params', body'⟩ := procedure'
  obtain ⟨rfl, rfl, bodies⟩ := respelt
  by_cases given : args = []
  · subst given
    exact Or.inr ⟨body, body', rfl, rfl, bodies.mono (List.nil_subset _)⟩
  · by_cases fits : args.length = params'.length
    · refine Or.inr ⟨_, _, bind_eq_ok_of_fits ⟨name', params', body⟩ given fits at?,
        bind_eq_ok_of_fits ⟨name', params', body'⟩ given fits at?,
        bodies.rewordAll (fun word apart => ?_) (List.nil_subset _)⟩
      exact token_of_unbound ⟨name', params', body⟩ args fun member => apart word member rfl
    · have refused : accepts ⟨name', params', body⟩ args.length = false := by
        simp [accepts, fits, given]
      exact Or.inl ⟨_, (bind_eq_error_iff ⟨name', params', body⟩ _ _ _).mpr ⟨refused, rfl⟩,
        (bind_eq_error_iff ⟨name', params', body'⟩ _ _ _).mpr ⟨refused, rfl⟩⟩

end Procedure

namespace Registry

variable {registry registry' : Registry}

theorem respelt_same (registry : Registry) : registry.Respelt allowed registry :=
  List.forall₂_same.mpr fun procedure _ => procedure.respelt_same

/-- Two spellings find the same procedure, but for the spellings in its body. -/
theorem Respelt.get? (registries : registry.Respelt allowed registry') {op op' : String}
    (same : Text.lower op' = Text.lower op) :
    Option.Rel (Procedure.Respelt allowed) (registry.get? op) (registry'.get? op') :=
  rel_get? Procedure.Respelt.name_eq registries same

theorem Respelt.define (registries : registry.Respelt allowed registry') (name : String)
    {params : List String} {body body' : List Command}
    (bodies : Command.AllRespelt allowed params body body') :
    (registry.define name params body).Respelt allowed (registry'.define name params body') :=
  forall₂_put Procedure.Respelt.name_eq registries ⟨rfl, rfl, bodies⟩

theorem Respelt.defineAll {batch batch' : List Command}
    (registries : registry.Respelt allowed registry')
    (respelt : Command.AllRespelt allowed [] batch batch') :
    (registry.defineAll batch).Respelt allowed (registry'.defineAll batch') := by
  induction batch generalizing batch' registry registry' with
  | nil =>
    cases respelt
    exact registries
  | cons command batch ih =>
    cases respelt with
    | cons first rest =>
      cases first with
      | define name params at? bodies =>
        rw [List.append_nil] at bodies
        have later := ih (registries.define name bodies) rest
        exact later
      | _ =>
        have later := ih registries rest
        exact later

end Registry

namespace Value

/-- A loose command stands for the same command in any spelling of its operator. -/
theorem looseCommand?_of_lower {op op' : String} (same : Text.lower op' = Text.lower op)
    (args : List Value) : looseCommand? (.text op' :: args) = looseCommand? (.text op :: args) := by
  have lowered : Text.lower (Text.strip op') = Text.lower (Text.strip op) := by
    rw [Text.lower_strip, Text.lower_strip, same]
  have blank : Text.strip op' = "" ↔ Text.strip op = "" := by
    rw [Text.strip_eq_empty_iff, Text.strip_eq_empty_iff, ← Text.words_lower_eq_nil_iff, same,
      Text.words_lower_eq_nil_iff]
  simp only [looseCommand?, blank, lowered]

theorem Respelt.command? {value value' : Value} (respelt : value.Respelt allowed value')
    {command : Command} (stands : value.command? = some command) :
    ∃ command', value'.command? = some command' ∧ command.Respelt allowed [] command' := by
  cases respelt with
  | command respelt =>
    cases respelt with
    | stray => simp [Value.command?] at stands
    | leaf args at? spelling =>
      obtain rfl := Option.some.inj stands
      exact ⟨_, rfl, .leaf args at? spelling⟩
    | loop count at? bodies =>
      obtain rfl := Option.some.inj stands
      exact ⟨_, rfl, .loop count at? bodies⟩
    | define name params at? bodies =>
      obtain rfl := Option.some.inj stands
      exact ⟨_, rfl, .define name params at? bodies⟩
  | list args lowered =>
    exact ⟨_, (looseCommand?_of_lower lowered args).trans stands, Command.respelt_same command⟩
  | tuple args lowered =>
    exact ⟨_, (looseCommand?_of_lower lowered args).trans stands, Command.respelt_same command⟩

end Value

/-- The spellings that are allowed make no difference to primitives. -/
def Primitive.Ignores (allowed : String → String → Prop) : Prop :=
  ∀ op op', allowed op op' → Text.lower op' = Text.lower op →
    Primitive.ofWord? op' = Primitive.ofWord? op

namespace Scheduler

theorem respelt_same {s : Scheduler} (unobserved : s.observers = [])
    (plain : s.settings.animate = false) : s.Respelt allowed s where
  unobserved := unobserved
  plain := plain
  settings_eq := rfl
  observers_eq := rfl
  phase_eq := rfl
  live_eq := rfl
  cycle_eq := rfl
  steps_eq := rfl
  callbacks_eq := rfl
  generation_eq := rfl
  timers_eq := rfl
  calls_eq := rfl
  kinds_eq := rfl
  pending := Command.allRespelt_same _ _
  stack := List.forall₂_same.mpr fun frame _ => by
    obtain ⟨command, iteration?, pending?⟩ := frame
    refine .intro iteration? (Command.respelt_same command) ?_
    cases pending? with
    | none => exact .none
    | some body => exact .some (Command.allRespelt_same _ body)
  registry := s.registry.respelt_same

namespace Respelt

variable {s t : Scheduler}

theorem recordable_iff (same : s.Respelt allowed t) : t.Recordable ↔ s.Recordable := by
  rw [Scheduler.recordable_iff, Scheduler.recordable_iff, same.settings_eq]
  have stacked := same.stack
  generalize s.stack = stack at stacked
  generalize t.stack = stack' at stacked
  induction stacked with
  | nil => exact Iff.rfl
  | cons first _ ih =>
    obtain ⟨iteration?, respelt, pending⟩ := first
    rw [List.forall_mem_cons, List.forall_mem_cons]
    refine and_congr ?_ ih
    rw [Settings.Writes, Settings.Writes, ← Option.isSome_iff_ne_none,
      ← Option.isSome_iff_ne_none, respelt.describe?_isSome]

theorem enter (same : s.Respelt allowed t) (event event' : StepEvent) (at? at?' : Option Location)
    (stack? stack?' : Option (List String)) :
    (s.enter event at? stack?).Respelt allowed (t.enter event' at?' stack?') :=
  { same with }

theorem complete (same : s.Respelt allowed t) (event event' : StepEvent)
    (at? at?' : Option Location) :
    (s.complete event at?).1.Respelt allowed (t.complete event' at?').1 ∧
      (s.complete event at?).2.Respelt (t.complete event' at?').2 := by
  rcases s.complete_cases event at? with ⟨stack?, recorded, completed⟩ | ⟨unrecordable, completed⟩
  · obtain ⟨stack?', recorded'⟩ := same.recordable_iff.mpr ⟨stack?, recorded⟩
    rw [completed, complete_of_snapshot recorded']
    exact ⟨same.enter event event' at? at?' stack? stack?', .answer true⟩
  · rw [completed, complete_of_unrecordable (same.recordable_iff.not.mpr unrecordable)]
    exact ⟨same, .fail _⟩

theorem lay (same : s.Respelt allowed t) {stack stack' : List Frame}
    (stacked : List.Forall₂ (Frame.Respelt allowed) stack stack') :
    (s.lay stack).Respelt allowed (t.lay stack') :=
  { same with stack := stacked }

theorem count (same : s.Respelt allowed t) : s.count.Respelt allowed t.count :=
  { same with steps_eq := congrArg (· + 1) same.steps_eq }

theorem stop (same : s.Respelt allowed t) : s.stop.Respelt allowed t.stop :=
  { same with live_eq := rfl }

theorem ask (same : s.Respelt allowed t) (call : Call) :
    (s.ask call).Respelt allowed (t.ask call) :=
  { same with calls_eq := congrArg (call :: ·) same.calls_eq }

theorem expire (same : s.Respelt allowed t) (position : Nat) :
    Scheduler.Respelt allowed { s with timers := s.timers.eraseIdx position }
      { t with timers := t.timers.eraseIdx position } :=
  { same with timers_eq := congrArg (·.eraseIdx position) same.timers_eq }

theorem accept (same : s.Respelt allowed t) {batch batch' : List Command}
    (batches : Command.AllRespelt allowed [] batch batch') (callback? : Option Nat) :
    (s.accept batch callback?).Respelt allowed (t.accept batch' callback?) :=
  { same with
    callbacks_eq := congrArg (· ++ callback?.toList) same.callbacks_eq
    pending := same.pending.append batches.filter
    registry := same.registry.defineAll batches }

theorem beginCycle (same : s.Respelt allowed t) : s.beginCycle.Respelt allowed t.beginCycle :=
  { same with
    phase_eq := rfl
    live_eq := rfl
    cycle_eq := congrArg (· + 1) same.cycle_eq
    steps_eq := rfl
    generation_eq := congrArg (· + 1) same.generation_eq }

theorem endCycle (same : s.Respelt allowed t) (phase : Phase) :
    (s.endCycle phase).1.Respelt allowed (t.endCycle phase).1 :=
  { same with
    phase_eq := rfl
    live_eq := rfl
    callbacks_eq := rfl
    generation_eq := congrArg (· + 1) same.generation_eq
    pending := .nil
    stack := .nil }

theorem reportWith (same : s.Respelt allowed t) {fault fault' : Fault}
    (alike : fault'.cause.kind = fault.cause.kind) (stack? stack?' : Option (List String)) :
    (s.reportWith fault stack?).1.Respelt allowed (t.reportWith fault' stack?').1 := by
  have newest : (t.cycle, fault'.cause.kind) = (s.cycle, fault.cause.kind) := by
    rw [same.cycle_eq, alike]
  have kinds_eq : (t.reportWith fault' stack?').1.kinds = (s.reportWith fault stack?).1.kinds :=
    congrArg₂ List.cons newest same.kinds_eq
  exact { same with kinds_eq := kinds_eq }

theorem leave (same : s.Respelt allowed t) {queue queue' : CommandQueue}
    (queued : Command.AllRespelt allowed [] queue.pending queue'.pending) :
    (s.leave queue).Respelt allowed (t.leave queue') :=
  { same with pending := queued }

theorem define (same : s.Respelt allowed t) (name : String) {params : List String}
    {body body' : List Command} (bodies : Command.AllRespelt allowed params body body') :
    (s.define name params body).Respelt allowed (t.define name params body') :=
  { same with registry := same.registry.define name bodies }

/-- An operator in another spelling is carried out alike. -/
theorem operate (ignores : Primitive.Ignores allowed) (same : s.Respelt allowed t)
    {op op' : String} (spelling : Command.Spelling allowed [] op op') (args : List String)
    (at? : Option Location) :
    (s.operate op args at?).1.Respelt allowed (t.operate op' args at?).1 ∧
      (s.operate op args at?).2.Respelt (t.operate op' args at?).2 := by
  have lookup := same.registry.get? spelling.lower_eq
  unfold Scheduler.operate
  cases found : s.registry.get? op with
  | some procedure =>
    rw [found] at lookup
    cases lookup' : t.registry.get? op' with
    | none =>
      rw [lookup'] at lookup
      nomatch lookup
    | some procedure' =>
      rw [lookup'] at lookup
      cases lookup with
      | some procedures =>
        dsimp only
        rcases procedures.bind args at? with ⟨fault, error, error'⟩ | ⟨body, body', ok, ok', bodies⟩
        · rw [error, error']
          exact ⟨same, .report rfl⟩
        · rw [ok, ok']
          exact (same.lay (bodies.load same.stack)).complete _ _ _ _
  | none =>
    rw [found] at lookup
    cases lookup' : t.registry.get? op' with
    | some procedure' =>
      rw [lookup'] at lookup
      nomatch lookup
    | none =>
      have primitives : Primitive.ofWord? op' = Primitive.ofWord? op := by
        cases spelling with
        | same => rfl
        | anew allowed lowered _ => exact ignores _ _ allowed lowered
      dsimp only
      rw [primitives]
      cases Primitive.ofWord? op with
      | none => exact ⟨same, .report rfl⟩
      | some primitive =>
        dsimp only
        cases primitive.calls args with
        | error cause => exact ⟨same, .report rfl⟩
        | ok calls => exact ⟨same, .draw primitive calls⟩

theorem advance (ignores : Primitive.Ignores allowed) (same : s.Respelt allowed t)
    {frame frame' : Frame} (frames : frame.Respelt allowed frame') {below below' : List Frame}
    (stacked : List.Forall₂ (Frame.Respelt allowed) below below') :
    (s.advance frame below).1.Respelt allowed (t.advance frame' below').1 ∧
      (s.advance frame below).2.Respelt (t.advance frame' below').2 := by
  obtain @⟨command, command', iteration?, pending?, pending?', respelt, pending⟩ := frames
  have laid := same.lay stacked
  cases respelt with
  | leaf args at? spelling => exact laid.operate ignores spelling args at?
  | loop count at? bodies =>
    unfold Scheduler.advance
    dsimp only
    cases iteration? with
    | none => exact ⟨same, .fail _⟩
    | some iteration =>
      cases pending with
      | none => exact ⟨same, .fail _⟩
      | some rounds =>
        dsimp only
        split
        · have again := Frame.Respelt.intro (some (iteration + 1)) (.loop count at? bodies)
            (.some rounds)
          exact (same.lay (rounds.load (.cons again stacked))).complete _ _ _ _
        · exact laid.complete _ _ _ _
  | define name params at? bodies =>
    rw [List.append_nil] at bodies
    exact (laid.define name bodies).complete _ _ _ _
  | stray shown? => exact ⟨laid, .fail _⟩

/-- Where nothing is being carried out the next command is taken up, if there is one. -/
theorem step_of_empty (same : s.Respelt allowed t) (running : s.phase = .running)
    (live : s.live = true) (empty : s.stack = []) (empty' : t.stack = []) :
    s.step.1.Respelt allowed t.step.1 ∧ s.step.2.Respelt t.step.2 := by
  have running' := same.phase_eq.trans running
  have live' := same.live_eq.trans live
  have queued := same.pending
  cases waiting : s.queue.pending with
  | nil =>
    rw [waiting] at queued
    generalize waiting' : t.queue.pending = pending' at queued
    cases queued
    rw [step_of_nothing running live empty (by simp [CommandQueue.next?, waiting]),
      step_of_nothing running' live' empty' (by simp [CommandQueue.next?, waiting'])]
    exact ⟨same.count, .halt _⟩
  | cons command rest =>
    rw [waiting] at queued
    generalize waiting' : t.queue.pending = pending' at queued
    cases queued with
    | @cons _ _ command' _ rest' first others =>
      have taken : s.queue.next? = some (command, ⟨rest, s.queue.cursor + 1⟩) := by
        simp [CommandQueue.next?, waiting]
      have taken' : t.queue.next? = some (command', ⟨rest', t.queue.cursor + 1⟩) := by
        simp [CommandQueue.next?, waiting']
      have left : (s.leave ⟨rest, s.queue.cursor + 1⟩).Respelt allowed
          (t.leave ⟨rest', t.queue.cursor + 1⟩) := same.leave others
      rw [step_of_waiting running live empty taken, step_of_waiting running' live' empty' taken']
      exact (left.count.lay (.cons first.ofCommand .nil)).complete _ _ _ _

/-- A step is taken alike. -/
theorem step (ignores : Primitive.Ignores allowed) (same : s.Respelt allowed t) :
    s.step.1.Respelt allowed t.step.1 ∧ s.step.2.Respelt t.step.2 := by
  by_cases running : s.phase = .running
  · have running' := same.phase_eq.trans running
    cases live : s.live with
    | false =>
      rw [step_of_unlive running live, step_of_unlive running' (same.live_eq.trans live)]
      exact ⟨same, .halt _⟩
    | true =>
      have live' := same.live_eq.trans live
      have stacked := same.stack
      cases frames : s.stack with
      | cons frame below =>
        rw [frames] at stacked
        obtain ⟨frame', below', first, rest, frames'⟩ := List.forall₂_cons_left_iff.mp stacked
        rw [step_of_frame running live frames, step_of_frame running' live' frames']
        exact same.count.advance ignores first rest
      | nil =>
        rw [frames] at stacked
        exact same.step_of_empty running live frames (List.forall₂_nil_left_iff.mp stacked)
  · rw [step_of_rest running, step_of_rest (same.phase_eq ▸ running)]
    exact ⟨same, .answer false⟩

end Respelt

end Scheduler

end Turtle
