import Turtle.Proofs.Likeness
import Turtle.Proofs.Registries
import Turtle.Proofs.WordForWord

/-!
# Twins

Two procedures of one name are twins if they bind all calls that have arguments alike.  Here two
schedulers are compared of which one has a procedure where the other one has its twin: in the
registry, and in definitions that wait or are being carried out.  As long as the procedure is not
called without arguments they do alike, step by step.
-/

set_option autoImplicit false

namespace Turtle

/-- Two procedures of one name bind the same for every call with arguments. -/
structure Procedure.Twins (twin twin' : Procedure) : Prop where
  name_eq : twin'.name = twin.name
  bind_eq : ∀ args : List String, args ≠ [] → ∀ at? : Option Location,
    twin'.bind args at? = twin.bind args at?

namespace Command

/-- Definitions of the first procedure may have become definitions of the other one, in loops and in
other definitions too.  The parameters of these are no words of the twins, so that a call around the
twins leaves them as they are. -/
inductive Swapped (twin twin' : Procedure) : Command → Command → Prop where
  | same (command : Command) : Swapped twin twin' command command
  | loop (count : Int) {body body' : List Command} (at? : Option Location) :
    List.Forall₂ (Swapped twin twin') body body' →
      Swapped twin twin' (.loop count body at?) (.loop count body' at?)
  | swap {name : String} (at? : Option Location) : Text.lower name = twin.name →
      Swapped twin twin' (.define name twin.params twin.body at?)
        (.define name twin'.params twin'.body at?)
  | within (name : String) {params : List String} {body body' : List Command}
    (at? : Option Location) :
    (∀ param ∈ params, param ∉ wordsOfAll twin.body ∧ param ∉ wordsOfAll twin'.body) →
    List.Forall₂ (Swapped twin twin') body body' →
      Swapped twin twin' (.define name params body at?) (.define name params body' at?)

abbrev AllSwapped (twin twin' : Procedure) : List Command → List Command → Prop :=
  List.Forall₂ (Swapped twin twin')

end Command

/-- The other procedure may have taken the place of the first one, as such or in a body. -/
inductive Procedure.Swapped (twin twin' : Procedure) : Procedure → Procedure → Prop where
  | same (procedure : Procedure) : Swapped twin twin' procedure procedure
  | swap : Swapped twin twin' twin twin'
  | within (name : String) {params : List String} {body body' : List Command} :
    (∀ param ∈ params,
      param ∉ Command.wordsOfAll twin.body ∧ param ∉ Command.wordsOfAll twin'.body) →
    Command.AllSwapped twin twin' body body' →
      Swapped twin twin' ⟨name, params, body⟩ ⟨name, params, body'⟩

/-- Frames of commands in which definitions have been swapped. -/
inductive Frame.Swapped (twin twin' : Procedure) : Frame → Frame → Prop where
  | intro {command command' : Command} (iteration? : Option Nat)
    {pending? pending?' : Option (List Command)} :
    command.Swapped twin twin' command' →
      Option.Rel (Command.AllSwapped twin twin') pending? pending?' →
      Swapped twin twin' ⟨command, iteration?, pending?⟩ ⟨command', iteration?, pending?'⟩

def Registry.Swapped (twin twin' : Procedure) (registry registry' : Registry) : Prop :=
  List.Forall₂ (Procedure.Swapped twin twin') registry.procedures registry'.procedures

variable {twin twin' : Procedure}

namespace Command

variable {command command' : Command} {batch batch' : List Command}

theorem Swapped.describe?_eq (swapped : command.Swapped twin twin' command') :
    command'.describe? = command.describe? := by
  cases swapped <;> rfl

theorem Swapped.location?_eq (swapped : command.Swapped twin twin' command') :
    command'.location? = command.location? := by
  cases swapped <;> rfl

theorem Swapped.isDefinition_eq (swapped : command.Swapped twin twin' command') :
    command'.isDefinition = command.isDefinition := by
  cases swapped <;> rfl

theorem allSwapped_same (commands : List Command) : AllSwapped twin twin' commands commands :=
  List.forall₂_same.mpr fun command _ => .same command

theorem Swapped.ofCommand (swapped : command.Swapped twin twin' command') :
    (Frame.ofCommand command).Swapped twin twin' (Frame.ofCommand command') := by
  cases swapped with
  | same =>
    cases command with
    | loop count body at? => exact .intro _ (.same _) (.some (allSwapped_same body))
    | _ => exact .intro _ (.same _) .none
  | loop count at? body => exact .intro _ (.loop count at? body) (.some body)
  | swap at? named => exact .intro _ (.swap at? named) .none
  | within name at? apart body => exact .intro _ (.within name at? apart body) .none

theorem AllSwapped.load (swapped : AllSwapped twin twin' batch batch') {stack stack' : List Frame}
    (below : List.Forall₂ (Frame.Swapped twin twin') stack stack') :
    List.Forall₂ (Frame.Swapped twin twin') (Frame.load batch stack)
      (Frame.load batch' stack') := by
  induction swapped with
  | nil => exact below
  | cons first _ ih => exact .cons first.ofCommand ih

theorem AllSwapped.filter (swapped : AllSwapped twin twin' batch batch') :
    AllSwapped twin twin' (batch.filter fun command => !command.isDefinition)
      (batch'.filter fun command => !command.isDefinition) := by
  induction swapped with
  | nil => exact .nil
  | @cons command command' batch batch' first _ ih =>
    have same := first.isDefinition_eq
    cases definition : command.isDefinition with
    | true =>
      rw [definition] at same
      rw [List.filter_cons_of_neg (by simp [definition]), List.filter_cons_of_neg (by simp [same])]
      exact ih
    | false =>
      rw [definition] at same
      rw [List.filter_cons_of_pos (by simp [definition]), List.filter_cons_of_pos (by simp [same])]
      exact .cons first ih

/-- Words that the twins do not have can be replaced on both sides. -/
theorem AllSwapped.rewordAll {f : String → String}
    (fixed : ∀ word ∈ wordsOfAll twin.body, f word = word)
    (fixed' : ∀ word ∈ wordsOfAll twin'.body, f word = word)
    (swapped : AllSwapped twin twin' batch batch') :
    AllSwapped twin twin' (rewordAll f batch) (Command.rewordAll f batch') := by
  induction batch using induction_on_bodies generalizing batch' with
  | nil =>
    cases swapped
    exact .nil
  | cons command rest ihBody ihRest =>
    obtain ⟨command', rest', first, others, rfl⟩ := List.forall₂_cons_left_iff.mp swapped
    refine .cons ?_ (ihRest others)
    cases first with
    | same => exact .same _
    | loop count at? bodies => exact .loop count at? (ihBody bodies)
    | swap at? named =>
      rw [reword, reword, rewordAll_of_stays fixed, rewordAll_of_stays fixed']
      exact .swap at? named
    | within name at? apart bodies => exact .within name at? apart (ihBody bodies)

end Command

namespace Procedure

variable {procedure procedure' : Procedure} (twins : twin.Twins twin')
include twins

theorem Swapped.name_eq (swapped : Swapped twin twin' procedure procedure') :
    procedure'.name = procedure.name := by
  cases swapped with
  | same => rfl
  | swap => exact twins.name_eq
  | within => rfl

/-- A call is bound alike, unless the first twin is called without arguments. -/
theorem Swapped.bind (swapped : Swapped twin twin' procedure procedure') {args : List String}
    (spared : args = [] → procedure ≠ twin) (at? : Option Location) :
    (∃ fault, procedure.bind args at? = .error fault ∧ procedure'.bind args at? = .error fault) ∨
      ∃ body body', procedure.bind args at? = .ok body ∧ procedure'.bind args at? = .ok body' ∧
        Command.AllSwapped twin twin' body body' := by
  have alike : procedure'.bind args at? = procedure.bind args at? →
      (∃ fault, procedure.bind args at? = .error fault ∧
        procedure'.bind args at? = .error fault) ∨
      ∃ body body', procedure.bind args at? = .ok body ∧ procedure'.bind args at? = .ok body' ∧
        Command.AllSwapped twin twin' body body' := by
    intro same
    rw [same]
    cases procedure.bind args at? with
    | error fault => exact Or.inl ⟨fault, rfl, rfl⟩
    | ok body => exact Or.inr ⟨body, body, rfl, rfl, Command.allSwapped_same body⟩
  cases swapped with
  | same => exact alike rfl
  | swap => exact alike (twins.bind_eq args (fun none => spared none rfl) at?)
  | @within name params body body' apart bodies =>
    by_cases given : args = []
    · subst given
      exact Or.inr ⟨body, body', rfl, rfl, bodies⟩
    · by_cases fits : args.length = params.length
      · refine Or.inr ⟨_, _, bind_eq_ok_of_fits ⟨name, params, body⟩ given fits at?,
          bind_eq_ok_of_fits ⟨name, params, body'⟩ given fits at?, bodies.rewordAll ?_ ?_⟩
        · intro word listed
          exact token_of_unbound _ args fun member => (apart word member).1 listed
        · intro word listed
          exact token_of_unbound _ args fun member => (apart word member).2 listed
      · have refused : accepts ⟨name, params, body⟩ args.length = false := by
          simp [accepts, fits, given]
        exact Or.inl ⟨_, (bind_eq_error_iff ⟨name, params, body⟩ _ _ _).mpr ⟨refused, rfl⟩,
          (bind_eq_error_iff ⟨name, params, body'⟩ _ _ _).mpr ⟨refused, rfl⟩⟩

end Procedure

theorem Frame.Swapped.describeAll?_eq {stack stack' : List Frame}
    (swapped : List.Forall₂ (Frame.Swapped twin twin') stack stack') :
    describeAll? stack' = describeAll? stack := by
  induction swapped with
  | nil => rfl
  | cons first _ ih =>
    obtain ⟨iteration?, command, pending⟩ := first
    rw [describeAll?, describeAll?, ih, command.describe?_eq]

namespace Registry

variable {procedure procedure' : Procedure} {registry registry' : Registry}

section Twins

variable (twins : twin.Twins twin')
include twins

theorem Swapped.put (registries : registry.Swapped twin twin' registry')
    (swapped : Procedure.Swapped twin twin' procedure procedure') :
    Swapped twin twin' ⟨put procedure registry.procedures⟩
      ⟨put procedure' registry'.procedures⟩ :=
  forall₂_put (fun swapped => swapped.name_eq twins) registries swapped

theorem procedureOf_swapped {name name' : String} {params params' : List String}
    {body body' : List Command} {at? at?' : Option Location}
    (swapped : Command.Swapped twin twin' (.define name params body at?)
      (.define name' params' body' at?')) :
    Procedure.Swapped twin twin' (procedureOf name params body)
      (procedureOf name' params' body') := by
  cases swapped with
  | same => exact .same _
  | swap _ named =>
    have first : procedureOf name twin.params twin.body = twin := by rw [procedureOf, named]
    have other : procedureOf name twin'.params twin'.body = twin' := by
      rw [procedureOf, named, ← twins.name_eq]
    rw [first, other]
    exact .swap
  | within _ _ apart bodies => exact .within _ apart bodies

/-- A name finds the same procedure, or the twins, or procedures with the twins in their bodies. -/
theorem Swapped.get? (registries : registry.Swapped twin twin' registry') (name : String) :
    Option.Rel (Procedure.Swapped twin twin') (registry.get? name) (registry'.get? name) :=
  rel_get? (fun swapped => swapped.name_eq twins) registries rfl

theorem Swapped.defineAll {batch batch' : List Command}
    (registries : registry.Swapped twin twin' registry')
    (swapped : Command.AllSwapped twin twin' batch batch') :
    (registry.defineAll batch).Swapped twin twin' (registry'.defineAll batch') := by
  induction swapped generalizing registry registry' with
  | nil => exact registries
  | @cons command _ _ _ first _ ih =>
    cases first with
    | same =>
      cases command with
      | define name params body at? => exact ih (registries.put twins (.same _))
      | _ => exact ih registries
    | loop count at? body => exact ih registries
    | swap at? named =>
      exact ih (registries.put twins (procedureOf_swapped twins (.swap at? named)))
    | within name at? apart bodies =>
      exact ih (registries.put twins (procedureOf_swapped twins (.within name at? apart bodies)))

end Twins

end Registry

namespace Scheduler

/-- A scheduler with other commands and procedures. -/
def recast (s : Scheduler) (queue : CommandQueue) (stack : List Frame) (registry : Registry) :
    Scheduler :=
  { s with queue := queue, stack := stack, registry := registry }

/-- Two schedulers differ only in that definitions of the first procedure have become definitions of
the other one. -/
inductive Swapped (twin twin' : Procedure) (s : Scheduler) : Scheduler → Prop where
  | intro {pending : List Command} {stack : List Frame} {registry : Registry} :
    Command.AllSwapped twin twin' s.queue.pending pending →
      List.Forall₂ (Frame.Swapped twin twin') s.stack stack →
      s.registry.Swapped twin twin' registry →
      Swapped twin twin' s (s.recast ⟨pending, s.queue.cursor⟩ stack registry)

/-- The word of a leaf without arguments on top of the stack. -/
def bareWord? (s : Scheduler) : Option String :=
  match s.stack with
  | ⟨.leaf op [] _, _, _⟩ :: _ => some op
  | _ => none

/-- The next step does not call a procedure without arguments. -/
def Spares (procedure : Procedure) (s : Scheduler) : Prop :=
  s.phase = .running → s.live = true →
    ∀ op, s.bareWord? = some op → s.registry.get? op ≠ some procedure

namespace Swapped

variable {s t : Scheduler}

/-- What does not depend on commands and procedures is the same. -/
theorem read {α : Type} {f : Scheduler → α} (swapped : s.Swapped twin twin' t)
    (unseen : ∀ queue stack registry, f (s.recast queue stack registry) = f s) : f t = f s := by
  obtain @⟨pending, stack, registry, _, _, _⟩ := swapped
  exact unseen _ stack registry

/-- What has nothing to do with commands and procedures makes no difference. -/
theorem change {f : Scheduler → Scheduler} (swapped : s.Swapped twin twin' t)
    (unseen : ∀ queue stack registry,
      f (s.recast queue stack registry) = (f s).recast queue stack registry)
    (queue_eq : (f s).queue = s.queue) (stack_eq : (f s).stack = s.stack)
    (registry_eq : (f s).registry = s.registry) : (f s).Swapped twin twin' (f t) := by
  obtain ⟨pending, stack, registry⟩ := swapped
  rw [unseen, ← queue_eq]
  exact .intro (queue_eq ▸ pending) (stack_eq ▸ stack) (registry_eq ▸ registry)

theorem phase_eq (swapped : s.Swapped twin twin' t) : t.phase = s.phase :=
  swapped.read fun _ _ _ => rfl

theorem live_eq (swapped : s.Swapped twin twin' t) : t.live = s.live :=
  swapped.read fun _ _ _ => rfl

theorem journal_eq (swapped : s.Swapped twin twin' t) : t.journal = s.journal :=
  swapped.read fun _ _ _ => rfl

theorem timers_eq (swapped : s.Swapped twin twin' t) : t.timers = s.timers :=
  swapped.read fun _ _ _ => rfl

theorem observersOf_eq (swapped : s.Swapped twin twin' t) (event : Event) :
    t.observersOf event = s.observersOf event :=
  swapped.read (f := (·.observersOf event)) fun _ _ _ => rfl

theorem stack (swapped : s.Swapped twin twin' t) :
    List.Forall₂ (Frame.Swapped twin twin') s.stack t.stack := by
  cases swapped
  assumption

theorem registry (swapped : s.Swapped twin twin' t) :
    s.registry.Swapped twin twin' t.registry := by
  cases swapped
  assumption

/-- The stacks are the same in short. -/
theorem snapshot_eq (swapped : s.Swapped twin twin' t) : t.snapshot = s.snapshot := by
  have shown := Frame.Swapped.describeAll?_eq (List.rel_reverse swapped.stack)
  have settings_eq : t.settings = s.settings := swapped.read fun _ _ _ => rfl
  rw [snapshot, snapshot, settings_eq, shown]

theorem recordable_iff (swapped : s.Swapped twin twin' t) : t.Recordable ↔ s.Recordable := by
  rw [Recordable, Recordable, swapped.snapshot_eq]

theorem enter (swapped : s.Swapped twin twin' t) (event : StepEvent) (at? : Option Location)
    (stack? : Option (List String)) :
    (s.enter event at? stack?).Swapped twin twin' (t.enter event at? stack?) :=
  swapped.change (f := (·.enter event at? stack?)) (fun _ _ _ => rfl) rfl rfl rfl

theorem complete (swapped : s.Swapped twin twin' t) (event : StepEvent) (at? : Option Location) :
    (s.complete event at?).1.Swapped twin twin' (t.complete event at?).1 ∧
      (t.complete event at?).2 = (s.complete event at?).2 := by
  rw [Scheduler.complete, Scheduler.complete, log, log, swapped.snapshot_eq]
  cases s.snapshot with
  | ok stack? => exact ⟨swapped.enter event at? stack?, rfl⟩
  | error failure => exact ⟨swapped, rfl⟩

theorem lay (swapped : s.Swapped twin twin' t) {stack stack' : List Frame}
    (stacked : List.Forall₂ (Frame.Swapped twin twin') stack stack') :
    (s.lay stack).Swapped twin twin' (t.lay stack') := by
  obtain ⟨pending, _, registry⟩ := swapped
  exact .intro (s := s.lay stack) pending stacked registry

theorem count (swapped : s.Swapped twin twin' t) : s.count.Swapped twin twin' t.count :=
  swapped.change (fun _ _ _ => rfl) rfl rfl rfl

theorem stop (swapped : s.Swapped twin twin' t) : s.stop.Swapped twin twin' t.stop :=
  swapped.change (fun _ _ _ => rfl) rfl rfl rfl

theorem ask (swapped : s.Swapped twin twin' t) (call : Call) :
    (s.ask call).Swapped twin twin' (t.ask call) :=
  swapped.change (f := (·.ask call)) (fun _ _ _ => rfl) rfl rfl rfl

theorem attach (swapped : s.Swapped twin twin' t) (event : Event) (observer : Nat) :
    (s.attach event observer).Swapped twin twin' (t.attach event observer) :=
  swapped.change (f := (·.attach event observer)) (fun _ _ _ => rfl) rfl rfl rfl

theorem addReport (swapped : s.Swapped twin twin' t) (fault : Fault) :
    (s.addReport fault).Swapped twin twin' (t.addReport fault) :=
  swapped.change (f := (·.addReport fault)) (fun _ _ _ => rfl) rfl rfl rfl

theorem arm (swapped : s.Swapped twin twin' t) : s.arm.Swapped twin twin' t.arm :=
  swapped.change (fun _ _ _ => rfl) rfl rfl rfl

theorem expire (swapped : s.Swapped twin twin' t) (position : Nat) :
    Scheduler.Swapped twin twin' { s with timers := s.timers.eraseIdx position }
      { t with timers := t.timers.eraseIdx position } :=
  swapped.change (f := fun s => { s with timers := s.timers.eraseIdx position })
    (fun _ _ _ => rfl) rfl rfl rfl

theorem beginCycle (swapped : s.Swapped twin twin' t) :
    s.beginCycle.Swapped twin twin' t.beginCycle :=
  swapped.change (fun _ _ _ => rfl) rfl rfl rfl

theorem prime (swapped : s.Swapped twin twin' t) : s.prime.Swapped twin twin' t.prime :=
  swapped.change (fun _ _ _ => rfl) rfl rfl rfl

theorem enqueue (swapped : s.Swapped twin twin' t) {commands commands' : List Command}
    (others : Command.AllSwapped twin twin' commands commands') :
    (s.enqueue commands).Swapped twin twin' (t.enqueue commands') := by
  obtain ⟨pending, stack, registry⟩ := swapped
  exact .intro (s := s.enqueue commands) (List.rel_append pending others) stack registry

theorem endCycle (swapped : s.Swapped twin twin' t) (phase : Phase) :
    (s.endCycle phase).1.Swapped twin twin' (t.endCycle phase).1 ∧
      (t.endCycle phase).2 = (s.endCycle phase).2 := by
  obtain ⟨pending, stack, registry⟩ := swapped
  exact ⟨.intro (s := (s.endCycle phase).1) .nil .nil registry, rfl⟩

theorem reportWith (swapped : s.Swapped twin twin' t) (fault : Fault)
    (stack? : Option (List String)) :
    (s.reportWith fault stack?).1.Swapped twin twin' (t.reportWith fault stack?).1 ∧
      (t.reportWith fault stack?).2 = (s.reportWith fault stack?).2 := by
  have entered := swapped.enter (.error fault.message) fault.at? stack?
  refine ⟨?_, by simp only [Scheduler.reportWith, swapped.journal_eq]⟩
  simp only [Scheduler.reportWith, swapped.journal_eq]
  exact entered.addReport _

section Twins

variable (twins : twin.Twins twin')
include twins

theorem define (swapped : s.Swapped twin twin' t) {name name' : String}
    {params params' : List String} {body body' : List Command}
    (procedures : Procedure.Swapped twin twin' (Registry.procedureOf name params body)
      (Registry.procedureOf name' params' body')) :
    (s.define name params body).Swapped twin twin' (t.define name' params' body') := by
  obtain ⟨pending, stack, registry⟩ := swapped
  exact .intro (s := s.define name params body) pending stack (registry.put twins procedures)

theorem accept (swapped : s.Swapped twin twin' t) {batch batch' : List Command}
    (batches : Command.AllSwapped twin twin' batch batch') (callback? : Option Nat) :
    (s.accept batch callback?).Swapped twin twin' (t.accept batch' callback?) := by
  obtain ⟨pending, stack, registry⟩ := swapped
  exact .intro (s := s.accept batch callback?) (List.rel_append pending batches.filter) stack
    (registry.defineAll twins batches)

theorem operate (swapped : s.Swapped twin twin' t) {op : String} {args : List String}
    {at? : Option Location} (spared : args = [] → s.registry.get? op ≠ some twin) :
    (s.operate op args at?).1.Swapped twin twin' (t.operate op args at?).1 ∧
      (t.operate op args at?).2 = (s.operate op args at?).2 := by
  have lookup := swapped.registry.get? twins op
  unfold Scheduler.operate
  cases found : s.registry.get? op with
  | some procedure =>
    rw [found] at lookup
    cases found' : t.registry.get? op with
    | none =>
      rw [found'] at lookup
      nomatch lookup
    | some procedure' =>
      rw [found'] at lookup
      cases lookup with
      | some procedures =>
        have given : args = [] → procedure ≠ twin := fun none same => spared none (same ▸ found)
        dsimp only
        rcases procedures.bind twins given at? with
          ⟨fault, error, error'⟩ | ⟨body, body', ok, ok', bodies⟩
        · rw [error, error']
          exact ⟨swapped, rfl⟩
        · rw [ok, ok', procedures.name_eq twins]
          exact (swapped.lay (bodies.load swapped.stack)).complete _ at?
  | none =>
    rw [found] at lookup
    cases found' : t.registry.get? op with
    | some procedure' =>
      rw [found'] at lookup
      nomatch lookup
    | none =>
      dsimp only
      cases Primitive.ofWord? op with
      | none => exact ⟨swapped, rfl⟩
      | some primitive =>
        dsimp only
        cases primitive.calls args with
        | error cause => exact ⟨swapped, rfl⟩
        | ok calls => exact ⟨swapped, rfl⟩

theorem advance (swapped : s.Swapped twin twin' t) {frame frame' : Frame}
    {below below' : List Frame} (frames : frame.Swapped twin twin' frame')
    (stacked : List.Forall₂ (Frame.Swapped twin twin') below below')
    (spared : ∀ {op : String} {at? : Option Location},
      frame.command = .leaf op [] at? → s.registry.get? op ≠ some twin) :
    (s.advance frame below).1.Swapped twin twin' (t.advance frame' below').1 ∧
      (t.advance frame' below').2 = (s.advance frame below).2 := by
  obtain @⟨command, command', iteration?, pending?, pending?', swap, pending⟩ := frames
  have round : ∀ (count : Int) (body body' : List Command) (at? : Option Location),
      Command.Swapped twin twin' (.loop count body at?) (.loop count body' at?) →
      (s.advance ⟨.loop count body at?, iteration?, pending?⟩ below).1.Swapped twin twin'
          (t.advance ⟨.loop count body' at?, iteration?, pending?'⟩ below').1 ∧
        (t.advance ⟨.loop count body' at?, iteration?, pending?'⟩ below').2 =
          (s.advance ⟨.loop count body at?, iteration?, pending?⟩ below).2 := by
    intro count body body' at? loop
    unfold Scheduler.advance
    dsimp only
    cases iteration? with
    | none => exact ⟨swapped, rfl⟩
    | some iteration =>
      cases pending with
      | none => exact ⟨swapped, rfl⟩
      | some bodies =>
        dsimp only
        split
        · have again := Frame.Swapped.intro (some (iteration + 1)) loop (.some bodies)
          have loaded := bodies.load (.cons again stacked)
          exact (swapped.lay loaded).complete _ at?
        · exact (swapped.lay stacked).complete _ at?
  cases swap with
  | same =>
    cases command with
    | leaf op args at? =>
      exact (swapped.lay stacked).operate twins fun none => spared (by rw [none])
    | loop count body at? => exact round count body body at? (.same _)
    | define name params body at? =>
      exact ((swapped.lay stacked).define twins (.same _)).complete _ at?
    | stray shown? => exact ⟨swapped.lay stacked, rfl⟩
  | loop count at? bodies => exact round count _ _ at? (.loop count at? bodies)
  | swap at? named =>
    have procedures := Registry.procedureOf_swapped twins (.swap at? named)
    exact ((swapped.lay stacked).define twins procedures).complete _ at?
  | within name at? apart bodies =>
    have procedures := Registry.procedureOf_swapped twins (.within name at? apart bodies)
    exact ((swapped.lay stacked).define twins procedures).complete _ at?

/-- A step that does not call the first twin without arguments leaves the same to be done. -/
theorem step (swapped : s.Swapped twin twin' t) (spared : s.Spares twin) :
    s.step.1.Swapped twin twin' t.step.1 ∧ t.step.2 = s.step.2 := by
  by_cases running : s.phase = .running
  · have running' := swapped.phase_eq.trans running
    cases live : s.live with
    | false =>
      rw [step_of_unlive running live, step_of_unlive running' (swapped.live_eq.trans live)]
      exact ⟨swapped, rfl⟩
    | true =>
      have live' := swapped.live_eq.trans live
      have stacked := swapped.stack
      cases frames : s.stack with
      | cons frame below =>
        rw [frames] at stacked
        obtain ⟨frame', below', first, rest, frames'⟩ := List.forall₂_cons_left_iff.mp stacked
        rw [step_of_frame running live frames, step_of_frame running' live' frames']
        refine swapped.count.advance twins first rest fun {op at?} leaf => ?_
        obtain ⟨command, iteration?, pending?⟩ := frame
        obtain rfl : command = .leaf op [] at? := leaf
        exact spared running live op (by rw [bareWord?, frames])
      | nil =>
        rw [frames] at stacked
        have frames' := List.forall₂_nil_left_iff.mp stacked
        obtain @⟨pending', stack', registry', queued, _, registered⟩ := swapped
        cases waiting : s.queue.pending with
        | nil =>
          rw [waiting] at queued
          obtain rfl := List.forall₂_nil_left_iff.mp queued
          rw [step_of_nothing running live frames (by simp [CommandQueue.next?, waiting]),
            step_of_nothing running' live' frames' (by rfl)]
          have queued : Command.AllSwapped twin twin' s.count.queue.pending [] := by
            rw [show s.count.queue.pending = [] from waiting]
            exact .nil
          exact ⟨.intro (s := s.count) queued (by exact frames ▸ stacked) registered, rfl⟩
        | cons command rest =>
          rw [waiting] at queued
          obtain ⟨command', rest', first, others, rfl⟩ := List.forall₂_cons_left_iff.mp queued
          rw [step_of_waiting running live frames
              (show s.queue.next? = some (command, ⟨rest, s.queue.cursor + 1⟩) by
                simp [CommandQueue.next?, waiting]),
            step_of_waiting running' live' frames'
              (show _ = some (command', ⟨rest', s.queue.cursor + 1⟩) by rfl), first.location?_eq]
          have taken : (((s.leave ⟨rest, s.queue.cursor + 1⟩).count).lay
              [Frame.ofCommand command]).Swapped twin twin'
              ((((s.recast ⟨command' :: rest', s.queue.cursor⟩ stack' registry').leave
                ⟨rest', s.queue.cursor + 1⟩).count).lay [Frame.ofCommand command']) :=
            .intro (s := ((s.leave ⟨rest, s.queue.cursor + 1⟩).count).lay [Frame.ofCommand command])
              others (.cons first.ofCommand .nil) registered
          exact taken.complete _ _
  · rw [step_of_rest running, step_of_rest (swapped.phase_eq ▸ running)]
    exact ⟨swapped, rfl⟩

end Twins

end Swapped

end Scheduler

end Turtle
