import Turtle.Proofs.Attending
import Turtle.Proofs.Completion
import Turtle.Proofs.Obliging
import Turtle.Proofs.Spellings

/-!
# Programs in another spelling

A program whose operators have been spelled anew is run beside the program as it was.  The two runs
go on turn by turn, with the same calls of the drawing and faults of the same kinds, as long as the
new spellings make no difference to primitives.  Where they do make one the two runs part: a word
for a primitive that is not in lower case is a word for nothing.
-/

set_option autoImplicit false

namespace Turtle

variable {allowed : String → String → Prop}

/-- What is left to do while nobody watches is the same, but for the leaf that is being drawn. -/
inductive Task.Respelt : Task → Task → Prop where
  | outside : Respelt (.foreign .outside) (.foreign .outside)
  | callback (id : Nat) (result : RunResult) :
    Respelt (.foreign (.callback id result)) (.foreign (.callback id result))
  | drawing (call : Call) : Respelt (.foreign (.drawing call)) (.foreign (.drawing call))
  | starting : Respelt .starting .starting
  | running : Respelt .running .running
  | rethrow (failure : Failure) : Respelt (.rethrow failure) (.rethrow failure)
  | painting (leaf leaf' : Command) (primitive : Primitive) (rest : List Call) :
    Respelt (.painting leaf primitive rest) (.painting leaf' primitive rest)
  | pausing : Respelt .pausing .pausing
  | settling (result : RunResult) (rest : List Nat) :
    Respelt (.settling result rest) (.settling result rest)
  | stepped (more : Bool) : Respelt (.stepped more) (.stepped more)

namespace Engine

inductive Respelt (allowed : String → String → Prop) : Engine → Engine → Prop where
  | intro {s t : Scheduler} {tasks tasks' : List Task} (signal : Signal) :
    s.Respelt allowed t → List.Forall₂ Task.Respelt tasks tasks' →
    Respelt allowed ⟨s, tasks, signal⟩ ⟨t, tasks', signal⟩

theorem Respelt.sched {e f : Engine} (respelt : e.Respelt allowed f) :
    e.sched.Respelt allowed f.sched := by
  cases respelt
  assumption

section Work

variable {s t : Scheduler} {tasks tasks' : List Task} (same : s.Respelt allowed t)
  (alike : List.Forall₂ Task.Respelt tasks tasks')
include same alike

theorem respelt_announce (notice notice' : Notice) :
    Respelt allowed (announce s notice tasks) (announce t notice' tasks') := by
  rw [announce_of_unobserved same.unobserved,
    announce_of_unobserved (same.observers_eq.trans same.unobserved)]
  exact .intro _ same alike

theorem respelt_report {fault fault' : Fault} (kind : fault'.cause.kind = fault.cause.kind) :
    Respelt allowed (report s fault tasks) (report t fault' tasks') := by
  by_cases recordable : s.Recordable
  · obtain ⟨stack?, recorded⟩ := recordable
    obtain ⟨stack?', recorded'⟩ := same.recordable_iff.mpr ⟨stack?, recorded⟩
    rw [report_of_unobserved same.unobserved recorded,
      report_of_unobserved (same.observers_eq.trans same.unobserved) recorded']
    exact .intro _ (same.reportWith kind stack? stack?') alike
  · rw [report_of_unrecordable recordable,
      report_of_unrecordable (same.recordable_iff.not.mpr recordable)]
    exact .intro _ same alike

theorem respelt_settle (result : RunResult) (callbacks : List Nat) :
    Respelt allowed (settle s result tasks callbacks) (settle t result tasks' callbacks) := by
  cases callbacks with
  | nil => exact .intro _ same alike
  | cons callback rest => exact .intro _ same (.cons (.callback _ _) (.cons (.settling _ _) alike))

theorem respelt_halt (phase : Phase) :
    Respelt allowed (halt s phase tasks) (halt t phase tasks') := by
  by_cases running : s.phase = .running
  · rw [halt_of_running running, halt_of_running (same.phase_eq.trans running), same.cycle_eq,
      same.steps_eq, same.callbacks_eq]
    exact respelt_announce (same.endCycle phase) (.cons (.settling _ _) alike) _ _
  · rw [halt_of_rest running, halt_of_rest (same.phase_eq ▸ running)]
    exact .intro _ same alike

theorem respelt_paint (leaf leaf' : Command) (primitive : Primitive) (calls : List Call) :
    Respelt allowed (paint s leaf primitive tasks calls)
      (paint t leaf' primitive tasks' calls) := by
  cases calls with
  | nil =>
    by_cases recordable : s.Recordable
    · obtain ⟨stack?, recorded⟩ := recordable
      obtain ⟨stack?', recorded'⟩ := same.recordable_iff.mpr ⟨stack?, recorded⟩
      rw [paint_nil_of_snapshot recorded, paint_nil_of_snapshot recorded']
      exact respelt_announce (same.enter _ _ _ _ _ _) (.cons .pausing alike) _ _
    · rw [paint_nil_of_unrecordable recordable,
        paint_nil_of_unrecordable (same.recordable_iff.not.mpr recordable)]
      exact .intro _ same alike
  | cons call rest =>
    exact .intro _ (same.ask call) (.cons (.drawing call) (.cons (.painting _ _ _ rest) alike))

theorem respelt_pause : Respelt allowed (pause s tasks) (pause t tasks') := by
  rw [pause_of_plain same.plain, pause_of_plain (same.settings_eq ▸ same.plain)]
  exact .intro _ same alike

theorem respelt_leave (manner : Manner) (task : Task) (signal : Signal) :
    Respelt allowed (perform ⟨s, task :: tasks, signal⟩ manner.leave)
      (perform ⟨t, task :: tasks', signal⟩ manner.leave) := by
  unfold Manner.leave
  cases manner.failure? with
  | none => exact .intro _ same alike
  | some failure => exact .intro _ same alike

variable (ignores : Primitive.Ignores allowed)
include ignores

theorem respelt_takeStep : Respelt allowed (takeStep s tasks) (takeStep t tasks') := by
  obtain ⟨stepped, works⟩ := same.step ignores
  unfold takeStep
  obtain ⟨next, work, found⟩ : ∃ next work, s.step = (next, work) := ⟨_, _, rfl⟩
  obtain ⟨next', work', found'⟩ : ∃ next work, t.step = (next, work) := ⟨_, _, rfl⟩
  rw [found, found'] at stepped works ⊢
  cases works with
  | answer more => exact .intro _ stepped alike
  | draw primitive calls => exact respelt_paint stepped alike _ _ primitive calls
  | report kind => exact respelt_report stepped (.cons (.stepped true) alike) kind
  | halt phase => exact respelt_halt stepped (.cons (.stepped false) alike) phase
  | fail failure => exact .intro _ stepped alike

theorem respelt_resume (timer : Timer) :
    Respelt allowed (resume s timer tasks) (resume t timer tasks') := by
  unfold resume
  rw [same.generation_eq]
  split
  · exact respelt_takeStep same (.cons .running alike) ignores
  · exact .intro _ same alike

theorem respelt_fire (position : Nat) (signal : Signal) :
    Respelt allowed (perform ⟨s, tasks, signal⟩ (.fire position))
      (perform ⟨t, tasks', signal⟩ (.fire position)) := by
  unfold perform
  dsimp only
  rw [same.timers_eq]
  cases s.timers[position]? with
  | none => exact .intro _ same alike
  | some timer =>
    have expired := same.expire position
    rw [same.timers_eq] at expired
    exact respelt_resume expired alike ignores timer

end Work

section Turns

variable {e f : Engine} {manner : Nat → Manner} (ignores : Primitive.Ignores allowed)
include ignores

/-- What is done next by the engines themselves is done alike. -/
theorem Respelt.next? (respelt : e.Respelt allowed f) :
    Option.Rel (Respelt allowed) e.next? f.next? := by
  obtain ⟨signal, same, alike⟩ := respelt
  cases alike with
  | nil => exact .none
  | cons first alike =>
    cases first
    case outside => exact .none
    case callback => exact .none
    case drawing => exact .none
    all_goals refine .some ?_
    case starting =>
      cases signal with
      | raised failure => exact .intro _ same alike
      | _ => exact respelt_takeStep same (.cons .running alike) ignores
    case running =>
      cases signal with
      | raised failure => exact respelt_halt same (.cons (.rethrow failure) alike) .cancelled
      | answered more =>
        cases more with
        | true => exact respelt_takeStep same (.cons .running alike) ignores
        | false => exact .intro _ same alike
      | _ => exact .intro _ same alike
    case rethrow => cases signal <;> exact .intro _ same alike
    case painting leaf leaf' primitive rest =>
      cases signal with
      | raised failure =>
        cases failure with
        | fault fault => exact respelt_report same (.cons (.stepped true) alike) rfl
        | _ => exact .intro _ same alike
      | _ => exact respelt_paint same alike leaf leaf' primitive rest
    case pausing =>
      cases signal with
      | raised failure => exact .intro _ same alike
      | _ => exact respelt_pause same alike
    case settling result rest =>
      cases signal with
      | raised failure => exact .intro _ same alike
      | _ => exact respelt_settle same alike result rest
    case stepped => cases signal <;> exact .intro _ same alike

/-- The environment does the same on both sides. -/
theorem Respelt.answer? (manner : Nat → Manner) (respelt : e.Respelt allowed f) :
    f.answer? manner = e.answer? manner ∧ ∀ move, e.answer? manner = some move →
      (e.perform move).Respelt allowed (f.perform move) := by
  obtain @⟨s, t, _, _, signal, same, alike⟩ := respelt
  cases alike with
  | nil => exact ⟨rfl, fun _ answered => (Option.some_ne_none _ answered.symm).elim⟩
  | cons first alike =>
    cases first with
    | outside =>
      simp only [Engine.answer?, site?, same.timers_eq, true_and]
      intro move answered
      split at answered
      · contradiction
      · obtain rfl := Option.some.inj answered
        exact respelt_fire same (.cons .outside alike) ignores 0 signal
    | callback id result =>
      refine ⟨rfl, fun move answered => ?_⟩
      obtain rfl := Option.some.inj answered
      exact .intro _ same alike
    | drawing call =>
      simp only [Engine.answer?, site?, same.calls_eq, true_and]
      intro move answered
      obtain rfl := Option.some.inj answered
      generalize manner s.calls.length = manner
      have left := respelt_leave same alike manner (.foreign (.drawing call)) signal
      cases signal with
      | called =>
        unfold Manner.move
        dsimp only
        split
        · exact .intro _ same.stop (.cons (.drawing call) alike)
        · exact left
      | _ => exact left
    | _ => exact ⟨rfl, fun _ answered => (Option.some_ne_none _ answered.symm).elim⟩

theorem Respelt.moment? (manner : Nat → Manner) (respelt : e.Respelt allowed f) :
    Option.Rel (fun m m' => m.after.Respelt allowed m'.after) (e.moment? manner)
      (f.moment? manner) := by
  have worked := respelt.next? ignores
  obtain ⟨answer_eq, performs⟩ := respelt.answer? ignores manner
  unfold Engine.moment?
  generalize e.next? = next at worked
  generalize f.next? = next' at worked
  cases worked with
  | some later => exact .some later
  | none =>
    dsimp only
    rw [answer_eq]
    cases answered : e.answer? manner with
    | none => exact .none
    | some move => exact .some (performs move answered)

/-- The two runs go on turn by turn. -/
theorem Respelt.follow (manner : Nat → Manner) (fuel : Nat) (past past' : List Moment)
    (respelt : e.Respelt allowed f) :
    (follow manner fuel past e).2.Respelt allowed (follow manner fuel past' f).2 := by
  induction fuel generalizing e f past past' with
  | zero => exact respelt
  | succ fuel ih =>
    have taken := respelt.moment? ignores manner
    unfold Engine.follow
    generalize e.moment? manner = moment at taken
    generalize f.moment? manner = moment' at taken
    cases taken with
    | none => exact respelt
    | some later => exact ih _ _ later

end Turns

/-! ## A batch by itself -/

/-- Whatever comes of a batch that is cued from outside, after so many turns. -/
def performed (manner : Nat → Manner) (fuel : Nat) (s : Scheduler) (entries : List Value)
    (callback? : Option Nat) : Scheduler :=
  (follow manner fuel [] ((atRest s).perform (.cue entries callback?))).2.sched

theorem commands_respelt {entries entries' : List Value} {batch : List Command}
    (respelt : List.Forall₂ (Value.Respelt allowed) entries entries')
    (coerced : commands entries = .ok batch) :
    ∃ batch', commands entries' = .ok batch' ∧ Command.AllRespelt allowed [] batch batch' := by
  induction respelt generalizing batch with
  | nil =>
    obtain rfl := Except.ok.inj coerced
    exact ⟨[], rfl, .nil⟩
  | @cons value value' entries entries' first _ ih =>
    rw [commands] at coerced
    cases stands : value.command? with
    | none =>
      rw [stands] at coerced
      contradiction
    | some command =>
      rw [stands] at coerced
      cases others : commands entries with
      | error failure =>
        rw [others] at coerced
        contradiction
      | ok rest =>
        rw [others] at coerced
        obtain rfl := Except.ok.inj coerced
        obtain ⟨rest', others', respelt⟩ := ih others
        obtain ⟨command', stands', first⟩ := first.command? stands
        exact ⟨command' :: rest', by rw [commands, stands', others']; rfl, .cons first respelt⟩

theorem respelt_cue {s : Scheduler} {entries entries' : List Value} {batch : List Command}
    (rests : s.phase ≠ .running) (unobserved : s.observers = [])
    (plain : s.settings.animate = false) (coerced : commands entries = .ok batch)
    (respelt : List.Forall₂ (Value.Respelt allowed) entries entries') (callback? : Option Nat) :
    ((atRest s).perform (.cue entries callback?)).Respelt allowed
      ((atRest s).perform (.cue entries' callback?)) := by
  obtain ⟨batch', coerced', batches⟩ := commands_respelt respelt coerced
  have clocked : s.settings.animate = true → s.settings.clocked = true := by simp [plain]
  have same : s.Respelt allowed s := Scheduler.respelt_same unobserved plain
  change Respelt allowed (cue s entries callback? _) (cue s entries' callback? _)
  rw [cue_of_rest rests clocked unobserved coerced, cue_of_rest rests clocked unobserved coerced']
  exact .intro _ (same.accept batches callback?).beginCycle (.cons .starting (.cons .outside .nil))

theorem ofWord?_eq_some {op : String} {primitive : Primitive}
    (found : Primitive.ofWord? op = some primitive) : Text.lower op = op := by
  have lowered : ∀ entry ∈ Primitive.table, Text.lower entry.1 = entry.1 := by decide +kernel
  obtain ⟨before, after, split, _⟩ := List.lookup_eq_some_iff.mp found
  exact lowered (op, primitive) (split ▸ List.mem_append_right _ (List.mem_cons_self ..))

/-- The faults of a leaf without arguments where nothing is defined. -/
def bareKinds : Option Primitive → List (Nat × FaultKind)
  | none => [(1, .unknownOperator)]
  | some primitive => if primitive.arity = 0 then [] else [(1, .arityMismatch)]

theorem bareKinds_some (primitive : Primitive) : bareKinds (some primitive) ≠ bareKinds none := by
  cases primitive <;> decide

theorem kinds_of_bare (op : String) :
    (performed (fun _ => ⟨false, none⟩) 2 Plays.plainStart
      [.command (.leaf op [] none)] none).kinds = bareKinds (Primitive.ofWord? op) := by
  let leaf : Command := .leaf op [] none
  let begun := (Plays.plainStart.accept [leaf] none).beginCycle
  let taken := ((begun.leave ⟨[], 1⟩).count.lay [Frame.ofCommand leaf]).enter .dequeue none none
  have first : performed (fun _ => ⟨false, none⟩) 2 Plays.plainStart [.command leaf] none =
      (takeStep taken [.running, .foreign .outside]).sched := by rfl
  have stacked : taken.stack = [Frame.ofCommand leaf] := by rfl
  have second : taken.step = (taken.count.lay []).operate op [] none :=
    (Scheduler.step_of_frame (by rfl) (by rfl) stacked).trans (by rfl)
  have undefined : (taken.count.lay []).registry.get? op = none := by rfl
  rw [first, takeStep, second, Scheduler.operate, undefined]
  cases found : Primitive.ofWord? op with
  | none => rfl
  | some primitive => cases primitive <;> rfl

/-- A batch and the same batch with some of its operators in other spellings come to the same, turn
by turn: the same calls of the drawing, and faults of the same kinds in the same order.  This holds
for all registries and all batches if and only if no spelling that is allowed leads from a word for
a primitive to a word for nothing, or back.  Loose commands may be spelled as they please. -/
theorem drawn_alike_iff (allowed : String → String → Prop) :
    (∀ (s : Scheduler) (entries entries' : List Value) (batch : List Command)
      (callback? : Option Nat) (manner : Nat → Manner) (fuel : Nat), s.phase ≠ .running →
      s.observers = [] → s.settings.animate = false → commands entries = .ok batch →
      List.Forall₂ (Value.Respelt allowed) entries entries' →
      (performed manner fuel s entries' callback?).calls =
          (performed manner fuel s entries callback?).calls ∧
        (performed manner fuel s entries' callback?).kinds =
          (performed manner fuel s entries callback?).kinds) ↔
    ∀ op op', allowed op op' → Text.lower op' = Text.lower op →
      Primitive.ofWord? op' = Primitive.ofWord? op := by
  constructor
  -- A leaf by itself, run for two turns, tells a word for a primitive from a word for nothing.
  · intro alike op op' spelling same
    have respelt : List.Forall₂ (Value.Respelt allowed) [.command (.leaf op [] none)]
        [.command (.leaf op' [] none)] :=
      .cons (.command (.leaf [] none (.anew spelling same fun _ member => nomatch member))) .nil
    obtain ⟨_, kinds_eq⟩ := alike Plays.plainStart _ _ _ none (fun _ => ⟨false, none⟩) 2
      Phase.noConfusion rfl rfl rfl respelt
    rw [kinds_of_bare, kinds_of_bare] at kinds_eq
    cases found : Primitive.ofWord? op with
    | none =>
      cases found' : Primitive.ofWord? op' with
      | none => rfl
      | some primitive =>
        rw [found, found'] at kinds_eq
        exact absurd kinds_eq (bareKinds_some primitive)
    | some primitive =>
      cases found' : Primitive.ofWord? op' with
      | none =>
        rw [found, found'] at kinds_eq
        exact absurd kinds_eq.symm (bareKinds_some primitive)
      | some primitive' =>
        rw [← found', ← found, ← ofWord?_eq_some found, ← ofWord?_eq_some found', same]
  · intro ignores s entries entries' batch callback? manner fuel rests unobserved plain coerced
      respelt
    have begun := respelt_cue rests unobserved plain coerced respelt callback?
    have same := (begun.follow ignores manner fuel [] []).sched
    exact ⟨same.calls_eq, same.kinds_eq⟩

/-- A word for a primitive that is put in upper case is a word for nothing, if it is that of a leaf;
if it is that of a loose command it lifts the pen. -/
theorem capitals_apart :
    let run (entry : Value) : Scheduler :=
      performed (fun _ => ⟨false, none⟩) 10 Plays.plainStart [entry] none
    let leaf (op : String) : Value := .command (.leaf op [] none)
    Value.Respelt (fun _ _ => True) (leaf "pu") (leaf "PU") ∧
      (run (leaf "pu")).calls = [.penUp] ∧ (run (leaf "pu")).kinds = [] ∧
      (run (leaf "PU")).calls = [] ∧ (run (leaf "PU")).kinds = [(1, .unknownOperator)] ∧
      (run (.tuple [.text "PU"])).calls = [.penUp] ∧ (run (.tuple [.text "PU"])).kinds = [] := by
  refine ⟨.command (.leaf [] none (.anew trivial (by decide +kernel) ?_)), rfl, rfl, rfl, rfl, rfl,
    rfl⟩
  exact fun _ member => nomatch member

end Engine

end Turtle
