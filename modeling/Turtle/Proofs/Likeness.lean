import Turtle.Proofs.Hosting

/-!
# Beats alike

Beats of two schedulers with two hosts come to the same if nothing that a beat looks at sets the
schedulers or the hosts apart.  Here a scheduler is compared with what some change makes of it, such
as other callbacks, further commands at the end of its queue, or pauses.
-/

set_option autoImplicit false

namespace Turtle

namespace Scheduler

def count (s : Scheduler) : Scheduler :=
  { s with steps := s.steps + 1 }

def lay (s : Scheduler) (stack : List Frame) : Scheduler :=
  { s with stack := stack }

def leave (s : Scheduler) (queue : CommandQueue) : Scheduler :=
  { s with queue := queue }

/-- A scheduler that has made some calls. -/
def drawn (s : Scheduler) (calls : List Call) : Scheduler :=
  { s with calls := calls.reverse ++ s.calls }

theorem drawn_ask (s : Scheduler) (call : Call) (rest : List Call) :
    (s.ask call).drawn rest = s.drawn (call :: rest) := by
  simp only [drawn, ask, List.reverse_cons, List.append_assoc, List.singleton_append]

/-- A scheduler for which a primitive has been drawn: its calls have been made, and it has been
entered with a stack or without one. -/
def painted (s : Scheduler) (leaf : Command) (primitive : Primitive) (calls : List Call)
    (stack? : Option (List String)) : Scheduler :=
  (s.drawn calls).enter (.primitive primitive.name) leaf.location? stack?

/-- A change of schedulers that a beat takes no notice of. -/
structure Transparent (f : Scheduler → Scheduler) : Prop where
  phase : ∀ s, (f s).phase = s.phase
  live : ∀ s, (f s).live = s.live
  stack : ∀ s, (f s).stack = s.stack
  registry : ∀ s, (f s).registry = s.registry
  observers : ∀ s, (f s).observers = s.observers
  calls : ∀ s, (f s).calls = s.calls
  snapshot : ∀ s, (f s).snapshot = s.snapshot
  enter : ∀ s event at? stack?, (f s).enter event at? stack? = f (s.enter event at? stack?)
  reportWith : ∀ s fault stack?,
    (f s).reportWith fault stack? = (f (s.reportWith fault stack?).1, (s.reportWith fault stack?).2)
  ask : ∀ s call, (f s).ask call = f (s.ask call)
  stop : ∀ s, (f s).stop = f s.stop
  define : ∀ s name params body, (f s).define name params body = f (s.define name params body)
  count : ∀ s, (f s).count = f s.count
  lay : ∀ s stack, (f s).lay stack = f (s.lay stack)
  take : ∀ {s : Scheduler} {command rest}, s.queue.next? = some (command, rest) →
    ∃ left, (f s).queue.next? = some (command, left) ∧ (f s).leave left = f (s.leave rest)

/-- The next step ends the cycle. -/
def Ending (s : Scheduler) : Prop :=
  ∃ phase, s.step.2 = .halt phase

section Step

variable {s : Scheduler} (running : s.phase = .running)
include running

theorem step_of_unlive (stopped : s.live = false) : s.step = (s, .halt .cancelled) := by
  simp [step, running, stopped]

variable (live : s.live = true)
include live

theorem step_of_frame {frame : Frame} {below : List Frame} (stacked : s.stack = frame :: below) :
    s.step = s.count.advance frame below := by
  simp [step, running, live, stacked, Scheduler.count]

theorem step_of_waiting {command : Command} {rest : CommandQueue} (empty : s.stack = [])
    (taken : s.queue.next? = some (command, rest)) :
    s.step =
      ((s.leave rest).count.lay [Frame.ofCommand command]).complete .dequeue
        command.location? := by
  simp [step, running, live, empty, taken, Scheduler.count, leave, lay]

theorem step_of_nothing (empty : s.stack = []) (none : s.queue.next? = none) :
    s.step = (s.count, .halt .exhausted) := by
  simp [step, running, live, empty, none, Scheduler.count]

end Step

variable {f : Scheduler → Scheduler}

theorem Transparent.recordable_iff (transparent : Transparent f) (s : Scheduler) :
    (f s).Recordable ↔ s.Recordable := by
  rw [Recordable, Recordable, transparent.snapshot]

theorem complete_transparent (transparent : Transparent f) (s : Scheduler) (event : StepEvent)
    (at? : Option Location) :
    (f s).complete event at? = (f (s.complete event at?).1, (s.complete event at?).2) := by
  rcases s.complete_cases event at? with ⟨stack?, recorded, completed⟩ | ⟨unrecordable, completed⟩
  · rw [completed, complete_of_snapshot ((transparent.snapshot s).trans recorded),
      transparent.enter]
  · have unrecordable' := fun recordable =>
      unrecordable ((transparent.recordable_iff s).mp recordable)
    rw [completed, complete_of_unrecordable unrecordable']

theorem operate_transparent (transparent : Transparent f) (s : Scheduler) (op : String)
    (args : List String) (at? : Option Location) :
    (f s).operate op args at? =
      (f (s.operate op args at?).1, (s.operate op args at?).2) := by
  have lookup : (f s).registry.get? op = s.registry.get? op := by rw [transparent.registry]
  unfold operate
  rw [lookup]
  cases s.registry.get? op with
  | some procedure =>
    cases bound : procedure.bind args at? with
    | error fault => simp only [bound]
    | ok body =>
      simp only [bound]
      change ((f s).lay (Frame.load body (f s).stack)).complete _ _ = _
      rw [transparent.lay, transparent.stack]
      exact complete_transparent transparent (s.lay (Frame.load body s.stack)) _ _
  | none =>
    cases Primitive.ofWord? op with
    | none => rfl
    | some primitive => cases fit : primitive.calls args <;> simp only [fit]

theorem advance_transparent (transparent : Transparent f) (s : Scheduler) (frame : Frame)
    (below : List Frame) :
    (f s).advance frame below = (f (s.advance frame below).1, (s.advance frame below).2) := by
  unfold advance
  cases frame.command with
  | leaf op args at? =>
    change ((f s).lay below).operate op args at? = _
    rw [transparent.lay]
    exact operate_transparent transparent (s.lay below) op args at?
  | loop count body at? =>
    have rounds : ∀ stack event, ((f s).lay stack).complete event at? =
        (f ((s.lay stack).complete event at?).1, ((s.lay stack).complete event at?).2) :=
      fun stack event => by rw [transparent.lay, complete_transparent transparent]
    dsimp only
    split
    · split
      · exact rounds _ _
      · exact rounds _ _
    · rfl
  | define name params body at? =>
    change (((f s).lay below).define name params body).complete (.define name) at? = _
    rw [transparent.lay, transparent.define]
    exact complete_transparent transparent ((s.lay below).define name params body) _ _
  | stray shown? => exact congrArg (·, _) (transparent.lay s below)

/-- A step comes to the same, if it finds the queue empty in both cases or in neither. -/
theorem step_transparent (transparent : Transparent f) (s : Scheduler)
    (ends : s.Ending → s.queue.next? = none → (f s).queue.next? = none) :
    (f s).step = (f s.step.1, s.step.2) := by
  by_cases running : s.phase = .running
  · have running' := (transparent.phase s).trans running
    cases live : s.live with
    | false =>
      rw [step_of_unlive running live,
        step_of_unlive running' ((transparent.live s).trans live)]
    | true =>
      have live' := (transparent.live s).trans live
      cases stacked : s.stack with
      | cons frame below =>
        rw [step_of_frame running live stacked,
          step_of_frame running' live' ((transparent.stack s).trans stacked), transparent.count]
        exact advance_transparent transparent s.count frame below
      | nil =>
        have empty' := (transparent.stack s).trans stacked
        cases taken : s.queue.next? with
        | some next =>
          obtain ⟨command, rest⟩ := next
          obtain ⟨left, taken', rest_eq⟩ := transparent.take taken
          rw [step_of_waiting running live stacked taken,
            step_of_waiting running' live' empty' taken', rest_eq, transparent.count,
            transparent.lay, complete_transparent transparent]
        | none =>
          have found := step_of_nothing running live stacked taken
          have none' := ends ⟨.exhausted, by rw [found]⟩ taken
          rw [found, step_of_nothing running' live' empty' none', transparent.count]
  · rw [step_of_rest running, step_of_rest ((transparent.phase s).symm ▸ running)]

end Scheduler

open Scheduler

namespace Host

variable {σ τ : Type} {host : Host σ} {other : Host τ} {related : σ → τ → Prop}
  {f : Scheduler → Scheduler} {u : σ} {v : τ} {s : Scheduler}

theorem close_of_running {phase : Phase} (running : s.phase = .running) :
    host.close u s phase =
      (s.callbacks.foldl (fun u id => host.hear u id ⟨phase, s.cycle, s.steps⟩
          ((s.endCycle phase).1.faultsOf s.cycle))
        (host.announce u (s.endCycle phase).1 (.programEnd ⟨phase, s.cycle, s.steps⟩)),
        (s.endCycle phase).1) := by
  rw [close, if_pos running]
  rfl

theorem close_rests {phase : Phase} (other : phase ≠ .running) :
    (host.close u s phase).2.phase ≠ .running := by
  unfold close
  split
  · exact other
  · assumption

theorem beat_of_halt {next : Scheduler} {phase : Phase} (halts : s.step = (next, .halt phase)) :
    host.beat u s = ((host.close u next phase).1, (host.close u next phase).2, .ended) := by
  simp only [beat, halts]

theorem beat_of_rest (rests : s.phase ≠ .running) : host.beat u s = (u, s, .ended) := by
  simp only [beat, step_of_rest rests, Bool.false_eq_true, if_false]

/-- The drawing carries out some calls, after so many others, and neither stops the cycle nor
fails. -/
inductive Draws (host : Host σ) : σ → (count : Nat) → List Call → σ → Prop where
  | nothing (u : σ) (count : Nat) : Draws host u count [] u
  | call {u v : σ} {count : Nat} {call : Call} {rest : List Call} :
    (host.draw u (count + 1) call).2 = ⟨false, none⟩ →
    Draws host (host.draw u (count + 1) call).1 (count + 1) rest v →
    Draws host u count (call :: rest) v

/-- A primitive that is drawn is logged and announced after that. -/
theorem paint_of_draws {calls : List Call} {v : σ} (draws : host.Draws u s.calls.length calls v)
    (leaf : Command) (primitive : Primitive) :
    host.paint leaf primitive calls u s = host.paint leaf primitive [] v (s.drawn calls) := by
  generalize counted : s.calls.length = count at draws
  induction draws generalizing s with
  | nothing u count => rfl
  | @call u v count call rest done draws ih =>
    have later := ih (s := s.ask call) (congrArg (· + 1) counted)
    rw [← counted] at later done
    rw [drawn_ask] at later
    conv_lhs => rw [paint]
    generalize host.draw u (s.calls.length + 1) call = left at later done ⊢
    obtain ⟨after, manner⟩ := left
    obtain rfl : manner = ⟨false, none⟩ := done
    exact later

theorem paint_nil_of_snapshot {stack? : Option (List String)} (recorded : s.snapshot = .ok stack?)
    (leaf : Command) (primitive : Primitive) :
    host.paint leaf primitive [] u s =
      (host.announce u (s.painted leaf primitive [] stack?) (.afterPrimitive leaf),
        s.painted leaf primitive [] stack?, .drawn) := by
  rw [paint, log, recorded]
  rfl

theorem paint_nil_of_unrecordable (unrecordable : ¬s.Recordable) (leaf : Command)
    (primitive : Primitive) :
    host.paint leaf primitive [] u s = (u, s, .failed .unwritableNumber) := by
  rw [paint, log, snapshot_of_unrecordable unrecordable]
  rfl

/-- What is done between two steps keeps a property of a host and its scheduler. -/
structure Keeps (host : Host σ) (holds : σ → Scheduler → Prop) : Prop where
  enter : ∀ {u s} event at? stack?, holds u s → holds u (s.enter event at? stack?)
  report : ∀ {u s} fault stack?, holds u s → holds u (s.reportWith fault stack?).1
  draw : ∀ {u s} call, holds u s →
    holds (host.draw u (s.calls.length + 1) call).1
      ((host.draw u (s.calls.length + 1) call).2.leaves (s.ask call))
  tell : ∀ {u s} id notice, holds u s → holds (host.tell u id notice) s

variable {holds : σ → Scheduler → Prop}

theorem announce_keeps (keeps : host.Keeps holds) (before : holds u s) (notice : Notice) :
    holds (host.announce u s notice) s := by
  unfold announce
  generalize s.observersOf notice.event = ids
  induction ids generalizing u with
  | nil => exact before
  | cons id rest ih => exact ih (keeps.tell id notice before)

theorem report_keeps (keeps : host.Keeps holds) (before : holds u s) (fault : Fault) :
    holds (host.report u s fault).1 (host.report u s fault).2.1 := by
  by_cases recordable : s.Recordable
  · obtain ⟨stack?, recorded⟩ := recordable
    rw [report_of_snapshot recorded]
    exact announce_keeps keeps (keeps.report fault stack? before) _
  · rw [report_of_unrecordable recordable]
    exact before

theorem paint_keeps (keeps : host.Keeps holds) (leaf : Command) (primitive : Primitive)
    (calls : List Call) (before : holds u s) :
    holds (host.paint leaf primitive calls u s).1 (host.paint leaf primitive calls u s).2.1 := by
  induction calls generalizing u s with
  | nil =>
    by_cases recordable : s.Recordable
    · obtain ⟨stack?, recorded⟩ := recordable
      rw [paint_nil_of_snapshot recorded]
      exact announce_keeps keeps (keeps.enter _ _ stack? before) _
    · rw [paint_nil_of_unrecordable recordable]
      exact before
  | cons call rest ih =>
    have asked := keeps.draw call before
    rw [paint]
    generalize host.draw u (s.calls.length + 1) call = left at asked ⊢
    obtain ⟨drawn, manner⟩ := left
    dsimp only at asked ⊢
    split
    · exact ih asked
    · exact report_keeps keeps asked _
    · exact asked

/-- A beat that does not end the cycle keeps what the step has kept. -/
theorem beat_keeps (keeps : host.Keeps holds) (going : ¬s.Ending) (stepped : holds u s.step.1) :
    holds (host.beat u s).1 (host.beat u s).2.1 := by
  unfold beat
  obtain ⟨next, work, found⟩ : ∃ next work, s.step = (next, work) := ⟨_, _, rfl⟩
  rw [found] at stepped ⊢
  cases work with
  | answer more => exact stepped
  | draw leaf primitive calls => exact paint_keeps keeps leaf primitive calls stepped
  | report fault => exact report_keeps keeps stepped fault
  | halt phase => exact absurd ⟨phase, by rw [found]⟩ going
  | fail failure => exact stepped

theorem keeps_settings (host : Host σ) (settings : Settings) :
    host.Keeps fun _ s => s.settings = settings where
  enter _ _ _ before := before
  report _ _ before := before
  draw _ before := by
    unfold Manner.leaves
    split <;> exact before
  tell _ _ before := before

theorem beat_settings (going : ¬s.Ending) : (host.beat u s).2.1.settings = s.settings :=
  beat_keeps (host.keeps_settings s.settings) going s.step_settings

/-- Two hosts do alike when they are called, but for the callbacks. -/
structure Like (host : Host σ) (other : Host τ) (related : σ → τ → Prop) : Prop where
  draw : ∀ {u v} number call, related u v →
    related (host.draw u number call).1 (other.draw v number call).1 ∧
      (host.draw u number call).2 = (other.draw v number call).2
  tell : ∀ {u v} id notice, related u v → related (host.tell u id notice) (other.tell v id notice)

/-- What has become of two hosts and their schedulers is alike. -/
def Alike (related : σ → τ → Prop) (f : Scheduler → Scheduler) (b : σ × Scheduler × Upshot)
    (c : τ × Scheduler × Upshot) : Prop :=
  related b.1 c.1 ∧ c.2 = (f b.2.1, b.2.2)

theorem announce_alike (like : host.Like other related) (same : related u v) {t : Scheduler}
    (observers : t.observers = s.observers) (notice : Notice) :
    related (host.announce u s notice) (other.announce v t notice) := by
  unfold announce observersOf
  rw [observers]
  generalize (s.observers.filter _).map Prod.snd = ids
  induction ids generalizing u v with
  | nil => exact same
  | cons id rest ih => exact ih (like.tell id notice same)

theorem report_alike (like : host.Like other related) (transparent : Transparent f)
    (same : related u v) (fault : Fault) :
    Alike related f (host.report u s fault) (other.report v (f s) fault) := by
  have snapshot_eq := transparent.snapshot s
  by_cases recordable : s.Recordable
  · obtain ⟨stack?, recorded⟩ := recordable
    rw [report_of_snapshot recorded, report_of_snapshot (snapshot_eq.trans recorded),
      transparent.reportWith]
    exact ⟨announce_alike like same (transparent.observers _) _, rfl⟩
  · have unrecordable := fun again => recordable ((transparent.recordable_iff s).mp again)
    rw [report_of_unrecordable recordable, report_of_unrecordable unrecordable]
    exact ⟨same, rfl⟩

theorem paint_alike (like : host.Like other related) (transparent : Transparent f)
    (same : related u v) (leaf : Command) (primitive : Primitive) (calls : List Call) :
    Alike related f (host.paint leaf primitive calls u s)
      (other.paint leaf primitive calls v (f s)) := by
  induction calls generalizing u v s with
  | nil =>
    have snapshot_eq := transparent.snapshot s
    by_cases recordable : s.Recordable
    · obtain ⟨stack?, recorded⟩ := recordable
      rw [paint_nil_of_snapshot recorded, paint_nil_of_snapshot (snapshot_eq.trans recorded)]
      have entered : (f s).painted leaf primitive [] stack? =
          f (s.painted leaf primitive [] stack?) := transparent.enter _ _ _ _
      rw [entered]
      exact ⟨announce_alike like same (transparent.observers _) _, rfl⟩
    · have unrecordable := fun again => recordable ((transparent.recordable_iff s).mp again)
      rw [paint_nil_of_unrecordable recordable, paint_nil_of_unrecordable unrecordable]
      exact ⟨same, rfl⟩
  | cons call rest ih =>
    have drawn := like.draw (s.calls.length + 1) call same
    rw [paint, paint, transparent.calls]
    generalize host.draw u (s.calls.length + 1) call = left at drawn ⊢
    generalize other.draw v (s.calls.length + 1) call = right at drawn ⊢
    obtain ⟨u', manner⟩ := left
    obtain ⟨v', manner'⟩ := right
    obtain ⟨same', rfl⟩ := drawn
    have left : manner.leaves ((f s).ask call) = f (manner.leaves (s.ask call)) := by
      rw [transparent.ask]
      unfold Manner.leaves
      split
      · exact transparent.stop _
      · rfl
    dsimp only
    rw [left]
    split
    · exact ih same'
    · exact report_alike like transparent same' _
    · exact ⟨same', rfl⟩

/-- A beat that does not end the cycle comes to the same. -/
theorem beat_alike (like : host.Like other related) (transparent : Transparent f)
    (same : related u v) (going : ¬s.Ending) :
    Alike related f (host.beat u s) (other.beat v (f s)) := by
  unfold beat
  rw [step_transparent transparent s fun ending => absurd ending going]
  obtain ⟨next, work, found⟩ : ∃ next work, s.step = (next, work) := ⟨_, _, rfl⟩
  rw [found]
  cases work with
  | answer more => exact ⟨same, rfl⟩
  | draw leaf primitive calls => exact paint_alike like transparent same leaf primitive calls
  | report fault => exact report_alike like transparent same fault
  | halt phase => exact absurd ⟨phase, by rw [found]⟩ going
  | fail failure => exact ⟨same, rfl⟩

end Host

end Turtle
