import Turtle.Proofs.Clients

/-!
# Batches that join a cycle

A batch that is cued while a cycle is running comes to what it would have come to behind the batch
before it: cueing two batches is cueing the one with the other at its end.  Two runs show this,
which do the same beat by beat.  Up to where the second batch is cued the one has further commands
at the end of its queue, and afterwards they differ in their callbacks only.
-/

set_option autoImplicit false

namespace Turtle

open Engine StateTransition

/-- A scheduler with further commands at the end of its queue, and with other callbacks. -/
def Scheduler.join (others : List Command) (callbacks : List Nat) (s : Scheduler) : Scheduler :=
  { s with queue := s.queue.append others, callbacks := callbacks }

namespace Scheduler

variable (others : List Command) (callbacks : List Nat) (s : Scheduler)

theorem transparent_join : Transparent (join others callbacks) where
  phase _ := rfl
  live _ := rfl
  stack _ := rfl
  registry _ := rfl
  observers _ := rfl
  calls _ := rfl
  snapshot _ := rfl
  enter _ _ _ _ := rfl
  reportWith _ _ _ := rfl
  ask _ _ := rfl
  stop _ := rfl
  define _ _ _ _ := rfl
  count _ := rfl
  lay _ _ := rfl
  take taken := ⟨_, CommandQueue.next?_append taken others, rfl⟩

theorem append_nil (queue : CommandQueue) : queue.append [] = queue := by
  simp [CommandQueue.append]

theorem join_nil : s.join [] callbacks = { s with callbacks := callbacks } := by
  rw [join, append_nil]

end Scheduler

namespace Client

variable {manner : Nat → Manner} {plan : List Request} {u : Client} {s : Scheduler}

/-- A client that has further plans. -/
def extend (plan : List Request) (u : Client) : Client :=
  { u with plan := u.plan ++ plan }

theorem like_extend (manner : Nat → Manner) (plan : List Request) :
    (host manner).Like (host manner) fun u v => v = u.extend plan where
  draw _ _ same := ⟨same, rfl⟩
  tell _ _ same := same ▸ rfl

theorem close_extend (phase : Phase) :
    (host manner).close (u.extend plan) s phase =
      (((host manner).close u s phase).1.extend plan, ((host manner).close u s phase).2) := by
  by_cases running : s.phase = .running
  · rw [Host.close_of_running running, Host.close_of_running running, foldl_hear, foldl_hear,
      Host.announce_alike (like_extend manner plan) rfl rfl]
    rfl
  · rw [Host.close, if_neg running, Host.close, if_neg running]

end Client

open Client

section Course

variable {manner : Nat → Manner} {scene next last : Scene Client}

/-- No cycle begins while timers go off. -/
theorem course_rests (fires : scene.foreign.OnlyFires) (rests : scene.sched.phase ≠ .running)
    (went : next ∈ (host manner).course (act manner) scene) : next.sched.phase ≠ .running := by
  cases scene with
  | stepping u s =>
    obtain rfl := Option.some.inj went
    rw [Host.beat_of_rest (show s.phase ≠ .running from rests)]
    exact rests
  | outside u s signal =>
    have acted : act manner u s signal = some next := went
    obtain ⟨plan, planned, rfl⟩ := act_of_onlyFires fires acted
    rw [(fire_eq _ s).2]
    exact rests

theorem running_of_reaches (fires : scene.foreign.OnlyFires)
    (reaches : Reaches ((host manner).course (act manner)) scene last)
    (running : last.sched.phase = .running) : scene.sched.phase = .running := by
  induction reaches using Relation.ReflTransGen.head_induction_on with
  | refl => exact running
  | head went _ ih =>
    have later := ih (course_onlyFires fires went)
    exact Decidable.byContradiction fun rests => course_rests fires rests went later

/-- In a cycle that is still running, whatever has been done outside has returned. -/
theorem signal_of_running {u : Client} {s : Scheduler} {signal : Signal}
    (fires : scene.foreign.OnlyFires)
    (went : Scene.outside u s signal ∈ (host manner).course (act manner) scene)
    (running : s.phase = .running) : signal = .returned := by
  cases scene with
  | stepping v t =>
    have same : (host manner).resume ((host manner).beat v t) = .outside u s signal :=
      Option.some.inj went
    generalize (host manner).beat v t = b at same
    obtain ⟨v', t', upshot⟩ := b
    cases upshot with
    | drawn =>
      rw [Host.resume] at same
      split at same
      · exact (Scene.outside.inj same).2.2.symm
      · contradiction
    | onward => contradiction
    | ended => exact (Scene.outside.inj same).2.2.symm
    | failed failure =>
      have closed : ((host manner).close v' t' .cancelled).2 = s := (Scene.outside.inj same).2.1
      exact absurd (closed ▸ running) (Host.close_rests Phase.noConfusion)
  | outside v t signal' =>
    have acted : act manner v t signal' = some (.outside u s signal) := went
    obtain ⟨plan, planned, same⟩ := act_of_onlyFires fires acted
    unfold Scene.fire at same
    split at same
    · exact (Scene.outside.inj same).2.2
    · split at same
      · contradiction
      · exact (Scene.outside.inj same).2.2

end Course

/-! ## Up to the second batch -/

/-- A scene in which more is planned and more waits at the end of the queue. -/
def Scene.join (plan : List Request) (others : List Command) (callbacks : List Nat) :
    Scene Client → Scene Client
  | stepping u s => stepping (u.extend plan) (s.join others callbacks)
  | outside u s signal => outside (u.extend plan) (s.join others callbacks) signal

section Before

variable {manner : Nat → Manner} {plan : List Request} {others : List Command}
  {callbacks : List Nat} {scene next last : Scene Client} {u : Client} {s : Scheduler}

theorem resume_join {b : Client × Scheduler × Upshot}
    (running : ((host manner).resume b).sched.phase = .running) :
    (host manner).resume (b.1.extend plan, b.2.1.join others callbacks, b.2.2) =
      ((host manner).resume b).join plan others callbacks := by
  obtain ⟨u, s, upshot⟩ := b
  cases upshot with
  | drawn =>
    rw [Host.resume, Host.resume]
    change (if s.settings.animate && s.paced then _ else _) = _
    split <;> rfl
  | onward => rfl
  | ended => rfl
  | failed failure => exact absurd running (Host.close_rests Phase.noConfusion)

theorem fire_join :
    Scene.fire (u.extend plan) (s.join others callbacks) =
      (Scene.fire u s).join plan others callbacks := by
  obtain ⟨settings, phase, live, queue, stack, journal, cycle, reports, ids, paced, generation,
    steps, registry, observers, timers, calls⟩ := s
  cases timers with
  | nil => rfl
  | cons timer rest =>
    by_cases current : timer.generation = generation
    · simp [Scene.fire, Scene.join, Scheduler.join, current]
    · simp [Scene.fire, Scene.join, Scheduler.join, current]

/-- As long as the cycle runs, what waits at the end of the queue makes no difference. -/
theorem course_join (plan : List Request) (others : List Command) (callbacks : List Nat)
    (fires : scene.foreign.OnlyFires)
    (went : next ∈ (host manner).course (act manner) scene)
    (running : next.sched.phase = .running) :
    next.join plan others callbacks ∈
      (host manner).course (act manner) (scene.join plan others callbacks) := by
  cases scene with
  | stepping u s =>
    obtain rfl := Option.some.inj went
    have going : ¬s.Ending := by
      rintro ⟨phase, halts⟩
      have rests := Scheduler.rests_of_step_eq_halt (Prod.ext rfl halts)
      rw [Host.beat_of_halt (Prod.ext rfl halts)] at running
      exact absurd running (Host.close_rests rests)
    obtain ⟨same, beat_eq⟩ := Host.beat_alike (like_extend manner plan)
      (Scheduler.transparent_join others callbacks) (rfl : u.extend plan = u.extend plan) going
    refine congrArg some (Eq.trans ?_ (resume_join running))
    exact congrArg _ (Prod.ext same beat_eq)
  | outside u s signal =>
    have acted : act manner u s signal = some next := went
    obtain ⟨rest, planned, rfl⟩ := act_of_onlyFires (show u.OnlyFires from fires) acted
    have planned' : (u.extend plan).plan = .fire :: (rest ++ plan) := by
      simp [extend, planned]
    change act manner (u.extend plan) (s.join others callbacks) signal = _
    rw [act, planned', ← fire_join]
    rfl

theorem reaches_join (plan : List Request) (others : List Command) (callbacks : List Nat)
    (fires : scene.foreign.OnlyFires)
    (reaches : Reaches ((host manner).course (act manner)) scene last)
    (running : last.sched.phase = .running) :
    Reaches ((host manner).course (act manner)) (scene.join plan others callbacks)
      (last.join plan others callbacks) := by
  induction reaches using Relation.ReflTransGen.head_induction_on with
  | refl => exact .refl
  | head went rest ih =>
    have fires' := course_onlyFires fires went
    have went' := course_join plan others callbacks fires went
      (running_of_reaches fires' rest running)
    exact .head went' (ih fires')

/-- A cycle that goes on running keeps its callbacks. -/
theorem callbacks_of_reaches (fires : scene.foreign.OnlyFires)
    (reaches : Reaches ((host manner).course (act manner)) scene last)
    (running : last.sched.phase = .running) : last.sched.callbacks = scene.sched.callbacks := by
  have same : ∀ scene : Scene Client, scene.join [] [] scene.sched.callbacks = scene := by
    intro scene
    cases scene <;> simp [Scene.join, Scene.sched, extend, Scheduler.join_nil]
  induction reaches using Relation.ReflTransGen.head_induction_on with
  | refl => rfl
  | @head scene next went rest ih =>
    have fires' := course_onlyFires fires went
    have joined := course_join [] [] scene.sched.callbacks fires went
      (running_of_reaches fires' rest running)
    rw [same] at joined
    have kept : next = next.join [] [] scene.sched.callbacks := Option.mem_unique went joined
    rw [ih fires', kept]
    cases next <;> rfl

/-! ## The first batch, with the second one or without -/

variable {batch : List Command} {first? whole? : Option Nat} {entries more : List Value}

theorem accept_join (s : Scheduler) (batch : List Command)
    (undefining : ∀ command ∈ others, command.isDefinition = false) (first? whole? : Option Nat) :
    s.accept (batch ++ others) whole? =
      (s.accept batch first?).join others (s.callbacks ++ whole?.toList) := by
  have filtered : others.filter (fun command => !command.isDefinition) = others :=
    List.filter_eq_self.mpr fun command member => by simp [undefining command member]
  simp only [Scheduler.accept, Scheduler.join, Registry.defineAll_append,
    Registry.defineAll_of_none _ undefining, List.filter_append, filtered, CommandQueue.append,
    List.append_assoc]

theorem receive_join (undefining : ∀ command ∈ others, command.isDefinition = false)
    (running : ((host manner).receive u s batch first?).sched.phase = .running) :
    (host manner).receive (u.extend plan) s (batch ++ others) whole? =
        ((host manner).receive u s batch first?).join plan others
          (s.callbacks ++ whole?.toList) ∧
      ((host manner).receive u s batch first?).sched.callbacks =
        s.callbacks ++ first?.toList := by
  have accepted := accept_join s batch undefining first? whole?
  unfold Host.receive at running ⊢
  by_cases joins : s.phase = .running
  · rw [if_pos joins, if_pos joins, accepted]
    exact ⟨rfl, rfl⟩
  · rw [if_neg joins, if_neg joins]
    rw [if_neg joins] at running
    split at running
    · exact absurd running joins
    · rename_i clocked
      rw [if_neg clocked, if_neg clocked, accepted]
      refine ⟨congrArg₂ Scene.stepping ?_ rfl, rfl⟩
      exact Host.announce_alike (like_extend manner plan) rfl rfl _

theorem commands_append {others : List Command} (coerced : commands entries = .ok batch)
    (coerced' : commands more = .ok others) :
    commands (entries ++ more) = .ok (batch ++ others) := by
  induction entries generalizing batch with
  | nil =>
    obtain rfl := Except.ok.inj coerced
    exact coerced'
  | cons value rest ih =>
    rw [commands] at coerced
    rw [List.cons_append, commands]
    cases found : value.command? with
    | none => simp [found] at coerced
    | some command =>
      cases later : commands rest with
      | error failure => simp [found, later, Except.map] at coerced
      | ok rest' =>
        simp only [found, later, Except.map, Except.ok.injEq] at coerced
        subst coerced
        simp [ih later, Except.map]

theorem cue_join (coerced : commands entries = .ok batch)
    (coerced' : commands more = .ok others)
    (undefining : ∀ command ∈ others, command.isDefinition = false)
    (running : ((host manner).cue u s entries first?).sched.phase = .running) :
    ∃ waiting : List Nat, ∀ plan whole?,
      (host manner).cue (u.extend plan) s (entries ++ more) whole? =
          ((host manner).cue u s entries first?).join plan others (waiting ++ whole?.toList) ∧
        ((host manner).cue u s entries first?).sched.callbacks = waiting ++ first?.toList := by
  simp only [Host.cue, coerced, commands_append coerced coerced'] at running ⊢
  split at running
  · rename_i stopped
    refine ⟨((host manner).close u s .cancelled).2.callbacks, fun plan whole? => ?_⟩
    rw [if_pos stopped, if_pos stopped, close_extend]
    exact receive_join undefining running
  · rename_i other
    refine ⟨s.callbacks, fun plan whole? => ?_⟩
    rw [if_neg other, if_neg other]
    exact receive_join undefining running

end Before

/-! ## From the second batch on -/

/-- The cycle runs, and nothing has been called. -/
structure Going (earlier : List Hearing) (ids : List Nat) (u : Client) (s : Scheduler) : Prop where
  fires : u.OnlyFires
  running : s.phase = .running
  callbacks : s.callbacks = ids
  heard : u.heard = earlier

/-- Two schedulers are in the same cycle, which runs with the callbacks `ids` in the one and with
`ids'` in the other; or it has ended, and they have been called with the same result. -/
inductive Paired (earlier : List Hearing) (ids ids' : List Nat) :
    Client → Scheduler → Client → Scheduler → Prop where
  | going {u : Client} {s : Scheduler} : Going earlier ids u s →
    Paired earlier ids ids' u s u (s.join [] ids')
  | ended {u : Client} {s : Scheduler} (result : RunResult) (faults : List Fault) : u.OnlyFires →
    s.phase ≠ .running → s.callbacks = [] →
    u.heard = earlier ++ ids.map (fun id => ⟨id, result, faults⟩) →
    Paired earlier ids ids' u s
      { u with heard := earlier ++ ids'.map fun id => ⟨id, result, faults⟩ } s

inductive Scene.Related {σ τ : Type} (related : σ → Scheduler → τ → Scheduler → Prop) :
    Scene σ → Scene τ → Prop where
  | stepping {u : σ} {s : Scheduler} {v : τ} {t : Scheduler} : related u s v t →
    Related related (.stepping u s) (.stepping v t)
  | outside {u : σ} {s : Scheduler} {v : τ} {t : Scheduler} (signal : Signal) : related u s v t →
    Related related (.outside u s signal) (.outside v t signal)

section After

variable {manner : Nat → Manner} {earlier : List Hearing} {ids ids' : List Nat} {u v : Client}
  {s t : Scheduler}

theorem close_paired {phase : Phase} (going : Going earlier ids u s) (rests : phase ≠ .running) :
    Paired earlier ids ids' ((host manner).close u s phase).1 ((host manner).close u s phase).2
      ((host manner).close u (s.join [] ids') phase).1
      ((host manner).close u (s.join [] ids') phase).2 := by
  have same : ((s.join [] ids').endCycle phase).1 = (s.endCycle phase).1 := by
    rw [Scheduler.join_nil]
    rfl
  rw [close_eq going.running, close_eq (s := s.join [] ids') going.running, same, going.heard,
    going.callbacks]
  refine .ended (s := (s.endCycle phase).1) _ _ ?_ rests rfl rfl
  unfold OnlyFires
  rw [show Client.plan _ = u.plan from announce_plan _]
  exact going.fires

theorem Going.step (going : Going earlier ids u s) : Going earlier ids u s.step.1 := by
  obtain ⟨queue, stack, journal, steps, registry, frame⟩ := s.step_frame
  rw [frame]
  exact { going with }

theorem keeps_going (manner : Nat → Manner) : (host manner).Keeps (Going earlier ids) where
  enter _ _ _ before := { before with }
  report _ _ before := { before with }
  draw _ before := by
    unfold Manner.leaves
    split <;> exact { before with }
  tell _ _ before := { before with }

theorem resume_of_ending (going : Going earlier ids u s) (ending : s.Ending) :
    Scene.Related (Paired earlier ids ids') ((host manner).resume ((host manner).beat u s))
      ((host manner).resume ((host manner).beat u (s.join [] ids'))) := by
  obtain ⟨phase, halts⟩ := ending
  have halts : s.step = (s.step.1, .halt phase) := Prod.ext rfl halts
  have halts' := Scheduler.step_transparent (Scheduler.transparent_join [] ids') s fun _ none => by
    rw [Scheduler.join_nil]
    exact none
  rw [halts] at halts'
  rw [Host.beat_of_halt halts, Host.beat_of_halt halts']
  exact .outside .returned (close_paired going.step (Scheduler.rests_of_step_eq_halt halts))

theorem resume_of_going (going : Going earlier ids u s) (onward : ¬s.Ending) :
    Scene.Related (Paired earlier ids ids') ((host manner).resume ((host manner).beat u s))
      ((host manner).resume ((host manner).beat u (s.join [] ids'))) := by
  have like : (host manner).Like (host manner) Eq :=
    ⟨fun _ _ same => same ▸ ⟨rfl, rfl⟩, fun _ _ same => same ▸ rfl⟩
  obtain ⟨same, beat_eq⟩ :=
    Host.beat_alike like (Scheduler.transparent_join [] ids') (rfl : u = u) onward
  have kept := Host.beat_keeps (keeps_going manner) onward going.step
  generalize (host manner).beat u s = b at same beat_eq kept ⊢
  generalize (host manner).beat u (s.join [] ids') = c at same beat_eq ⊢
  obtain ⟨u', s', upshot⟩ := b
  obtain ⟨v', t', upshot'⟩ := c
  obtain rfl : u' = v' := same
  obtain ⟨rfl, same⟩ := Prod.mk.inj beat_eq
  obtain rfl : upshot' = upshot := same
  cases upshot' with
  | drawn =>
    rw [Host.resume, Host.resume]
    change Scene.Related _ _ (if s'.settings.animate && s'.paced then _ else _)
    split
    · exact .outside .returned (.going (s := s'.arm) { kept with })
    · exact .stepping (.going kept)
  | onward => exact .stepping (.going kept)
  | ended => exact .outside .returned (.going kept)
  | failed failure => exact .outside (.raised failure) (close_paired kept Phase.noConfusion)

theorem fire_paired {plan : List Request} (paired : Paired earlier ids ids' u s v t)
    (planned : u.plan = .fire :: plan) :
    Scene.Related (Paired earlier ids ids') (.fire { u with plan := plan } s)
      (.fire { v with plan := plan } t) := by
  have shorter : u.OnlyFires → OnlyFires { u with plan := plan } := fun fires request member =>
    fires request (planned ▸ List.mem_cons_of_mem _ member)
  cases paired with
  | going going =>
    have timers : (s.join [] ids').timers = s.timers := rfl
    have generation : (s.join [] ids').generation = s.generation := rfl
    unfold Scene.fire
    rw [timers, generation]
    cases s.timers with
    | nil => exact .outside .returned (.going { going with fires := shorter going.fires })
    | cons timer rest =>
      have left : Going earlier ids { u with plan := plan } { s with timers := rest } :=
        { going with fires := shorter going.fires }
      dsimp only
      split
      · exact .stepping (.going left)
      · exact .outside .returned (.going left)
  | ended result faults fires rests callbacks heard =>
    unfold Scene.fire
    cases s.timers with
    | nil => exact .outside .returned (.ended result faults (shorter fires) rests callbacks heard)
    | cons timer rest =>
      have left : Paired earlier ids ids' { u with plan := plan } { s with timers := rest } _ _ :=
        .ended result faults (shorter fires) rests callbacks heard
      dsimp only
      split
      · exact .stepping left
      · exact .outside .returned left

/-- The two runs go on side by side. -/
theorem respects_paired :
    Respects ((host manner).course (act manner)) ((host manner).course (act manner))
      (Scene.Related (Paired earlier ids ids')) := by
  intro scene scene' related
  cases related with
  | stepping paired =>
    refine ⟨_, ?_, .single rfl⟩
    cases paired with
    | going going =>
      rename_i u s
      by_cases ending : s.Ending
      · exact resume_of_ending going ending
      · exact resume_of_going going ending
    | ended result faults fires rests callbacks heard =>
      rw [Host.beat_of_rest rests, Host.beat_of_rest rests]
      exact .outside .returned (.ended result faults fires rests callbacks heard)
  | @outside u s v t signal paired =>
    have planned : v.plan = u.plan ∧ u.OnlyFires := by
      cases paired with
      | going going => exact ⟨rfl, going.fires⟩
      | ended _ _ fires => exact ⟨rfl, fires⟩
    simp only [Host.course]
    cases acted : act manner u s signal with
    | none => exact act_eq_none_iff.mpr (planned.1.trans (act_eq_none_iff.mp acted))
    | some next =>
      obtain ⟨plan, plan_eq, rfl⟩ := act_of_onlyFires planned.2 acted
      have acted' : act manner v t signal = some (.fire { v with plan := plan } t) := by
        unfold act
        rw [planned.1, plan_eq]
        rfl
      exact ⟨_, fire_paired paired plan_eq, .single acted'⟩

end After

section Cue

variable {manner : Nat → Manner} {u : Client} {s : Scheduler} {entries : List Value}
  {callback? : Option Nat}

/-- A batch that has been cued into a running cycle has been taken in. -/
theorem cue_of_running {batch : List Command} (coerced : commands entries = .ok batch)
    (running : s.phase = .running) (live : s.live = true) :
    (host manner).cue u s entries callback? = .outside u (s.accept batch callback?) .returned := by
  simp [Host.cue, coerced, live, Host.receive, running]

theorem receive_signal {batch : List Command} {v : Client} {t : Scheduler} {signal : Signal}
    (received : (host manner).receive u s batch callback? = .outside v t signal)
    (running : t.phase = .running) : signal = .returned := by
  unfold Host.receive at received
  split at received
  · exact (Scene.outside.inj received).2.2.symm
  · rename_i rests
    split at received
    · rw [← (Scene.outside.inj received).2.1] at running
      exact absurd running rests
    · contradiction

theorem cue_signal {batch : List Command} (coerced : commands entries = .ok batch) {v : Client}
    {t : Scheduler} {signal : Signal}
    (cued : (host manner).cue u s entries callback? = .outside v t signal)
    (running : t.phase = .running) : signal = .returned := by
  simp only [Host.cue, coerced] at cued
  split at cued
  · exact receive_signal cued running
  · exact receive_signal cued running

end Cue

/-- Two runs have come to the same, but for the callbacks of their last cycle.  As long as it runs
the callbacks `ids` wait in the one and `ids'` in the other; when it has ended they have been called
with the same result and the same faults. -/
structure Client.SameBut (earlier : List Hearing) (ids ids' : List Nat) (q q' : Client × Engine) :
    Prop where
  engine_eq : q'.2 = { q.2 with sched := { q.2.sched with callbacks := q'.2.sched.callbacks } }
  told_eq : q'.1.told = q.1.told
  waiting : q.2.sched.phase = .running → q.2.sched.callbacks = ids ∧
    q'.2.sched.callbacks = ids' ∧ q.1.heard = earlier ∧ q'.1.heard = earlier
  called : q.2.sched.phase ≠ .running → q.2.sched.callbacks = [] ∧ q'.2.sched.callbacks = [] ∧
    ∃ result faults, q.1.heard = earlier ++ ids.map (fun id => ⟨id, result, faults⟩) ∧
      q'.1.heard = earlier ++ ids'.map fun id => ⟨id, result, faults⟩

section

variable {manner : Nat → Manner} {earlier : List Hearing} {ids ids' : List Nat} {u v : Client}
  {s t : Scheduler}

theorem Paired.sameBut (paired : Paired earlier ids ids' u s v t) (signal : Signal) :
    SameBut earlier ids ids' (u, ⟨s, [.foreign .outside], signal⟩)
      (v, ⟨t, [.foreign .outside], signal⟩) := by
  cases paired with
  | going going =>
    have callbacks : (s.join [] ids').callbacks = ids' := rfl
    have same : s.join [] ids' = { s with callbacks := (s.join [] ids').callbacks } := by
      rw [callbacks, Scheduler.join_nil]
    refine ⟨congrArg (Engine.mk · _ _) same, rfl, fun _ => ?_, fun rests => ?_⟩
    · exact ⟨going.callbacks, callbacks, going.heard, going.heard⟩
    · exact absurd going.running rests
  | ended result faults fires rests callbacks heard =>
    refine ⟨rfl, rfl, fun running => absurd running rests, fun _ => ?_⟩
    exact ⟨callbacks, callbacks, result, faults, heard, rfl⟩

/-- Runs that go on from where their schedulers are paired come to the same. -/
theorem sameBut_of_paired (manner : Nat → Manner) (paired : Paired earlier ids ids' u s v t)
    (signal : Signal) :
    let course := (host manner).course (act manner)
    ((eval course (.outside u s signal)).Dom ↔ (eval course (.outside v t signal)).Dom) ∧
      ∀ last ∈ eval course (.outside u s signal), ∀ last' ∈ eval course (.outside v t signal),
        SameBut earlier ids ids' last.engine last'.engine := by
  have related := Scene.Related.outside signal paired
  refine ⟨(tr_eval_dom respects_paired related).symm, fun last ended last' ended' => ?_⟩
  obtain ⟨other, both, other_ended⟩ := tr_eval respects_paired related ended
  obtain rfl := Part.mem_unique other_ended ended'
  have stuck := (mem_eval.mp ended).2
  cases both with
  | stepping paired => contradiction
  | outside signal paired => exact paired.sameBut signal

end

/-- Where the second batch is cued while the cycle is running: the first batch has come back, and
with it all timers that have gone off. -/
theorem joint {manner : Nat → Manner} {s t : Scheduler} {signal signal' : Signal} {u : Client}
    {entries : List Value} {batch : List Command} {first? : Option Nat} {k : Nat}
    (coerced : commands entries = .ok batch)
    (begun : (u, ⟨t, [.foreign .outside], signal'⟩) ∈
      Client.run manner (.cue entries first? :: List.replicate k .fire)
        ⟨s, [.foreign .outside], signal⟩)
    (running : t.phase = .running) :
    let cued := (host manner).cue (planning (List.replicate k .fire)) s entries first?
    cued.foreign.OnlyFires ∧ cued.sched.phase = .running ∧ signal' = .returned ∧ u.plan = [] ∧
      Reaches ((host manner).course (act manner)) cued (.outside u t signal') := by
  rw [run_cue, Part.mem_map_iff] at begun
  obtain ⟨last, ended, same⟩ := begun
  obtain ⟨reaches, stuck⟩ := mem_eval.mp ended
  obtain ⟨rfl, empty⟩ := outside_of_ended stuck same
  have fires : ((host manner).cue (planning (List.replicate k .fire)) s entries
      first?).foreign.OnlyFires := by
    unfold OnlyFires
    rw [cue_plan]
    exact fun request member => List.eq_of_mem_replicate member
  refine ⟨fires, running_of_reaches fires reaches running, ?_, empty, reaches⟩
  rcases reaches.cases_tail with same | ⟨before, reaches, went⟩
  · exact cue_signal coerced same.symm running
  · exact signal_of_running (reaches_onlyFires fires reaches) went running

/-- A batch without definitions that is cued into a running cycle comes to what it would have come
to at the end of the batch before it, whatever the drawing does at its calls.  Some entries are
cued, and the oldest timer goes off `k` times; the cycle is then running and has not been stopped.
If now more entries are cued, and the oldest timer goes off `m` times, the run comes to an end if
and only if it does when all of the entries are cued at once and the oldest timer goes off `k + m`
times; and then the two have come to the same but for the callbacks, which have been called with the
same result when the cycle has ended. -/
theorem Client.joins {manner : Nat → Manner} {s t : Scheduler} {signal signal' : Signal}
    {u : Client} {entries more : List Value} {batch others : List Command} {first? : Option Nat}
    {k : Nat} (coerced : commands entries = .ok batch) (coerced' : commands more = .ok others)
    (undefining : ∀ command ∈ others, command.isDefinition = false)
    (begun : (u, ⟨t, [.foreign .outside], signal'⟩) ∈
      Client.run manner (.cue entries first? :: List.replicate k .fire)
        ⟨s, [.foreign .outside], signal⟩)
    (running : t.phase = .running) (live : t.live = true) :
    ∃ waiting, t.callbacks = waiting ++ first?.toList ∧ ∀ (second? whole? : Option Nat) (m : Nat),
      let apart := Client.run manner
        (.cue entries first? ::
          (List.replicate k .fire ++ .cue more second? :: List.replicate m .fire))
        ⟨s, [.foreign .outside], signal⟩
      let joined := Client.run manner
        (.cue (entries ++ more) whole? :: List.replicate (k + m) .fire)
        ⟨s, [.foreign .outside], signal⟩
      (apart.Dom ↔ joined.Dom) ∧ ∀ q ∈ apart, ∀ q' ∈ joined,
        SameBut u.heard (waiting ++ first?.toList ++ second?.toList)
          (waiting ++ whole?.toList) q q' := by
  obtain ⟨fires, running', rfl, empty, reaches⟩ := joint coerced begun running
  obtain ⟨waiting, cued⟩ := cue_join coerced coerced' undefining running'
  have nothing : commands [] = .ok [] := rfl
  obtain ⟨own, alone⟩ := cue_join coerced nothing (by simp) running'
  have callbacks : t.callbacks = waiting ++ first?.toList :=
    (callbacks_of_reaches fires reaches running).trans (cued [] none).2
  refine ⟨waiting, callbacks, fun second? whole? m => ?_⟩
  let later : Client := { u with plan := List.replicate m .fire }
  have extended : ∀ plan, u.extend plan = { u with plan := plan } := fun plan => by
    rw [extend, empty, List.nil_append]
  -- What has been taken in by now in the one run has been at the end of the queue in the other.
  have paired : Paired u.heard (waiting ++ first?.toList ++ second?.toList)
      (waiting ++ whole?.toList) later (t.accept others second?) later
      (t.join others (waiting ++ whole?.toList)) := by
    have accepted := accept_join t [] undefining none second?
    have same : (t.accept others second?).join [] (waiting ++ whole?.toList) =
        t.join others (waiting ++ whole?.toList) := by
      rw [Scheduler.join_nil, ← List.nil_append others, accepted]
      simp [Scheduler.join, Scheduler.accept, Registry.defineAll, Scheduler.append_nil]
    refine same ▸ .going ⟨fun request member => List.eq_of_mem_replicate member, running, ?_, rfl⟩
    rw [← callbacks]
    rfl
  obtain ⟨doms, same⟩ := sameBut_of_paired manner paired .returned
  have apart : eval ((host manner).course (act manner))
      ((host manner).cue (planning (List.replicate k .fire ++ .cue more second? ::
        List.replicate m .fire)) s entries first?) =
      eval ((host manner).course (act manner))
        (.outside later (t.accept others second?) .returned) := by
    obtain ⟨joined, callbacks_eq⟩ := alone (.cue more second? :: List.replicate m .fire) first?
    rw [List.append_nil, ← callbacks_eq] at joined
    have stays : t.join [] ((host manner).cue (planning (List.replicate k .fire)) s entries
        first?).sched.callbacks = t := by
      rw [← callbacks_of_reaches fires reaches running]
      exact Scheduler.join_nil _ _
    have onward := reaches_join (.cue more second? :: List.replicate m .fire) []
      ((host manner).cue (planning (List.replicate k .fire)) s entries first?).sched.callbacks
      fires reaches running
    rw [← joined] at onward
    refine reaches_eval (onward.tail ?_)
    rw [Scene.join, stays, extended]
    exact congrArg some (cue_of_running (u := later) coerced' running live)
  have joined : eval ((host manner).course (act manner))
      ((host manner).cue (planning (List.replicate (k + m) .fire)) s (entries ++ more) whole?) =
      eval ((host manner).course (act manner))
        (.outside later (t.join others (waiting ++ whole?.toList)) .returned) := by
    obtain ⟨joined, _⟩ := cued (List.replicate m .fire) whole?
    have onward := reaches_join (List.replicate m .fire) others (waiting ++ whole?.toList) fires
      reaches running
    rw [← joined, Scene.join, extended] at onward
    rw [List.replicate_add]
    exact reaches_eval onward
  rw [← apart, ← joined] at doms same
  simp only [run_cue, Part.mem_map_iff]
  refine ⟨doms, ?_⟩
  rintro _ ⟨last, ended, rfl⟩ _ ⟨last', ended', rfl⟩
  exact same last ended last' ended'

/-- The pen is to be lifted twice, and during the second pause it is cued to be lowered. -/
theorem Client.lowering_joins :
    ∃ u t signal q q', (u, ⟨t, [.foreign .outside], signal⟩) ∈ Client.run (fun _ => ⟨false, none⟩)
        [.cue (List.replicate 2 (.command (.leaf "pu" [] none))) (some 1), .fire]
        (.atRest (.idle ⟨true, 0.04, true, false⟩ (.empty 10))) ∧
      t.phase = .running ∧ t.timers.length = 1 ∧ q.2.sched.phase = .exhausted ∧
      q.2.sched.calls = [.penDown, .penUp, .penUp] ∧ SameBut u.heard [1, 2] [3] q q' := by
  let s : Scheduler := .idle ⟨true, 0.04, true, false⟩ (.empty 10)
  let manner : Nat → Manner := fun _ => ⟨false, none⟩
  let lifting : List Value := List.replicate 2 (.command (.leaf "pu" [] none))
  let lowering : List Value := [.command (.leaf "pd" [] none)]
  obtain ⟨⟨u, t, tasks, signal⟩, begun, facts⟩ := Client.exists_run manner
    (.cue lifting (some 1) :: List.replicate 1 .fire) (.atRest s) 40
    (fun q => decide (q.2.Outside ∧ q.2.sched.phase = .running ∧ q.2.sched.live = true ∧
      q.2.sched.timers.length = 1 ∧ q.2.sched.callbacks = [1]))
    (by decide)
  obtain ⟨outside, running, live, armed, callbacks⟩ := of_decide_eq_true facts
  obtain rfl : tasks = [.foreign .outside] := outside
  have coerced : commands lifting = .ok (List.replicate 2 (.leaf "pu" [] none)) := rfl
  have coerced' : commands lowering = .ok [.leaf "pd" [] none] := rfl
  obtain ⟨waiting, first, same⟩ :=
    Client.joins coerced coerced' (by simp [Command.isDefinition]) begun running live
  obtain rfl : waiting = [] := by
    have one : ([1] : List Nat) = waiting ++ [1] := callbacks.symm.trans first
    simpa using one
  obtain ⟨q, ended, facts⟩ := Client.exists_run manner
    (.cue lifting (some 1) ::
      (List.replicate 1 .fire ++ .cue lowering (some 2) :: List.replicate 3 .fire))
    (.atRest s) 60
    (fun q => decide (q.2.sched.phase = .exhausted ∧
      q.2.sched.calls = [.penDown, .penUp, .penUp]))
    (by decide +kernel)
  obtain ⟨q', ended', _⟩ := Client.exists_run manner
    (.cue (lifting ++ lowering) (some 3) :: List.replicate (1 + 3) .fire) (.atRest s) 60
    (fun _ => true) (by decide +kernel)
  obtain ⟨exhausted, drawn⟩ := of_decide_eq_true facts
  refine ⟨u, t, signal, q, q', begun, running, armed, exhausted, drawn, ?_⟩
  exact (same (some 2) (some 3) 3).2 q ended q' ended'

end Turtle
