import Turtle.Proofs.Traffic

/-!
# What is carried out

Three things tell what a scheduler carries out: the stack, the queue and the registry.  A turn takes
a step on them, or takes in a batch, or defines a procedure, or ends the cycle.  Every other turn
leaves all three of them as they are.
-/

set_option autoImplicit false

namespace Turtle

namespace Scheduler

/-- The same is being carried out, the same commands wait and the same procedures are defined. -/
structure Abides (s t : Scheduler) : Prop where
  stack_eq : t.stack = s.stack
  queue_eq : t.queue = s.queue
  registry_eq : t.registry = s.registry

theorem Noted.abides {s t : Scheduler} (noted : Noted s t) : Abides s t := by
  obtain ⟨journal, reports, calls, rfl⟩ := noted
  exact ⟨rfl, rfl, rfl⟩

/-- A cycle has ended between two schedulers, and nothing is left of it but what it has defined. -/
structure Closed (s t : Scheduler) : Prop where
  running : s.phase = .running
  rests : t.phase ≠ .running
  stack_eq : t.stack = []
  waiting_eq : t.queue.pending = []
  registry_eq : t.registry = s.registry

end Scheduler

namespace Engine

open Scheduler

/-- What a turn does to what is carried out. -/
inductive Layers (e : Engine) (turn : Turn) (next : Engine) : Prop where
  | keep (unstepped : e.stepping? turn = none) (unasked : e.batch? turn = none)
    (undefined : ∀ name params body, turn ≠ .move (.define name params body))
    (same : Abides e.sched next.sched) : Layers e turn next
  | step (s : Scheduler) (stepping : e.stepping? turn = some s) (unasked : e.batch? turn = none)
    (same : Abides s.step.1 next.sched) : Layers e turn next
  | accept (batch : List Command) (unstepped : e.stepping? turn = none)
    (asked : e.batch? turn = some batch) (stack_eq : next.sched.stack = e.sched.stack)
    (queue_eq : next.sched.queue =
      e.sched.queue.append (batch.filter fun command => !command.isDefinition))
    (registry_eq : next.sched.registry = e.sched.registry.defineAll batch) : Layers e turn next
  | define (name : String) (params : List String) (body : List Command)
    (asked : turn = .move (.define name params body))
    (made : next.sched = e.sched.define name params body) : Layers e turn next
  | close (unasked : e.batch? turn = none) (ended : Closed e.sched next.sched) :
    Layers e turn next

variable {rules : Rules} {e next : Engine} {turn : Turn} {s : Scheduler} {tasks : List Task}

theorem stepping?_eq (stepping : e.stepping? turn = some s) :
    ∃ timers, s = { e.sched with timers := timers } := by
  unfold stepping? at stepping
  split at stepping
  · split at stepping
    · exact ⟨_, (Option.some.inj stepping).symm⟩
    · exact ⟨_, (Option.some.inj stepping).symm⟩
    · contradiction
  · exact ⟨_, (Option.some.inj stepping).symm⟩
  · split at stepping
    · split at stepping
      · exact ⟨_, (Option.some.inj stepping).symm⟩
      · contradiction
    · contradiction
  · contradiction

theorem halt_closed {phase : Phase} (running : s.phase = .running) (rests : phase ≠ .running) :
    Closed s (halt s phase tasks).sched := by
  rw [halt_of_running running, announce_sched]
  exact ⟨running, rests, rfl, rfl, rfl⟩

theorem layers_of_takeStep (stepping : e.stepping? turn = some s) (unasked : e.batch? turn = none) :
    Layers e turn (takeStep s tasks) := by
  rcases takeStep_noted s tasks with noted | ⟨after, phase, stepped, halts⟩
  · exact .step s stepping unasked noted.abides
  · obtain ⟨timers, rfl⟩ := stepping?_eq stepping
    have rests := rests_of_step_eq_halt stepped
    obtain ⟨running, how⟩ := step_eq_halt stepped
    have after_eq : after.phase = .running ∧ after.registry = e.sched.registry := by
      rcases how with ⟨_, _, rfl⟩ | ⟨_, _, _, _, rfl⟩
      · exact ⟨running, rfl⟩
      · exact ⟨running, rfl⟩
    have ended : Closed after (takeStep { e.sched with timers := timers } tasks).sched := by
      rw [halts]
      exact halt_closed after_eq.1 rests
    exact .close unasked { ended with
      running := running
      registry_eq := ended.registry_eq.trans after_eq.2 }

theorem layers_of_receive {batch : List Command} {callback? : Option Nat}
    (unstepped : e.stepping? turn = none)
    (undefined : ∀ name params body, turn ≠ .move (.define name params body))
    (asked : e.batch? turn = if e.sched.admits then some batch else none) :
    Layers e turn (receive e.sched batch callback? tasks) := by
  by_cases running : e.sched.phase = .running
  · have admits : e.sched.admits = true := by simp [admits, running]
    rw [if_pos admits] at asked
    rw [receive, if_pos running]
    exact .accept batch unstepped asked rfl rfl rfl
  · rw [receive, if_neg running]
    by_cases clockless : (e.sched.settings.animate && !e.sched.settings.clocked) = true
    · have refuses : ¬e.sched.admits = true := by simp [admits, running, clockless]
      rw [if_neg refuses] at asked
      rw [if_pos clockless]
      exact .keep unstepped asked undefined ⟨rfl, rfl, rfl⟩
    · have admits : e.sched.admits = true := by
        rw [Bool.not_eq_true] at clockless
        simp [admits, clockless]
      rw [if_pos admits] at asked
      rw [if_neg clockless]
      apply Layers.accept batch unstepped asked
      all_goals
        rw [announce_sched]
        rfl

theorem Acts.layers (acts : Acts rules e turn next) : Layers e turn next := by
  have abides : ∀ {s : Scheduler}, Abides s s := ⟨rfl, rfl, rfl⟩
  -- What the engine does by itself, and most moves, are no definitions.
  have working : ∀ name params body, Turn.work ≠ .move (.define name params body) := by simp
  cases acts with
  | receive => exact layers_of_receive rfl working rfl
  | start | goOn | step => exact layers_of_takeStep rfl rfl
  | leaveOff | rethrow | answer => exact .keep rfl rfl working abides
  | cancel s failure tasks =>
    by_cases running : s.phase = .running
    · exact .close rfl (halt_closed running Phase.noConfusion)
    · rw [halt_of_rest running]
      exact .keep rfl rfl working abides
  | tell =>
    apply Layers.keep rfl rfl working
    rw [tell_sched]
    exact abides
  | complain | spoil => exact .keep rfl rfl working (report_noted _ _ _).abides
  | tellFault =>
    apply Layers.keep rfl rfl working
    rw [tellFault_sched]
    exact abides
  | giveUp => exact .keep rfl rfl working ⟨rfl, rfl, rfl⟩
  | paint => exact .keep rfl rfl working (paint_noted _ _ _ _ _).abides
  | pause =>
    apply Layers.keep rfl rfl working
    unfold Engine.pause
    split <;> exact ⟨rfl, rfl, rfl⟩
  | settle =>
    apply Layers.keep rfl rfl working
    rw [settle_sched]
    exact abides
  | pass s task failure tasks passes => cases passes <;> exact .keep rfl rfl working abides
  | refuse s site tasks signal entries callback? failure allowed refused =>
    exact .keep rfl (by simp [batch?, refused]) (by simp) abides
  | supersede s site tasks signal entries callback? batch allowed coerced running stopped =>
    have unasked : batch? ⟨s, .foreign site :: tasks, signal⟩ (.move (.cue entries callback?)) =
        none := by
      simp [batch?, coerced, running, stopped]
    exact .close unasked (halt_closed running Phase.noConfusion)
  | cue s site tasks signal entries callback? batch allowed coerced unstopped =>
    have other : ¬(s.phase = .running ∧ s.live = false) := by
      rintro ⟨running, stopped⟩
      rw [unstopped running] at stopped
      contradiction
    exact layers_of_receive rfl (by simp) (by simp [batch?, coerced, other])
  | stop | attach => exact .keep rfl rfl (by simp) ⟨rfl, rfl, rfl⟩
  | idle s site tasks signal position allowed missing =>
    exact .keep (by simp [stepping?, missing]) rfl (by simp) abides
  | expire s site tasks signal position timer allowed found stale =>
    exact .keep (by simp [stepping?, found, stale]) rfl (by simp) ⟨rfl, rfl, rfl⟩
  | resume s site tasks signal position timer allowed found current =>
    exact layers_of_takeStep (by simp [stepping?, found, current]) rfl
  | define s site tasks signal name params body => exact .define name params body rfl rfl
  | finish | raise => exact .keep rfl rfl (by simp) abides

end Engine

end Turtle
