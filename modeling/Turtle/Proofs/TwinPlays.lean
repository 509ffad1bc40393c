import Turtle.Proofs.Stack
import Turtle.Proofs.Twins

/-!
# Plays with twins

A play in which a procedure has been replaced by its twin, wherever it is defined, goes on with the
original one turn by turn, as long as the procedure is not called without arguments.
-/

set_option autoImplicit false

namespace Turtle

variable {twin twin' : Procedure}

/-- Definitions may have been swapped in a command that is handed over. -/
inductive Value.Swapped (twin twin' : Procedure) : Value → Value → Prop where
  | same (value : Value) : Swapped twin twin' value value
  | command {command command' : Command} : command.Swapped twin twin' command' →
      Swapped twin twin' (.command command) (.command command')

/-- Definitions may have been swapped in a batch that waits to be taken in. -/
inductive Task.Swapped (twin twin' : Procedure) : Task → Task → Prop where
  | same (task : Task) : Swapped twin twin' task task
  | cueing {batch batch' : List Command} (callback? : Option Nat) :
    Command.AllSwapped twin twin' batch batch' →
      Swapped twin twin' (.cueing batch callback?) (.cueing batch' callback?)

namespace Engine

/-- Two engines differ only in that definitions of the first procedure have become definitions of
the other one. -/
inductive Swapped (twin twin' : Procedure) : Engine → Engine → Prop where
  | intro {s t : Scheduler} {tasks tasks' : List Task} (signal : Signal) :
    s.Swapped twin twin' t → List.Forall₂ (Task.Swapped twin twin') tasks tasks' →
    Swapped twin twin' ⟨s, tasks, signal⟩ ⟨t, tasks', signal⟩

/-- Definitions may have been swapped in what a move brings in. -/
inductive Move.Swapped (twin twin' : Procedure) : Move → Move → Prop where
  | same (move : Move) : Swapped twin twin' move move
  | cue {entries entries' : List Value} (callback? : Option Nat) :
    List.Forall₂ (Value.Swapped twin twin') entries entries' →
      Swapped twin twin' (.cue entries callback?) (.cue entries' callback?)
  | define {name : String} {params params' : List String} {body body' : List Command} :
    Command.Swapped twin twin' (.define name params body none) (.define name params' body' none) →
      Swapped twin twin' (.define name params body) (.define name params' body')

theorem commands_swapped {entries entries' : List Value}
    (swapped : List.Forall₂ (Value.Swapped twin twin') entries entries') :
    (∃ failure, commands entries = .error failure ∧ commands entries' = .error failure) ∨
      ∃ batch batch', commands entries = .ok batch ∧ commands entries' = .ok batch' ∧
        Command.AllSwapped twin twin' batch batch' := by
  induction swapped with
  | nil => exact Or.inr ⟨[], [], rfl, rfl, .nil⟩
  | @cons value value' entries entries' first _ ih =>
    -- Either neither of the two is a command, and they are the same, or both are.
    have heads : (value.command? = none ∧ value' = value) ∨ ∃ command command',
        value.command? = some command ∧ value'.command? = some command' ∧
          command.Swapped twin twin' command' := by
      cases first with
      | same =>
        cases coerced : value.command? with
        | none => exact Or.inl ⟨rfl, rfl⟩
        | some command => exact Or.inr ⟨command, command, rfl, rfl, .same command⟩
      | @command command command' swap =>
        cases swap with
        | same =>
          cases coerced : (Value.command command).command? with
          | none => exact Or.inl ⟨rfl, rfl⟩
          | some other => exact Or.inr ⟨other, other, rfl, rfl, .same other⟩
        | loop count at? bodies => exact Or.inr ⟨_, _, rfl, rfl, .loop count at? bodies⟩
        | swap at? named => exact Or.inr ⟨_, _, rfl, rfl, .swap at? named⟩
        | within name at? apart bodies =>
          exact Or.inr ⟨_, _, rfl, rfl, .within name at? apart bodies⟩
    rcases heads with ⟨malformed, rfl⟩ | ⟨command, command', coerced, coerced', swap⟩
    · simp only [commands, malformed]
      exact Or.inl ⟨_, rfl, rfl⟩
    · simp only [commands, coerced, coerced']
      rcases ih with ⟨failure, error, error'⟩ | ⟨batch, batch', ok, ok', rest⟩
      · exact Or.inl ⟨failure, by rw [error]; rfl, by rw [error']; rfl⟩
      · exact Or.inr ⟨_, _, by rw [ok]; rfl, by rw [ok']; rfl, .cons swap rest⟩

section Work

variable {s t : Scheduler} {tasks tasks' : List Task} (same : s.Swapped twin twin' t)
  (alike : List.Forall₂ (Task.Swapped twin twin') tasks tasks')
include same alike

theorem swapped_tell (notice : Notice) (rest : List Nat) :
    Swapped twin twin' (tell s notice tasks rest) (tell t notice tasks' rest) := by
  cases rest with
  | nil => exact .intro _ same alike
  | cons observer rest => exact .intro _ same (.cons (.same _) (.cons (.same _) alike))

theorem swapped_announce (notice : Notice) :
    Swapped twin twin' (announce s notice tasks) (announce t notice tasks') := by
  rw [announce, announce, same.observersOf_eq]
  exact swapped_tell same alike notice _

theorem swapped_tellFault (fault : Fault) {rest rest' : List Nat} (told : rest' = rest) :
    Swapped twin twin' (tellFault s fault tasks rest) (tellFault t fault tasks' rest') := by
  subst told
  cases rest' with
  | nil => exact .intro _ same alike
  | cons observer rest => exact .intro _ same (.cons (.same _) (.cons (.same _) alike))

theorem swapped_report (fault : Fault) :
    Swapped twin twin' (report s fault tasks) (report t fault tasks') := by
  rcases report_cases s fault tasks with ⟨stack?, recorded, reported⟩ | ⟨unrecordable, reported⟩
  · obtain ⟨reports, number_eq⟩ := same.reportWith fault stack?
    rw [reported, report_of_snapshot (same.snapshot_eq.trans recorded), number_eq]
    exact swapped_tellFault reports alike _ (same.observersOf_eq .onError)
  · rw [reported, report_of_unrecordable (same.recordable_iff.not.mpr unrecordable)]
    exact .intro _ same alike

theorem swapped_settle (result : RunResult) (callbacks : List Nat) :
    Swapped twin twin' (settle s result tasks callbacks) (settle t result tasks' callbacks) := by
  cases callbacks with
  | nil => exact .intro _ same alike
  | cons callback rest => exact .intro _ same (.cons (.same _) (.cons (.same _) alike))

theorem swapped_halt (phase : Phase) :
    Swapped twin twin' (halt s phase tasks) (halt t phase tasks') := by
  by_cases running : s.phase = .running
  · have result_eq : (t.endCycle phase).2 = (s.endCycle phase).2 := (same.endCycle phase).2
    rw [halt_of_running running, halt_of_running (same.phase_eq.trans running)]
    rw [show RunResult.mk phase t.cycle t.steps = ⟨phase, s.cycle, s.steps⟩ from
        congrArg Prod.fst result_eq,
      show t.callbacks = s.callbacks from congrArg Prod.snd result_eq]
    exact swapped_announce (same.endCycle phase).1 (.cons (.same _) alike) _
  · rw [halt_of_rest running, halt_of_rest (same.phase_eq ▸ running)]
    exact .intro _ same alike

theorem swapped_paint (leaf : Command) (primitive : Primitive) (calls : List Call) :
    Swapped twin twin' (paint s leaf primitive tasks calls)
      (paint t leaf primitive tasks' calls) := by
  cases calls with
  | nil =>
    rcases paint_nil_cases s leaf primitive tasks with
      ⟨stack?, recorded, painted⟩ | ⟨unrecordable, painted⟩
    · rw [painted, paint_nil_of_snapshot (same.snapshot_eq.trans recorded)]
      exact swapped_announce (same.enter _ _ stack?) (.cons (.same _) alike) _
    · rw [painted, paint_nil_of_unrecordable (same.recordable_iff.not.mpr unrecordable)]
      exact .intro _ same alike
  | cons call rest => exact .intro _ (same.ask call) (.cons (.same _) (.cons (.same _) alike))

theorem swapped_pause : Swapped twin twin' (pause s tasks) (pause t tasks') := by
  have waits : (t.settings.animate && t.paced) = (s.settings.animate && s.paced) :=
    same.read (f := fun s => s.settings.animate && s.paced) fun _ _ _ => rfl
  unfold pause
  rw [waits]
  split
  · exact .intro _ same.arm alike
  · exact .intro _ same alike

section Twins

variable (twins : twin.Twins twin')
include twins

theorem swapped_takeStep (spared : s.Spares twin) :
    Swapped twin twin' (takeStep s tasks) (takeStep t tasks') := by
  obtain ⟨stepped, work_eq⟩ := same.step twins spared
  unfold takeStep
  obtain ⟨next, work, found⟩ : ∃ next work, s.step = (next, work) := ⟨_, _, rfl⟩
  obtain ⟨next', work', found'⟩ : ∃ next work, t.step = (next, work) := ⟨_, _, rfl⟩
  rw [found, found'] at stepped work_eq
  obtain rfl : work' = work := work_eq
  rw [found, found']
  cases work' with
  | answer more => exact .intro _ stepped alike
  | draw leaf primitive calls => exact swapped_paint stepped alike leaf primitive calls
  | report fault => exact swapped_report stepped (.cons (.same _) alike) fault
  | halt phase => exact swapped_halt stepped (.cons (.same _) alike) phase
  | fail failure => exact .intro _ stepped alike

theorem swapped_resume (timer : Timer) (spared : timer.generation = s.generation → s.Spares twin) :
    Swapped twin twin' (resume s timer tasks) (resume t timer tasks') := by
  have generation_eq : t.generation = s.generation :=
    same.read (f := Scheduler.generation) fun _ _ _ => rfl
  unfold resume
  rw [generation_eq]
  by_cases current : timer.generation = s.generation
  · rw [if_pos current, if_pos current]
    exact swapped_takeStep same (.cons (.same _) alike) twins (spared current)
  · rw [if_neg current, if_neg current]
    exact .intro _ same alike

theorem swapped_receive {batch batch' : List Command}
    (batches : Command.AllSwapped twin twin' batch batch') (callback? : Option Nat) :
    Swapped twin twin' (receive s batch callback? tasks) (receive t batch' callback? tasks') := by
  have clockless : (t.settings.animate && !t.settings.clocked) =
      (s.settings.animate && !s.settings.clocked) :=
    same.read (f := fun s => s.settings.animate && !s.settings.clocked) fun _ _ _ => rfl
  have accepted := same.accept twins batches callback?
  unfold receive
  rw [same.phase_eq, clockless]
  split
  · exact .intro _ accepted alike
  · split
    · exact .intro _ same alike
    · exact swapped_announce accepted.beginCycle (.cons (.same _) alike) _

theorem swapped_cue {entries entries' : List Value}
    (handed : List.Forall₂ (Value.Swapped twin twin') entries entries') (callback? : Option Nat) :
    Swapped twin twin' (cue s entries callback? tasks) (cue t entries' callback? tasks') := by
  unfold cue
  rcases commands_swapped handed with ⟨failure, error, error'⟩ | ⟨batch, batch', ok, ok', batches⟩
  · rw [error, error']
    exact .intro _ same alike
  · rw [ok, ok']
    dsimp only
    rw [same.phase_eq, same.live_eq]
    split
    · exact swapped_halt same (.cons (.cueing callback? batches) alike) .cancelled
    · exact swapped_receive same alike twins batches callback?

end Twins

end Work

theorem observerFault_same {s t : Scheduler} (same : s.Swapped twin twin' t) (event : Event)
    (failure : Failure) : observerFault t event failure = observerFault s event failure := by
  cases failure with
  | fault fault => rfl
  | _ => simp only [observerFault, same.journal_eq]

theorem Swapped.site?_eq {e f : Engine} (swapped : Swapped twin twin' e f) :
    f.site? = e.site? := by
  obtain ⟨signal, _, alike⟩ := swapped
  cases alike with
  | nil => rfl
  | @cons task _ _ _ first _ =>
    cases first with
    | same => cases task <;> rfl
    | cueing callback? batches => rfl

section Twins

variable (twins : twin.Twins twin')
include twins

theorem Swapped.perform {e f : Engine} (swapped : Swapped twin twin' e f) {move move' : Move}
    (moves : move.Swapped twin twin' move')
    (spared : ∀ {s : Scheduler}, e.stepping? (.move move) = some s → s.Spares twin) :
    Swapped twin twin' (e.perform move) (f.perform move') := by
  obtain @⟨s, t, tasks, tasks', signal, same, alike⟩ := swapped
  cases moves with
  | cue callback? handed => exact swapped_cue same alike twins handed callback?
  | define definitions =>
    exact .intro _ (same.define twins (Registry.procedureOf_swapped twins definitions)) alike
  | same =>
    cases move with
    | cue entries callback? =>
      have handed : List.Forall₂ (Value.Swapped twin twin') entries entries :=
        List.forall₂_same.mpr fun value _ => .same value
      exact swapped_cue same alike twins handed callback?
    | stop => exact .intro _ same.stop alike
    | step => exact swapped_takeStep same alike twins (spared rfl)
    | fire position =>
      have timer_eq : t.timers[position]? = s.timers[position]? := by rw [same.timers_eq]
      simp only [Engine.perform, timer_eq]
      cases found : s.timers[position]? with
      | none => exact .intro _ same alike
      | some timer =>
        refine swapped_resume (same.expire position) alike twins timer fun current => ?_
        exact spared (by simpa [stepping?, found] using current)
    | attach event observer => exact .intro _ (same.attach event observer) alike
    | define name params body => exact .intro _ (same.define twins (.same _)) alike
    | prime => exact .intro _ same.prime alike
    | enqueue commands => exact .intro _ (same.enqueue (Command.allSwapped_same commands)) alike
    | finish => exact .intro _ same (List.forall₂_drop 1 alike)
    | raise failure => exact .intro _ same (List.forall₂_drop 1 alike)

theorem next_of_same {s t : Scheduler} {tasks tasks' : List Task} {task : Task} {signal : Signal}
    {next : Engine} (same : s.Swapped twin twin' t)
    (alike : List.Forall₂ (Task.Swapped twin twin') tasks tasks') (hears : task.Hears signal)
    (spared : ∀ {u : Scheduler}, stepping? ⟨s, task :: tasks, signal⟩ .work = some u →
      u.Spares twin)
    (worked : next? ⟨s, task :: tasks, signal⟩ = some next) :
    ∃ next', next? ⟨t, task :: tasks', signal⟩ = some next' ∧ Swapped twin twin' next next' := by
  cases task
  case foreign site => simp [next?] at worked
  all_goals
    obtain rfl := Option.some.inj worked
    refine ⟨_, rfl, ?_⟩
  case cueing batch callback? =>
    cases signal with
    | raised failure => exact .intro _ same alike
    | _ => exact swapped_receive same alike twins (Command.allSwapped_same batch) callback?
  case starting =>
    cases hears with
    | returned => exact swapped_takeStep same (.cons (.same _) alike) twins (spared rfl)
    | raised failure => exact .intro _ same alike
  case running =>
    cases hears with
    | answered more =>
      cases more with
      | true => exact swapped_takeStep same (.cons (.same _) alike) twins (spared rfl)
      | false => exact .intro _ same alike
    | returned apart => exact absurd rfl apart
    | raised failure => exact swapped_halt same (.cons (.same _) alike) .cancelled
  case rethrow failure =>
    cases signal with
    | raised later => exact .intro _ same alike
    | _ => exact .intro _ same alike
  case announcing notice rest =>
    cases signal with
    | raised failure =>
      dsimp only
      rw [observerFault_same same]
      exact swapped_report same alike _
    | _ => exact swapped_tell same alike notice rest
  case reporting fault rest =>
    cases signal with
    | raised failure => exact .intro _ (same.addReport _) alike
    | _ => exact swapped_tellFault same alike fault rfl
  case painting leaf primitive rest =>
    cases signal with
    | raised failure =>
      cases failure with
      | fault fault => exact swapped_report same (.cons (.same _) alike) fault
      | _ => exact .intro _ same alike
    | _ => exact swapped_paint same alike leaf primitive rest
  case pausing =>
    cases signal with
    | raised failure => exact .intro _ same alike
    | _ => exact swapped_pause same alike
  case settling result rest =>
    cases signal with
    | raised failure => exact .intro _ same alike
    | _ => exact swapped_settle same alike result rest
  case stepped more =>
    cases signal with
    | raised failure => exact .intro _ same alike
    | _ => exact .intro _ same alike

theorem Swapped.next {e f next : Engine} {rules : Rules} (swapped : Swapped twin twin' e f)
    (shaped : e.Shaped rules)
    (spared : ∀ {u : Scheduler}, e.stepping? .work = some u → u.Spares twin)
    (worked : e.next? = some next) :
    ∃ next', f.next? = some next' ∧ Swapped twin twin' next next' := by
  obtain ⟨signal, same, alike⟩ := swapped
  cases alike with
  | nil => simp [next?] at worked
  | cons first alike =>
    cases first with
    | same =>
      cases shaped with
      | intro _ hears => exact next_of_same twins same alike hears spared worked
    | cueing callback? batches =>
      obtain rfl := Option.some.inj worked
      refine ⟨_, rfl, ?_⟩
      cases signal with
      | raised failure => exact .intro _ same alike
      | _ => exact swapped_receive same alike twins batches callback?

end Twins

end Engine

/-- Definitions may have been swapped in what a turn brings in. -/
inductive Turn.Swapped (twin twin' : Procedure) : Turn → Turn → Prop where
  | work : Swapped twin twin' .work .work
  | move {move move' : Engine.Move} : move.Swapped twin twin' move' →
      Swapped twin twin' (.move move) (.move move')

/-- A turn does not call a procedure without arguments. -/
def Moment.Spares (procedure : Procedure) (m : Moment) : Prop :=
  ∀ {s : Scheduler}, m.before.stepping? m.turn = some s → s.Spares procedure

theorem Site.offers_swapped (site : Site) {move move' : Engine.Move}
    (moves : move.Swapped twin twin' move') : site.offers move' = site.offers move := by
  cases moves with
  | same => rfl
  | cue => cases site <;> rfl
  | define => cases site <;> rfl

theorem Engine.Swapped.turn (twins : twin.Twins twin') {e f next : Engine} {turn turn' : Turn}
    (swapped : Engine.Swapped twin twin' e f) (turns : turn.Swapped twin twin' turn')
    (shaped : e.Shaped .free) (spared : Moment.Spares twin ⟨e, turn, next⟩)
    (taken : e.turn? .free turn = some next) :
    ∃ next', f.turn? .free turn' = some next' ∧ Engine.Swapped twin twin' next next' := by
  cases turns with
  | work => exact swapped.next twins shaped spared taken
  | @move move move' moves =>
    unfold Engine.turn? at taken ⊢
    dsimp only at taken ⊢
    rw [swapped.site?_eq]
    cases here : e.site? with
    | none => simp [here] at taken
    | some site =>
      simp only [here, Rules.free, Bool.and_true] at taken ⊢
      rw [site.offers_swapped moves]
      split at taken
      · rename_i offered
        obtain rfl := Option.some.inj taken
        rw [if_pos offered]
        exact ⟨_, rfl, swapped.perform twins moves spared⟩
      · contradiction

/-- A play that does not call the first twin without arguments goes on turn by turn where the other
twin has taken its place. -/
theorem Plays.swapped (twins : twin.Twins twin') {start start' : Scheduler} {past : List Moment}
    {now : Engine} (played : Plays .free (.atRest start) past now)
    (starts : start.Swapped twin twin' start') (spared : ∀ m ∈ past, m.Spares twin)
    {turns' : List Turn}
    (turns : List.Forall₂ (Turn.Swapped twin twin') (past.map Moment.turn) turns') :
    ∃ past' now', Plays .free (.atRest start') past' now' ∧ past'.map Moment.turn = turns' ∧
      now.Swapped twin twin' now' := by
  induction played generalizing turns' with
  | start =>
    cases turns
    exact ⟨[], _, .start, rfl, .intro _ starts (.cons (.same _) .nil)⟩
  | turn before taken ih =>
    obtain ⟨turn', rest', first, rest, rfl⟩ := List.forall₂_cons_left_iff.mp turns
    obtain ⟨past', middle, played', turns_eq, between⟩ :=
      ih (fun m member => spared m (List.mem_cons_of_mem _ member)) rest
    obtain ⟨next', taken', after⟩ :=
      between.turn twins first before.shaped (spared _ (List.mem_cons_self ..)) taken
    exact ⟨⟨middle, turn', next'⟩ :: past', next', played'.turn taken',
      by rw [List.map_cons, turns_eq], after⟩

end Turtle
