import Turtle.Proofs.Lexical
import Turtle.Proofs.Likeness
import Turtle.Proofs.Written
import Turtle.Shell.Basic

/-!
# Terminals

The terminal of a shell is a host: its drawing fails where a heading becomes infinite, its observer
prints, and its callback keeps the result.  Outside it waits for the result, and lets one timer go
off after another until it is there.  So what comes out of a text at a terminal can be told from the
course of its run, whatever fuel that takes.
-/

set_option autoImplicit false

namespace Turtle

open Engine StateTransition

namespace Shell

namespace Terminal

def host : Host Terminal where
  draw terminal _ call :=
    ({ terminal with canvas := (terminal.canvas.apply call).1 },
      ⟨false, (terminal.canvas.apply call).2⟩)
  tell terminal _ notice :=
    match notice with
    | .afterPrimitive leaf => leaf.describe?.elim terminal terminal.printLine
    | _ => terminal
  hear terminal _ result _ := { terminal with result? := some result }

/-- An observer prints at most. -/
theorem tell_frame (terminal : Terminal) (id : Nat) (notice : Notice) :
    ∃ outputs, host.tell terminal id notice = { terminal with outputs := outputs } := by
  cases notice with
  | afterPrimitive leaf =>
    cases described : leaf.describe? with
    | none => exact ⟨terminal.outputs, by simp [host, described]⟩
    | some line => exact ⟨_, by simp only [host, described]; rfl⟩
  | _ => exact ⟨terminal.outputs, rfl⟩

/-- Lets the oldest timer go off, as long as there is no result. -/
def pass (terminal : Terminal) (s : Scheduler) : Option (Scene Terminal) :=
  match terminal.result?, s.timers with
  | none, timer :: _ =>
    some (.fire ({ terminal with waiting := true }.put (.pause timer.delay)) s)
  | _, _ => none

/-- What a terminal does outside. -/
def act (terminal : Terminal) (s : Scheduler) : Signal → Option (Scene Terminal)
  | .called => some (.outside terminal s .returned)
  | .raised _ => if terminal.waiting then terminal.pass s else none
  | .returned => terminal.pass s
  | .answered _ => terminal.pass s

variable {terminal : Terminal} {s : Scheduler} {signal : Signal}

/-- With its result a terminal has nothing left to do. -/
theorem act_of_answered {result : RunResult} (answered : terminal.result? = some result)
    (called : signal ≠ .called) : act terminal s signal = none := by
  have passed : terminal.pass s = none := by
    unfold pass
    rw [answered]
  cases signal with
  | called => exact absurd rfl called
  | returned => exact passed
  | answered => exact passed
  | raised failure =>
    unfold act
    dsimp only
    split
    · exact passed
    · rfl

theorem serves : Serves respond host where
  draws terminal s call tasks := by
    refine .single (turn_of_foreign.trans ?_)
    simp only [respond, site?, enter, host]
    generalize terminal.canvas.apply call = drawn
    obtain ⟨canvas, failure?⟩ := drawn
    cases failure? <;> rfl
  tells terminal s id notice tasks writable := by
    cases notice with
    | afterPrimitive leaf =>
      obtain ⟨line, described⟩ := Option.ne_none_iff_exists'.mp writable
      refine .single (turn_of_foreign.trans ?_)
      simp only [respond, site?, enter, host, described, Option.elim]
      rfl
    | _ => exact .single rfl
  hears terminal s id result tasks := .single rfl

/-- The answer of a terminal outside is what it does there. -/
theorem respond_outside (called : signal ≠ .called) :
    respond terminal ⟨s, [.foreign .outside], signal⟩ =
      (act terminal s signal).map Scene.engine := by
  have waits : terminal.wait ⟨s, [.foreign .outside], signal⟩ =
      (terminal.pass s).map Scene.engine := by
    unfold wait pass
    dsimp only
    cases terminal.result? with
    | some result => rfl
    | none =>
      cases s.timers with
      | nil => rfl
      | cons timer rest => exact congrArg some (Scene.engine_fire _ s signal)
  cases signal with
  | called => exact absurd rfl called
  | returned => exact waits
  | answered => exact waits
  | raised failure =>
    simp only [respond, site?, act]
    split
    · exact waits
    · rfl

theorem respects :
    Respects (host.course act) (turn respond) fun scene p => scene.engine = p := by
  refine serves.respects (fun u s signal scene acted => ?_) (fun u s signal acted => ?_)
  · by_cases called : signal = .called
    · subst called
      obtain rfl := Option.some.inj acted
      exact .single rfl
    · refine .single (turn_of_foreign.trans ?_)
      rw [respond_outside called, acted]
      rfl
  · by_cases called : signal = .called
    · subst called
      contradiction
    · rw [respond_outside called, acted]
      rfl

theorem foldl_silent {notice : Notice} (silent : notice.event ≠ .afterPrimitive) (ids : List Nat)
    (terminal : Terminal) :
    ids.foldl (fun terminal id => host.tell terminal id notice) terminal = terminal := by
  induction ids with
  | nil => rfl
  | cons id rest ih =>
    have told : host.tell terminal id notice = terminal := by
      cases notice with
      | afterPrimitive => exact absurd rfl silent
      | _ => rfl
    rw [List.foldl_cons, told, ih]

theorem announce_silent {notice : Notice} (silent : notice.event ≠ .afterPrimitive) :
    host.announce terminal s notice = terminal :=
  foldl_silent silent _ terminal

/-- The callback of the terminal is called with the result at the end. -/
theorem close_eq {phase : Phase} (running : s.phase = .running)
    (callbacks : s.callbacks = [callback]) :
    host.close terminal s phase =
      ({ terminal with result? := some ⟨phase, s.cycle, s.steps⟩ }, (s.endCycle phase).1) := by
  rw [Host.close_of_running running, callbacks, announce_silent (by simp [Notice.event])]
  rfl

/-- Two terminals have the same drawing and the same result. -/
structure Twin (u v : Terminal) : Prop where
  canvas_eq : v.canvas = u.canvas
  result_eq : v.result? = u.result?

/-- A cycle is being run, no pause is going on, and its result is not there yet. -/
structure Awaiting (u : Terminal) (s : Scheduler) : Prop where
  running : s.phase = .running
  live : s.live = true
  clocked : s.settings.clocked = true
  untimed : s.timers = []
  callbacks : s.callbacks = [callback]
  reported : ∀ report ∈ s.reports, report.cycle ≤ s.cycle
  unanswered : u.result? = none
  unpaused : s.settings.animate = false → u.waiting = false

theorem keeps_awaiting : host.Keeps Awaiting where
  enter _ _ _ before := { before with }
  report _ _ before := {
    before with
    reported := fun report member => by
      rcases List.mem_cons.mp member with rfl | earlier
      · exact Nat.le_refl _
      · exact before.reported report earlier }
  draw _ before := { before with }
  tell _ notice before := by
    obtain ⟨outputs, told⟩ := tell_frame _ _ notice
    rw [told]
    exact { before with }

theorem Awaiting.step (awaiting : Awaiting terminal s) : Awaiting terminal s.step.1 := by
  obtain ⟨queue, stack, journal, steps, registry, frame⟩ := s.step_frame
  rw [frame]
  exact { awaiting with }

/-- When a pause is over the run goes on. -/
theorem reaches_past_pause (awaiting : Awaiting terminal s) :
    Reaches₁ (host.course act) (.outside terminal s.arm .returned)
      (.stepping ({ terminal with waiting := true }.put (.pause s.settings.delay)) s) := by
  refine .single ?_
  have timers : s.arm.timers = [⟨s.settings.delay, s.generation⟩] :=
    congrArg (· ++ [(⟨s.settings.delay, s.generation⟩ : Timer)]) awaiting.untimed
  have cleared : ({ s.arm with timers := [] } : Scheduler) = s := by
    rw [← awaiting.untimed]
    rfl
  have fired : ∀ w : Terminal, Scene.fire w s.arm = .stepping w s := by
    intro w
    unfold Scene.fire
    rw [timers]
    exact (if_pos rfl).trans (congrArg _ cleared)
  change act terminal s.arm .returned = _
  simp only [act, pass, awaiting.unanswered, timers, fired]

end Terminal

/-! ## The outcome of a text -/

namespace Ending

def exits (code : Nat) : Ending → Bool
  | exit other => other = code
  | failed _ => false

def fails : Ending → Bool
  | exit _ => false
  | failed _ => true

theorem exits_iff {ending : Ending} {code : Nat} :
    ending.exits code = true ↔ ending = .exit code := by
  cases ending <;> simp [exits]

theorem fails_iff {ending : Ending} :
    ending.fails = true ↔ ∃ failure, ending = .failed failure := by
  cases ending <;> simp [fails]

end Ending

/-- What comes out of a text, however long it takes. -/
def outcome (shell : Shell) (text : String) (asJson : Bool) : Part (Shell × Ending) :=
  match shell.execution text with
  | .error fault => .some (shell.complain fault, .exit 1)
  | .ok execution =>
    (eval (turn Terminal.respond) (execution.terminal, execution.engine)).map fun ended =>
      shell.conclude ⟨ended.1, ended.2⟩ asJson

variable {shell : Shell} {text : String} {asJson : Bool}

theorem Execution.isOver_iff {execution : Execution} :
    execution.isOver = true ↔
      turn Terminal.respond (execution.terminal, execution.engine) = none := by
  unfold isOver turn
  cases execution.engine.next? with
  | some next => simp
  | none => simp

theorem mem_outcome {ended : Shell × Ending} :
    ended ∈ shell.outcome text asJson ↔ ∃ fuel, shell.runText fuel text asJson = some ended := by
  unfold outcome runText
  cases shell.execution text with
  | error fault => simp [eq_comm]
  | ok execution =>
    have halts : ∀ fuel, (execution.run fuel).isOver = true ↔
        turn Terminal.respond (drive Terminal.respond fuel execution.terminal execution.engine) =
          none := fun fuel => Execution.isOver_iff
    simp only [Part.mem_map_iff, mem_eval_turn, Option.ite_none_right_eq_some, Option.some.injEq,
      halts]
    constructor
    · rintro ⟨_, ⟨⟨fuel, rfl⟩, stuck⟩, rfl⟩
      exact ⟨fuel, stuck, rfl⟩
    · rintro ⟨fuel, stuck, rfl⟩
      exact ⟨_, ⟨⟨fuel, rfl⟩, stuck⟩, rfl⟩

/-- Once there is enough fuel, more of it makes no difference. -/
theorem runText_of_mem {ended : Shell × Ending} (member : ended ∈ shell.outcome text asJson) :
    ∃ count, ∀ fuel, shell.runText (count + fuel) text asJson = some ended := by
  unfold outcome at member
  unfold runText
  generalize shell.execution text = execution? at member ⊢
  cases execution? with
  | error fault =>
    simp only [Part.mem_some_iff] at member
    subst member
    exact ⟨0, fun fuel => rfl⟩
  | ok execution =>
    simp only [Part.mem_map_iff, mem_eval] at member
    obtain ⟨last, ⟨reaches, stuck⟩, rfl⟩ := member
    obtain ⟨count, driven⟩ := drive_of_reaches reaches
    refine ⟨count, fun fuel => ?_⟩
    have ran : execution.run (count + fuel) = ⟨last.1, last.2⟩ := by
      rw [Execution.run, driven, drive_of_none stuck]
    dsimp only
    rw [ran, if_pos (Execution.isOver_iff.mpr stuck)]

theorem lexical_of_parse {file : String} {program : List Command}
    (parsed : parse file text = .ok program) : ∀ command ∈ program, command.Lexical :=
  fun command member => ((representable_of_parse parsed).fits command member).lexical

/-- A terminal whose program is about to be run. -/
def Terminal.ready (terminal : Terminal) : Terminal :=
  { terminal with result? := none, waiting := false }

/-- Where the course of a program begins. -/
def opening (shell : Shell) (program : List Command) : Scene Terminal :=
  Terminal.host.cue shell.terminal.ready shell.sched (program.map .command)
    (some Terminal.callback)

/-- Where no cycle is running a program begins one. -/
theorem opening_eq {program : List Command} (lexical : ∀ command ∈ program, command.Lexical)
    (rests : shell.sched.phase ≠ .running) (clocked : shell.sched.settings.clocked = true) :
    shell.opening program =
      .stepping shell.terminal.ready
        (shell.sched.accept program (some Terminal.callback)).beginCycle := by
  rw [opening, Host.cue, commands_of_lexical lexical]
  dsimp only
  rw [if_neg (by simp [rests]), Host.receive, if_neg rests, if_neg (by simp [clocked])]
  exact congrArg₂ Scene.stepping (Terminal.announce_silent Event.noConfusion) rfl

/-- What stands between two programs. -/
structure Standing where
  registry : Registry
  canvas : Canvas

/-- A shell between two programs. -/
structure Rested (options : Options) (file : String) (standing : Standing) (shell : Shell) :
    Prop where
  options_eq : shell.options = options
  file_eq : shell.file = file
  settings_eq : shell.sched.settings = settings options
  rests : shell.sched.phase ≠ .running
  tidy : shell.sched.Tidy
  untimed : shell.sched.timers = []
  registry_eq : shell.sched.registry = standing.registry
  legible : standing.registry.isLegible = true
  canvas_eq : shell.terminal.canvas = standing.canvas

theorem rested_start (options : Options) (file : String) :
    Rested options file ⟨.empty, .blank⟩ (start options file) := by
  have tidy := Scheduler.tidy_fresh (settings options) (.empty history) .empty
  unfold start
  split
  · exact ⟨rfl, rfl, rfl, Phase.noConfusion, { tidy with }, rfl, rfl, rfl, rfl⟩
  · exact ⟨rfl, rfl, rfl, Phase.noConfusion, tidy, rfl, rfl, rfl, rfl⟩

section Rested

variable {options : Options} {file : String} {standing : Standing}

theorem Rested.clocked (rested : Rested options file standing shell) :
    shell.sched.settings.clocked = true := by
  rw [rested.settings_eq]
  rfl

theorem Rested.awaiting (rested : Rested options file standing shell) (program : List Command) :
    Terminal.Awaiting shell.terminal.ready
      (shell.sched.accept program (some Terminal.callback)).beginCycle where
  running := rfl
  live := rfl
  clocked := rested.clocked
  untimed := rested.untimed
  callbacks := congrArg (· ++ [Terminal.callback]) (rested.tidy.callbacks_eq rested.rests)
  reported report member := Nat.le_succ_of_le (rested.tidy.reported report member)
  unanswered := rfl
  unpaused _ := rfl

end Rested

/-- What comes out of a program is told from the course of its run. -/
theorem outcome_of_parse {program : List Command} (parsed : parse shell.file text = .ok program) :
    shell.outcome text asJson =
      (eval (Terminal.host.course Terminal.act) (shell.opening program)).map fun scene =>
        shell.conclude ⟨scene.engine.1, scene.engine.2⟩ asJson := by
  have begun : Reaches (turn Terminal.respond)
      (shell.terminal.ready, Engine.cue shell.sched (program.map .command)
        (some Terminal.callback) [.foreign .outside]) (shell.opening program).engine :=
    Terminal.serves.reaches_cue _ _ _ _
  have run := reaches_eval begun
  rw [Host.eval_turn Terminal.respects] at run
  unfold outcome execution
  rw [parsed]
  refine (congrArg (Part.map _) run).trans ?_
  rw [Part.map_map]
  rfl

/-! ## What is concluded -/

section Conclude

variable {u : Terminal} {s : Scheduler} {tasks : List Task} {signal : Signal} {result : RunResult}

/-- A report adds lines to the channel of errors, and nothing else is changed. -/
theorem report_eq : shell.report result asJson =
    { shell with terminal := { shell.terminal with
        outputs := ((shell.faultLines result asJson ++
          if shell.options.verbose then [summaryLine shell.terminal.canvas] else []).map
            fun line => Output.err (line ++ "\n")).reverse ++ shell.terminal.outputs } } := by
  have folded : ∀ (lines : List String) (terminal : Terminal),
      lines.foldl Terminal.complainLine terminal = { terminal with
        outputs := (lines.map fun line => Output.err (line ++ "\n")).reverse ++
          terminal.outputs } := by
    intro lines
    induction lines with
    | nil => exact fun _ => rfl
    | cons line rest ih =>
      intro terminal
      rw [List.foldl_cons, ih]
      simp [Terminal.complainLine, Terminal.put]
  exact congrArg (fun terminal => { shell with terminal := terminal }) (folded _ _)

theorem conclude_of_raised {failure : Failure} (unpaused : u.waiting = false) :
    shell.conclude ⟨u, ⟨s, tasks, .raised failure⟩⟩ asJson =
      ({ shell with sched := s, terminal := u }, .failed failure) := by
  simp only [conclude, Execution.result, unpaused]

theorem conclude_of_result (answered : u.result? = some result)
    (kept : u.waiting = true ∨ signal = .returned) :
    shell.conclude ⟨u, ⟨s, tasks, signal⟩⟩ asJson =
      (({ shell with sched := s, terminal := u } : Shell).report result asJson,
        .exit (if (s.faultsOf result.cycle).isEmpty then 0 else 1)) := by
  have concluded : Execution.result ⟨u, ⟨s, tasks, signal⟩⟩ = .ok result := by
    rcases kept with paused | rfl
    · simp only [Execution.result, paused, answered, Option.getD_some]
    · cases waiting : u.waiting <;>
        simp only [Execution.result, waiting, answered, Option.getD_some]
  simp only [conclude, concluded]

end Conclude

end Shell

end Turtle
