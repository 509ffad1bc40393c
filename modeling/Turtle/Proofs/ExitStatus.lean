import Turtle.Proofs.Pauses
import Turtle.Proofs.Terminals
import Turtle.Shell.CommandLine

/-!
# What an exit code of zero says

A command line that runs a program exits with zero if no fault was reported.  Without pauses that is
so just where the program was read and its run was exhausted.  With pauses there is one more way: a
failure that comes out of a step after the first pause is the affair of the clock, so that the cycle
is cancelled without a fault, and the command line goes by its result.

The runs of a program with pauses and without are followed side by side, beat by beat.
-/

set_option autoImplicit false

namespace Turtle

open Engine StateTransition

namespace Shell

open Terminal

/-- A cycle is being run without pauses, and its result is not there yet. -/
structure Underway (u : Terminal) (s : Scheduler) : Prop extends Awaiting u s where
  plain : s.settings.animate = false

/-- A cycle has been run without pauses, and its result is there.  It was exhausted, or a failure
has cancelled it and gone on. -/
structure Finished (u : Terminal) (s : Scheduler) (signal : Signal) : Prop where
  answered : ∃ steps, u.result? = some ⟨s.phase, s.cycle, steps⟩
  unpaused : u.waiting = false
  ended : s.phase = .exhausted ∧ signal = .returned ∨
    s.phase = .cancelled ∧ ∃ failure, signal = .raised failure

/-- A run without pauses is where the run with pauses is, too. -/
inductive Twins (delay : Float) : Scene Terminal → Scene Terminal → Prop where
  | stepping {u v : Terminal} {s : Scheduler} : Twin u v → Underway u s →
    Twins delay (.stepping u s) (.stepping v (s.withPauses delay))
  | outside {u v : Terminal} {s : Scheduler} {signal : Signal} : Twin u v → Finished u s signal →
    Twins delay (.outside u s signal) (.outside v (s.withPauses delay) signal)

section Twins

variable {delay : Float} {u v : Terminal} {s : Scheduler}

theorem like_twin : host.Like host Twin where
  draw _ _ twin := by
    refine ⟨⟨?_, twin.result_eq⟩, ?_⟩ <;> simp only [host, twin.canvas_eq]
  tell {u v} id notice twin := by
    obtain ⟨_, told⟩ := tell_frame u id notice
    obtain ⟨_, told'⟩ := tell_frame v id notice
    rw [told, told']
    exact { twin with }

theorem keeps_underway : host.Keeps Underway where
  enter event at? stack? before :=
    ⟨keeps_awaiting.enter event at? stack? before.toAwaiting, before.plain⟩
  report fault stack? before :=
    ⟨keeps_awaiting.report fault stack? before.toAwaiting, before.plain⟩
  draw call before := ⟨keeps_awaiting.draw call before.toAwaiting, before.plain⟩
  tell id notice before := ⟨keeps_awaiting.tell id notice before.toAwaiting, before.plain⟩

theorem Underway.step (underway : Underway u s) : Underway u s.step.1 :=
  ⟨underway.toAwaiting.step, by rw [s.step_settings, underway.plain]⟩

theorem twins_close {signal : Signal} {phase : Phase} (twin : Twin u v) (underway : Underway u s)
    (ended : phase = .exhausted ∧ signal = .returned ∨
      phase = .cancelled ∧ ∃ failure, signal = .raised failure) :
    Twins delay (.outside (host.close u s phase).1 (host.close u s phase).2 signal)
      (.outside (host.close v (s.withPauses delay) phase).1
        (host.close v (s.withPauses delay) phase).2 signal) := by
  have same : ((s.withPauses delay).endCycle phase).1 = (s.endCycle phase).1.withPauses delay := by
    rcases ended with ⟨rfl, _⟩ | ⟨rfl, _⟩ <;> rfl
  rw [Terminal.close_eq underway.running underway.callbacks,
    Terminal.close_eq (s := s.withPauses delay) underway.running underway.callbacks, same]
  exact .outside ⟨twin.canvas_eq, rfl⟩ ⟨⟨s.steps, rfl⟩, underway.unpaused underway.plain, ended⟩

theorem report_ne_ended (u : Terminal) (s : Scheduler) (fault : Fault) :
    (host.report u s fault).2.2 ≠ .ended := by
  by_cases recordable : s.Recordable
  · obtain ⟨stack?, recorded⟩ := recordable
    rw [Host.report_of_snapshot recorded]
    exact Upshot.noConfusion
  · rw [Host.report_of_unrecordable recordable]
    exact Upshot.noConfusion

theorem paint_ne_ended (leaf : Command) (primitive : Primitive) (calls : List Call) (u : Terminal)
    (s : Scheduler) : (host.paint leaf primitive calls u s).2.2 ≠ .ended := by
  induction calls generalizing u s with
  | nil =>
    by_cases recordable : s.Recordable
    · obtain ⟨stack?, recorded⟩ := recordable
      rw [Host.paint_nil_of_snapshot recorded]
      exact Upshot.noConfusion
    · rw [Host.paint_nil_of_unrecordable recordable]
      exact Upshot.noConfusion
  | cons call rest ih =>
    rw [Host.paint]
    dsimp only
    split
    · exact ih _ _
    · exact report_ne_ended _ _ _
    · exact Upshot.noConfusion

/-- A beat ends the loop of steps by itself only where the cycle has ended. -/
theorem beat_ne_ended (running : s.phase = .running) (going : ¬s.Ending) :
    (host.beat u s).2.2 ≠ .ended := by
  unfold Host.beat
  obtain ⟨next, work, found⟩ : ∃ next work, s.step = (next, work) := ⟨_, _, rfl⟩
  rw [found]
  cases work with
  | answer more =>
    cases more with
    | true => exact Upshot.noConfusion
    | false => exact absurd running (Scheduler.step_eq_answer_false found)
  | draw leaf primitive calls => exact paint_ne_ended leaf primitive calls u next
  | report fault => exact report_ne_ended u next fault
  | halt phase => exact absurd ⟨phase, by rw [found]⟩ going
  | fail failure => exact Upshot.noConfusion

theorem Underway.withPauses (underway : Underway u s) (twin : Twin u v) (delay : Float) :
    Awaiting v (s.withPauses delay) where
  running := underway.running
  live := underway.live
  clocked := rfl
  untimed := underway.untimed
  callbacks := underway.callbacks
  reported := underway.reported
  unanswered := twin.result_eq.trans underway.unanswered
  unpaused paced := absurd paced Bool.noConfusion

/-- After a pause the run with pauses is where the one without them is already. -/
theorem twins_resume {upshot : Upshot} (twin : Twin u v) (underway : Underway u s)
    (onward : upshot ≠ .ended) (delay : Float) :
    ∃ later, Twins delay (host.resume (u, s, upshot)) later ∧
      Reaches (host.course act) (host.resume (v, s.withPauses delay, upshot)) later := by
  cases upshot with
  | drawn =>
    have plain : host.resume (u, s, .drawn) = .stepping u s := by
      simp [Host.resume, underway.plain]
    have paced : host.resume (v, s.withPauses delay, .drawn) =
        .outside v (s.withPauses delay).arm .returned := by
      simp [Host.resume, Scheduler.withPauses, Scheduler.isRunning, underway.running]
    have past := reaches_past_pause (underway.withPauses twin delay)
    rw [plain, paced]
    refine ⟨_, ?_, past.to_reflTransGen⟩
    exact .stepping ⟨twin.canvas_eq, twin.result_eq⟩ underway
  | onward => exact ⟨_, .stepping twin underway, .refl⟩
  | ended => exact absurd rfl onward
  | failed failure => exact ⟨_, twins_close twin underway (Or.inr ⟨rfl, failure, rfl⟩), .refl⟩

/-- The two runs go on side by side. -/
theorem respects_twins : Respects (host.course act) (host.course act) (Twins delay) := by
  intro scene scene' twins
  cases twins with
  | @stepping u v s twin underway =>
    by_cases ending : s.Ending
    · obtain ⟨phase, halts⟩ := ending
      have halts : s.step = (s.step.1, .halt phase) := Prod.ext rfl halts
      have halts' := s.step_withPauses delay
      rw [halts] at halts'
      obtain ⟨_, ⟨stopped, _⟩ | ⟨_, rfl, _⟩⟩ := Scheduler.step_eq_halt halts
      · exact absurd (stopped.symm.trans underway.live) Bool.false_ne_true
      · refine ⟨_, ?_, .single rfl⟩
        rw [Host.beat_of_halt halts, Host.beat_of_halt halts']
        exact twins_close twin underway.step (Or.inl ⟨rfl, rfl⟩)
    · obtain ⟨twin', beat_eq⟩ :=
        Host.beat_alike like_twin (Scheduler.transparent_withPauses delay) twin ending
      have kept := Host.beat_keeps keeps_underway ending underway.step
      have whole : host.beat v (s.withPauses delay) = ((host.beat v (s.withPauses delay)).1,
          (host.beat u s).2.1.withPauses delay, (host.beat u s).2.2) := Prod.ext rfl beat_eq
      obtain ⟨later, related, reaches⟩ :=
        twins_resume twin' kept (beat_ne_ended underway.running ending) delay
      rw [← whole] at reaches
      exact ⟨later, related, .head' rfl reaches⟩
  | @outside u v s signal twin finished =>
    obtain ⟨steps, answered⟩ := finished.answered
    have called : signal ≠ .called := by
      rcases finished.ended with ⟨_, rfl⟩ | ⟨_, failure, rfl⟩ <;> exact Signal.noConfusion
    have stuck : host.course act (.outside u s signal) = none := act_of_answered answered called
    rw [stuck]
    exact act_of_answered (twin.result_eq.trans answered) called

end Twins

/-! ## From the terminal to the exit code -/

/-- A run was exhausted, and no fault was reported. -/
def Succeeded (shell : Shell) : Prop :=
  ∃ result, shell.terminal.result? = some result ∧ result.phase = .exhausted ∧
    shell.sched.faultsOf result.cycle = []

/-- A run was cancelled after a pause, and no fault was reported. -/
def CutShort (shell : Shell) : Prop :=
  shell.terminal.waiting = true ∧ ∃ result, shell.terminal.result? = some result ∧
    result.phase = .cancelled ∧ shell.sched.faultsOf result.cycle = []

theorem not_succeeded {shell : Shell} (unanswered : shell.terminal.result? = none) :
    ¬Succeeded shell ∧ ¬CutShort shell := by
  simp [Succeeded, CutShort, unanswered]

section Conclude

variable {shell : Shell} {u : Terminal} {s : Scheduler} {signal : Signal} {asJson : Bool}
  {result : RunResult}

theorem conclude_shell (shell : Shell) (u : Terminal) (ended : Engine) (asJson : Bool) :
    (shell.conclude ⟨u, ended⟩ asJson).1.terminal.result? = u.result? ∧
      (shell.conclude ⟨u, ended⟩ asJson).1.terminal.waiting = u.waiting ∧
      (shell.conclude ⟨u, ended⟩ asJson).1.sched = ended.sched := by
  unfold conclude
  dsimp only
  split
  · exact ⟨rfl, rfl, rfl⟩
  · rw [report_eq]
    exact ⟨rfl, rfl, rfl⟩

theorem zero_of_result {tasks : List Task} (answered : u.result? = some result)
    (kept : u.waiting = true ∨ signal = .returned) :
    (shell.conclude ⟨u, ⟨s, tasks, signal⟩⟩ asJson).2 = .exit 0 ↔
      s.faultsOf result.cycle = [] := by
  rw [conclude_of_result answered kept]
  cases s.faultsOf result.cycle <;> simp

theorem succeeded_conclude {ended : Engine} (answered : u.result? = some result) :
    Succeeded (shell.conclude ⟨u, ended⟩ asJson).1 ↔
      result.phase = .exhausted ∧ ended.sched.faultsOf result.cycle = [] := by
  obtain ⟨same, _, sched⟩ := conclude_shell shell u ended asJson
  simp [Succeeded, same, sched, answered]

theorem cutShort_conclude {ended : Engine} (answered : u.result? = some result) :
    CutShort (shell.conclude ⟨u, ended⟩ asJson).1 ↔
      u.waiting = true ∧ result.phase = .cancelled ∧ ended.sched.faultsOf result.cycle = [] := by
  obtain ⟨same, waiting, sched⟩ := conclude_shell shell u ended asJson
  simp [CutShort, same, waiting, sched, answered]

end Conclude

section Start

variable {options : Options} {file : String} {program : List Command}

/-- A program begins alike with pauses and without. -/
theorem twins_opening (options : Options) (file : String)
    (lexical : ∀ command ∈ program, command.Lexical) (delay delay' : Float) :
    Twins (delay' / 1000.0)
      ((start { options with animate := false, delay := delay } file).opening program)
      ((start { options with animate := true, delay := delay' } file).opening program) := by
  have rested := rested_start { options with animate := false, delay := delay } file
  have rested' := rested_start { options with animate := true, delay := delay' } file
  rw [opening_eq lexical rested.rests rested.clocked,
    opening_eq lexical rested'.rests rested'.clocked]
  have underway : Underway _ _ := ⟨rested.awaiting program, congrArg Settings.animate
    rested.settings_eq⟩
  obtain ⟨program?, source, animate, delay₀, lost, verbose, trace, json⟩ := options
  cases trace <;> exact .stepping ⟨rfl, rfl⟩ underway

end Start

/-- Where both runs are over, their exit codes can be compared. -/
theorem conclude_alike {delay : Float} {plain paced : Shell} {u v : Terminal} {s : Scheduler}
    {signal : Signal} {asJson : Bool} (twin : Twin u v) (finished : Finished u s signal) :
    let p := plain.conclude ⟨u, ⟨s, [.foreign .outside], signal⟩⟩ asJson
    let q := paced.conclude ⟨v, ⟨s.withPauses delay, [.foreign .outside], signal⟩⟩ asJson
    (p.2 = .exit 0 ↔ Succeeded p.1) ∧ (q.2 = .exit 0 ↔ Succeeded q.1 ∨ CutShort q.1) ∧
      (Succeeded q.1 ↔ Succeeded p.1) ∧ (CutShort q.1 → ∃ failure, p.2 = .failed failure) := by
  obtain ⟨steps, answered⟩ := finished.answered
  have answered' := twin.result_eq.trans answered
  have faults : (s.withPauses delay).faultsOf s.cycle = s.faultsOf s.cycle := rfl
  intro p q
  rw [succeeded_conclude answered, succeeded_conclude answered', cutShort_conclude answered']
  dsimp only
  rw [faults]
  rcases finished.ended with ⟨exhausted, rfl⟩ | ⟨cancelled, failure, rfl⟩
  · rw [zero_of_result answered (Or.inr rfl), zero_of_result answered' (Or.inr rfl), faults,
      exhausted]
    simp
  · have failed : p.2 = .failed failure :=
      congrArg Prod.snd (conclude_of_raised finished.unpaused)
    rw [failed, cancelled]
    cases paused : v.waiting with
    | true =>
      rw [zero_of_result answered' (Or.inl paused), faults]
      simp
    | false =>
      rw [show q.2 = .failed failure from congrArg Prod.snd (conclude_of_raised paused)]
      simp

/-- What comes out of a text without pauses and what comes out of it with them. -/
theorem outcomes_alike (options : Options) (file text : String) (asJson : Bool)
    (delay delay' : Float) :
    let plain := start { options with animate := false, delay := delay } file
    let paced := start { options with animate := true, delay := delay' } file
    ((plain.outcome text asJson).Dom ↔ (paced.outcome text asJson).Dom) ∧
      ∀ p ∈ plain.outcome text asJson, ∀ q ∈ paced.outcome text asJson,
        (p.2 = .exit 0 ↔ Succeeded p.1) ∧ (q.2 = .exit 0 ↔ Succeeded q.1 ∨ CutShort q.1) ∧
          (Succeeded q.1 ↔ Succeeded p.1) ∧ (CutShort q.1 → ∃ failure, p.2 = .failed failure) := by
  intro plain paced
  cases parsed : parse file text with
  | error fault =>
    have complains : plain.outcome text asJson = .some (plain.complain fault, .exit 1) ∧
        paced.outcome text asJson = .some (paced.complain fault, .exit 1) := by
      constructor <;> simp [outcome, execution, plain, paced, start, parsed, Except.map]
    rw [complains.1, complains.2]
    refine ⟨Iff.rfl, fun p here q there => ?_⟩
    obtain rfl := Part.mem_some_iff.mp here
    obtain rfl := Part.mem_some_iff.mp there
    have unanswered : (plain.complain fault).terminal.result? = none := rfl
    have unanswered' : (paced.complain fault).terminal.result? = none := rfl
    simp [not_succeeded unanswered, not_succeeded unanswered']
  | ok program =>
    have parsed' : parse paced.file text = .ok program := parsed
    have parsed : parse plain.file text = .ok program := parsed
    rw [outcome_of_parse parsed, outcome_of_parse parsed']
    have twins := twins_opening options file (lexical_of_parse parsed) delay delay'
    refine ⟨(tr_eval_dom respects_twins twins).symm, ?_⟩
    simp only [Part.mem_map_iff]
    rintro _ ⟨last, ended, rfl⟩ _ ⟨last', ended', rfl⟩
    obtain ⟨other, both, other_ended⟩ := tr_eval respects_twins twins ended
    obtain rfl := Part.mem_unique other_ended ended'
    have stuck := (mem_eval.mp ended).2
    cases both with
    | stepping => exact absurd stuck (Option.some_ne_none _)
    | outside twin finished => exact conclude_alike twin finished

/-! ## The command line -/

/-- Where the program of a command line comes from, and its text. -/
def programText (files : String → Except OpenFault (List UInt8)) (options : Options)
    (word : String) : Except Transcript (String × String) :=
  if options.source then .ok (nameless, word)
  else (fileText word (files word)).map fun text => (word, text)

/-- The program of a command line has been read, and its run has come to an end. -/
def Performs (files : String → Except OpenFault (List UInt8)) (options : Options)
    (word : String) (ended : Shell × Ending) : Prop :=
  ∃ file text program, programText files options word = .ok (file, text) ∧
    parse file text = .ok program ∧
    ended ∈ (start options file).outcome text options.tracebackJson

section CommandLine

variable {files : String → Except OpenFault (List UInt8)} {input word : String}
  {options : Options}

theorem carryOut_program (options : Options) (given : options.program? = some word)
    (timed : options.delayLost = false) (nonneg : ¬options.delay < 0.0) (fuel : Nat) :
    carryOut fuel files input (planOptions options) =
      match programText files options word with
      | .error ended => some ended
      | .ok (file, text) =>
        ((start options file).runText fuel text options.tracebackJson).map transcript := by
  unfold planOptions programText
  rw [if_neg (by simp [timed]), if_neg nonneg, given]
  cases options.source with
  | true => rfl
  | false =>
    simp only [carryOut, Bool.false_eq_true, if_false]
    cases fileText word (files word) <;> rfl

theorem fileText_nonzero {opened : Except OpenFault (List UInt8)} {ended : Transcript}
    (unread : fileText word opened = .error ended) : ended.ending ≠ .exit 0 := by
  unfold fileText at unread
  split at unread
  · cases unread
    exact Ending.noConfusion
  · cases unread
    simp
  · split at unread
    · contradiction
    · cases unread
      exact Ending.noConfusion

theorem programText_nonzero {ended : Transcript}
    (unread : programText files options word = .error ended) : ended.ending ≠ .exit 0 := by
  unfold programText at unread
  split at unread
  · contradiction
  · cases read : fileText word (files word) with
    | ok text => simp [read, Except.map] at unread
    | error other =>
      rw [read] at unread
      cases unread
      exact fileText_nonzero read

theorem parsed_of_zero {shell after : Shell} {text : String} {asJson : Bool}
    (ended : (after, .exit 0) ∈ shell.outcome text asJson) :
    ∃ program, parse shell.file text = .ok program := by
  cases parsed : parse shell.file text with
  | ok program => exact ⟨program, rfl⟩
  | error fault =>
    rw [outcome, execution, parsed] at ended
    have same := Part.mem_some_iff.mp ended
    simp at same

theorem not_performs {ended : Transcript} {good : Shell → Prop}
    (unread : programText files options word = .error ended) :
    ¬∃ shell, Performs files options word (shell, .exit 0) ∧ good shell := by
  rintro ⟨shell, ⟨file, text, program, read, _⟩, _⟩
  cases unread.symm.trans read

/-- There is one end of a run at most. -/
theorem performs_iff {file text : String} {ended : Shell × Ending} (good : Shell → Prop)
    (read : programText files options word = .ok (file, text))
    (ran : ended ∈ (start options file).outcome text options.tracebackJson)
    (zero : good ended.1 → ended.2 = .exit 0) :
    (∃ shell, Performs files options word (shell, .exit 0) ∧ good shell) ↔ good ended.1 := by
  constructor
  · rintro ⟨shell, ⟨file', text', program, read', parsed, ran'⟩, holds⟩
    cases read.symm.trans read'
    rwa [Part.mem_unique ran ran']
  · intro holds
    have same : ended = (ended.1, .exit 0) := Prod.ext rfl (zero holds)
    obtain ⟨program, parsed⟩ := parsed_of_zero (same ▸ ran)
    exact ⟨ended.1, ⟨file, text, program, read, parsed, same ▸ ran⟩, holds⟩

theorem zero_alike {plain paced : Options} {file text : String} {p q : Shell × Ending}
    (read : programText files plain word = .ok (file, text))
    (read' : programText files paced word = .ok (file, text))
    (ran : p ∈ (start plain file).outcome text plain.tracebackJson)
    (ran' : q ∈ (start paced file).outcome text paced.tracebackJson)
    (zero : p.2 = .exit 0 ↔ Succeeded p.1)
    (zero' : q.2 = .exit 0 ↔ Succeeded q.1 ∨ CutShort q.1)
    (succeeds : Succeeded q.1 ↔ Succeeded p.1)
    (cut : CutShort q.1 → ∃ failure, p.2 = .failed failure) :
    (p.2 = .exit 0 ↔
        ∃ shell, Performs files plain word (shell, .exit 0) ∧ Succeeded shell) ∧
      (q.2 = .exit 0 ↔
        ∃ shell, Performs files paced word (shell, .exit 0) ∧ (Succeeded shell ∨ CutShort shell)) ∧
      ((p.2 = .exit 0 ↔ q.2 = .exit 0) ↔
        ¬∃ shell, Performs files paced word (shell, .exit 0) ∧ CutShort shell) := by
  rw [performs_iff Succeeded read ran zero.mpr,
    performs_iff (fun shell => Succeeded shell ∨ CutShort shell) read' ran' zero'.mpr,
    performs_iff CutShort read' ran' fun cut => zero'.mpr (Or.inr cut)]
  refine ⟨zero, zero', ?_⟩
  rw [zero, zero', succeeds]
  have apart : CutShort q.1 → ¬Succeeded p.1 := by
    intro short success
    obtain ⟨failure, failed⟩ := cut short
    exact Ending.noConfusion ((zero.mpr success).symm.trans failed)
  by_cases short : CutShort q.1
  · simp [short, apart short]
  · simp [short]

end CommandLine

/-- An exit code of zero means success, but for runs with pauses that were cut short.  A program is
run without pauses and with them, whatever their length.  The one run comes to an end if and only if
the other does.  The one exits with zero if and only if the program was read, its run was exhausted
and no fault was reported; the other also if it was cancelled after a pause while no fault had been
reported.  In this case, and in no other, the two disagree on whether the exit code is zero. -/
theorem zero_iff_succeeded {files : String → Except OpenFault (List UInt8)} {input word : String}
    {options : Options} {delay delay' : Float} (given : options.program? = some word)
    (timed : options.delayLost = false) (nonneg : ¬delay < 0.0) (nonneg' : ¬delay' < 0.0) :
    let plain := { options with animate := false, delay := delay }
    let paced := { options with animate := true, delay := delay' }
    ((∃ n t, carryOut n files input (planOptions plain) = some t) ↔
      ∃ n t, carryOut n files input (planOptions paced) = some t) ∧
    ∀ n t n' t', carryOut n files input (planOptions plain) = some t →
      carryOut n' files input (planOptions paced) = some t' →
      (t.ending = .exit 0 ↔
        ∃ shell, Performs files plain word (shell, .exit 0) ∧ Succeeded shell) ∧
      (t'.ending = .exit 0 ↔
        ∃ shell, Performs files paced word (shell, .exit 0) ∧ (Succeeded shell ∨ CutShort shell)) ∧
      ((t.ending = .exit 0 ↔ t'.ending = .exit 0) ↔
        ¬∃ shell, Performs files paced word (shell, .exit 0) ∧ CutShort shell) := by
  intro plain paced
  simp only [carryOut_program plain given timed nonneg,
    carryOut_program paced given timed nonneg']
  have same : programText files paced word = programText files plain word := rfl
  rw [same]
  cases read : programText files plain word with
  | error ended =>
    have nonzero := programText_nonzero read
    refine ⟨Iff.rfl, ?_⟩
    rintro n t n' t' here there
    obtain rfl := Option.some.inj here
    obtain rfl := Option.some.inj there
    have never : ∀ good : Shell → Prop,
        ¬∃ shell, Performs files paced word (shell, .exit 0) ∧ good shell :=
      fun _ => not_performs (same.trans read)
    simp [nonzero, not_performs read, never]
  | ok found =>
    obtain ⟨file, text⟩ := found
    dsimp only
    obtain ⟨doms, alike⟩ :=
      outcomes_alike options file text options.tracebackJson delay delay'
    have ends : ∀ shell : Shell, (∃ n t, (shell.runText n text options.tracebackJson).map
        transcript = some t) ↔ (shell.outcome text options.tracebackJson).Dom := by
      intro shell
      rw [Part.dom_iff_mem]
      simp only [mem_outcome, Option.map_eq_some_iff]
      constructor
      · rintro ⟨n, t, ended, ran, _⟩
        exact ⟨ended, n, ran⟩
      · rintro ⟨ended, n, ran⟩
        exact ⟨n, _, ended, ran, rfl⟩
    refine ⟨(ends _).trans (doms.trans (ends _).symm), ?_⟩
    intro n t n' t' here there
    obtain ⟨p, ran, rfl⟩ := Option.map_eq_some_iff.mp here
    obtain ⟨q, ran', rfl⟩ := Option.map_eq_some_iff.mp there
    have p_mem := mem_outcome.mpr ⟨n, ran⟩
    have q_mem := mem_outcome.mpr ⟨n', ran'⟩
    obtain ⟨zero, zero', succeeds, cut⟩ := alike p p_mem q q_mem
    exact zero_alike read read p_mem q_mem zero zero' succeeds cut

/-- A right turn of almost all that a number can hold, made over and over.  In the end the heading
is infinite. -/
def overflowing : String :=
  "repeat 62\n  rt 1.7e308"

/-- Without pauses the last turn fails; with pauses it cuts the run short. -/
theorem overflowing_cut_short :
    ∃ options : Options, options.program? = some overflowing ∧
      ∃ shell, Performs (fun _ => .error .missing) { options with animate := true, delay := 0.0 }
        overflowing (shell, .exit 0) ∧ CutShort shell := by
  let options : Options := { Options.standard with program? := some overflowing, source := true }
  let files : String → Except OpenFault (List UInt8) := fun _ => .error .missing
  refine ⟨options, rfl, ?_⟩
  have plain : (carryOut 4000 files "" (planOptions { options with animate := false, delay := 0.0
      })).map (fun t => t.ending.fails) = some true := by
    decide +kernel
  have paced : (carryOut 4000 files "" (planOptions { options with animate := true, delay := 0.0
      })).map (fun t => t.ending.exits 0) = some true := by
    decide +kernel
  obtain ⟨t, ran, fails⟩ := Option.map_eq_some_iff.mp plain
  obtain ⟨t', ran', exits⟩ := Option.map_eq_some_iff.mp paced
  obtain ⟨failure, failed⟩ := Ending.fails_iff.mp fails
  have zero := Ending.exits_iff.mp exits
  obtain ⟨_, _, disagrees⟩ := (@zero_iff_succeeded files "" overflowing options 0.0 0.0 rfl rfl
    (by decide +kernel) (by decide +kernel)).2 4000 t 4000 t' ran ran'
  refine Classical.not_not.mp fun never => ?_
  have agree := disagrees.mpr never
  rw [zero, failed] at agree
  exact Ending.noConfusion (agree.mpr rfl)

/-- So the command line fails without pauses, and exits with zero with them. -/
theorem overflowing_zero :
    (∃ failure, (run (fun _ => .error .missing) "" ["-source", overflowing]).ending =
        .failed failure) ∧
      (run (fun _ => .error .missing) ""
          ["-source", "--animate", "--delay=0", overflowing]).ending = .exit 0 := by
  have plain :
      (run (fun _ => .error .missing) "" ["-source", overflowing]).ending.fails = true := by
    decide +kernel
  have paced : (run (fun _ => .error .missing) ""
      ["-source", "--animate", "--delay=0", overflowing]).ending.exits 0 = true := by
    decide +kernel
  exact ⟨Ending.fails_iff.mp plain, Ending.exits_iff.mp paced⟩

end Shell

end Turtle
