import Turtle.Proofs.Performance
import Turtle.Shell.CommandLine

/-!
# What a command line meets with

How a command line ends can be told without any run.  Whatever is wrong with its options, its file,
its texts and their commands is shown, and makes the exit code one; but a file that is not made of
characters, a name that no file can have, and a drawing that cannot be carried out end it with a
failure.
-/

set_option autoImplicit false

namespace Turtle

open Engine StateTransition

namespace Shell

open Terminal

/-- What comes of a text whose run comes to its end: what stands after it, and the messages of all
that was wrong with it. -/
inductive Yields (file text : String) (standing : Standing) : Standing → List String → Prop where
  | refused {fault : ParseFault} : parse file text = .error fault →
    Yields file text standing standing [fault.message]
  | performed {program : List Command} {w : World} {canvas : Canvas} :
    parse file text = .ok program → Executes.Batch false program ⟨standing.registry, [], []⟩ w →
      standing.canvas.applyAll w.calls = (canvas, none) →
      Yields file text standing ⟨w.registry, canvas⟩ (w.faults.map Fault.message)

/-- A text is a program with a meaning, but the drawing cannot carry out all the calls of it. -/
inductive Breaks (file text : String) (standing : Standing) : Failure → Prop where
  | mk {program : List Command} {w : World} {canvas : Canvas} {failure : Failure} :
    parse file text = .ok program → Executes.Batch false program ⟨standing.registry, [], []⟩ w →
      standing.canvas.applyAll w.calls = (canvas, some failure) → Breaks file text standing failure

theorem Breaks.undefinedAngle {file text : String} {standing : Standing} {failure : Failure}
    (breaks : Breaks file text standing failure) : failure = .undefinedAngle := by
  obtain ⟨_, _, fails⟩ := breaks
  exact Canvas.applyAll_failure fails

/-- A message stands in a text that was put out on the channel of errors. -/
def Shows (outputs : List Output) (message : String) : Prop :=
  ∃ text, .err text ∈ outputs ∧ message.toList <:+: text.toList

theorem Shows.mono {before after : List Output} {message : String} (shows : Shows before message)
    (grown : before <:+ after) : Shows after message := by
  obtain ⟨text, member, inside⟩ := shows
  exact ⟨text, grown.subset member, inside⟩

/-! ## Faults that are shown -/

section Shown

variable {s : Scheduler} {fault : Fault}

theorem infix_intercalate {separator piece : List Char} {pieces : List (List Char)}
    (member : piece ∈ pieces) : piece <:+: separator.intercalate pieces := by
  induction pieces with
  | nil => exact absurd member List.not_mem_nil
  | cons first rest ih =>
    cases rest with
    | nil =>
      rw [List.intercalate_singleton, List.mem_singleton.mp member]
    | cons second rest =>
      rw [List.intercalate_cons_cons]
      rcases List.mem_cons.mp member with rfl | later
      · exact ⟨[], separator ++ separator.intercalate (second :: rest), by simp⟩
      · exact (ih later).trans (List.suffix_append _ _).isInfix

theorem infix_causeLine : fault.message.toList <:+: (Scheduler.causeLine fault).toList := by
  unfold Scheduler.causeLine
  dsimp only
  simp only [String.toList_append, List.append_assoc]
  exact ⟨fault.cause.kind.name.toList ++ ": ".toList, _, by rw [List.append_assoc,
    List.append_assoc]⟩

theorem infix_traceback (verbose : Bool) :
    fault.message.toList <:+: (s.traceback fault verbose).toList := by
  refine infix_causeLine.trans ?_
  unfold Scheduler.traceback
  rw [String.toList_intercalate]
  refine infix_intercalate (List.mem_map_of_mem ?_)
  exact List.mem_append_right _ (List.mem_singleton_self _)

/-- A report shows the messages of all faults. -/
theorem shows_report {shell : Shell} {result : RunResult} {asJson : Bool}
    (member : fault ∈ shell.sched.faultsOf result.cycle) :
    Shows (shell.report result asJson).terminal.outputs fault.message := by
  refine ⟨shell.sched.traceback fault shell.options.verbose ++ "\n", ?_, ?_⟩
  · rw [report_eq]
    refine List.mem_append_left _ (List.mem_reverse.mpr (List.mem_map_of_mem ?_))
    refine List.mem_append_left _ (List.mem_flatMap_of_mem member ?_)
    exact List.mem_cons_self
  · rw [String.toList_append]
    exact (infix_traceback _).trans (List.prefix_append _ _).isInfix

end Shown

/-! ## A text at a shell -/

section Text

variable {options : Options} {file text : String} {standing : Standing} {shell : Shell}
  {program : List Command} {w : World}

/-- A program begins a cycle. -/
theorem Rested.opening (rested : Rested options file standing shell)
    (parsed : parse file text = .ok program) :
    ∃ begun, shell.opening program = .stepping shell.terminal.ready begun ∧
      Awaiting shell.terminal.ready begun ∧ begun.settings = settings options ∧
      begun.At (shell.sched.cycle + 1) shell.sched.calls
        ⟨standing.registry.defineAll program, [], []⟩ []
        (program.filter fun command => !command.isDefinition) := by
  have begins := rested.tidy.begins rested.rests program (some callback)
  rw [rested.registry_eq] at begins
  exact ⟨_, opening_eq (lexical_of_parse parsed) rested.rests rested.clocked,
    rested.awaiting program, rested.settings_eq, begins⟩

/-- A program with a meaning is performed to where nothing is left to do, or to where the drawing
fails. -/
theorem Rested.reaches (rested : Rested options file standing shell)
    (parsed : parse file text = .ok program)
    (executes : Executes.Batch false program ⟨standing.registry, [], []⟩ w) :
    (∀ canvas, standing.canvas.applyAll w.calls = (canvas, none) → ∃ u s,
      Reaches (host.course act) (shell.opening program) (.stepping u s) ∧ Awaiting u s ∧
        u.canvas = canvas ∧ s.settings = settings options ∧
        s.At (shell.sched.cycle + 1) shell.sched.calls w [] []) ∧
    ∀ canvas failure, standing.canvas.applyAll w.calls = (canvas, some failure) → ∃ u s,
      Reaches (host.course act) (shell.opening program) (host.resume (u, s, .failed failure)) ∧
        Awaiting u s ∧ s.settings = settings options := by
  obtain ⟨begun, opened, awaiting, settled, here⟩ := rested.opening parsed
  have recorded :=
    (executes.recorded (Command.areLegible_of_lexical (lexical_of_parse parsed)) rested.legible
      begun.settings.verbose).1
  obtain ⟨count, last, beats, there⟩ := here.beats_iff.mpr recorded
  have made : last.calls = w.calls.reverse ++ begun.calls :=
    there.calls_eq.trans (congrArg (w.calls.reverse ++ ·) here.calls_eq.symm)
  obtain ⟨performs, breaks⟩ := reaches_beats beats awaiting made
  rw [opened, ← rested.canvas_eq]
  refine ⟨fun canvas drawn => ?_, fun canvas failure fails => ?_⟩
  · obtain ⟨u, reaches, awaiting', same⟩ := performs canvas drawn
    exact ⟨u, last, reaches, awaiting', same, beats.settings.trans settled, there⟩
  · obtain ⟨u, s, reaches, awaiting', same⟩ := breaks canvas failure fails
    exact ⟨u, s, reaches, awaiting', same.trans settled⟩

theorem Rested.grown {scene : Scene Terminal} (rested : Rested options file standing shell)
    (parsed : parse file text = .ok program)
    (reaches : Reaches (host.course act) (shell.opening program) scene) :
    shell.terminal.outputs <:+ scene.foreign.outputs := by
  obtain ⟨begun, opened, _⟩ := rested.opening parsed
  have grown := reaches_outputs reaches
  rwa [opened] at grown

/-- A program whose cycle has ended with a result has come to its end. -/
theorem Rested.mem_outcome {u : Terminal} {s : Scheduler} {signal : Signal} {result : RunResult}
    (rested : Rested options file standing shell) (parsed : parse file text = .ok program)
    (reaches : Reaches (host.course act) (shell.opening program) (.outside u s signal))
    (answered : u.result? = some result) (called : signal ≠ .called) (asJson : Bool) :
    shell.conclude ⟨u, ⟨s, [.foreign .outside], signal⟩⟩ asJson ∈ shell.outcome text asJson := by
  rw [outcome_of_parse (rested.file_eq ▸ parsed), Part.mem_map_iff]
  have stuck : host.course act (.outside u s signal) = none := act_of_answered answered called
  exact ⟨_, mem_eval.mpr ⟨reaches, stuck⟩, rfl⟩

/-- Where nothing is left to do the cycle is exhausted. -/
theorem course_exhausted {u : Terminal} {s : Scheduler} {cycle : Nat} {before : List Call}
    (awaiting : Awaiting u s) (here : s.At cycle before w [] []) :
    host.course act (.stepping u s) =
      some (.outside { u with result? := some ⟨.exhausted, s.cycle, s.steps + 1⟩ }
        (({ s with steps := s.steps + 1 } : Scheduler).endCycle .exhausted).1 .returned) := by
  have stepped : Awaiting u { s with steps := s.steps + 1 } := { awaiting with }
  refine congrArg some ?_
  rw [Host.beat_of_halt here.step_exhausted, close_eq stepped.running stepped.callbacks]
  rfl

theorem course_failed {u : Terminal} {s : Scheduler} {failure : Failure}
    (awaiting : Awaiting u s) :
    host.resume (u, s, .failed failure) =
      .outside { u with result? := some ⟨.cancelled, s.cycle, s.steps⟩ }
        (s.endCycle .cancelled).1 (.raised failure) := by
  rw [Host.resume, close_eq awaiting.running awaiting.callbacks]

/-- What has been told of a text that is performed to its end. -/
structure Told (before after : List Output) (messages : List String) : Prop where
  grown : before <:+ after
  shown : ∀ message ∈ messages, Shows after message

/-- A cycle that has been exhausted leaves a shell between two programs. -/
theorem Rested.exhausted {u : Terminal} {s : Scheduler} {cycle : Nat} {before : List Call}
    {canvas : Canvas} (rested : Rested options file standing shell) (awaiting : Awaiting u s)
    (canvas_eq : u.canvas = canvas) (settled : s.settings = settings options)
    (here : s.At cycle before w [] []) (legible : w.registry.isLegible = true) (steps : Nat)
    (result? : Option RunResult) :
    Rested options file ⟨w.registry, canvas⟩
      { shell with
        sched := (({ s with steps := steps } : Scheduler).endCycle .exhausted).1
        terminal := { u with result? := result? } } := by
  obtain ⟨journal, frame⟩ := ({ s with steps := steps } : Scheduler).endCycle_frame .exhausted
  rw [frame]
  exact {
    options_eq := rested.options_eq
    file_eq := rested.file_eq
    settings_eq := settled
    rests := Phase.noConfusion
    tidy := {
      live_running := fun live => absurd live Bool.false_ne_true
      paced_running := fun paced => absurd paced Bool.false_ne_true
      stack_eq := fun _ => rfl
      waiting_eq := fun _ => rfl
      callbacks_eq := fun _ => rfl
      reported := awaiting.reported }
    untimed := awaiting.untimed
    registry_eq := here.registry_eq
    legible := legible
    canvas_eq := canvas_eq }

theorem Rested.report (rested : Rested options file standing shell) (result : RunResult)
    (asJson : Bool) : Rested options file standing (shell.report result asJson) := by
  rw [report_eq]
  exact { rested with }

theorem Rested.yields {later : Standing} {messages : List String}
    (rested : Rested options file standing shell)
    (yields : Yields file text standing later messages) (asJson : Bool) :
    ∃ after, (after, .exit (if messages.isEmpty then 0 else 1)) ∈ shell.outcome text asJson ∧
      Rested options file later after ∧
      Told shell.terminal.outputs after.terminal.outputs messages := by
  cases yields with
  | @refused fault refused =>
    refine ⟨shell.complain fault, ?_, { rested with }, ⟨List.suffix_cons _ _, ?_⟩⟩
    · rw [outcome, execution, rested.file_eq, refused]
      exact Part.mem_some _
    · intro message member
      obtain rfl := List.mem_singleton.mp member
      refine ⟨_, List.mem_cons_self, "ParseError: ".toList, "\n".toList, ?_⟩
      simp only [String.toList_append]
  | @performed program w canvas parsed executes drawn =>
    -- The faults of a meaning have no step numbers; those that are reported have, but the same
    -- messages.
    obtain ⟨u, s, reaches, awaiting, canvas_eq, settled, here⟩ :=
      (rested.reaches parsed executes).1 canvas drawn
    have ended := reaches.tail (course_exhausted awaiting here)
    have messages : (s.faultsOf s.cycle).map Fault.message = w.faults.map Fault.message := by
      rw [← here.faults_eq, here.cycle_eq, List.map_map]
      rfl
    have legible :=
      (executes.recorded (Command.areLegible_of_lexical (lexical_of_parse parsed)) rested.legible
        false).2
    have closes := rested.exhausted awaiting canvas_eq settled here legible (s.steps + 1)
      (some ⟨.exhausted, s.cycle, s.steps + 1⟩)
    have concluded := rested.mem_outcome parsed ended rfl Signal.noConfusion asJson
    rw [conclude_of_result rfl (Or.inr rfl)] at concluded
    rw [← messages, List.isEmpty_map]
    refine ⟨_, concluded, closes.report _ asJson, ?_, ?_⟩
    · rw [report_eq]
      exact (rested.grown parsed ended).trans (List.suffix_append _ _)
    · intro message member
      obtain ⟨fault, reported, rfl⟩ := List.mem_map.mp member
      exact shows_report reported

theorem Rested.breaks {failure : Failure} (plain : options.animate = false)
    (rested : Rested options file standing shell) (breaks : Breaks file text standing failure)
    (asJson : Bool) :
    ∃ after, (after, .failed failure) ∈ shell.outcome text asJson ∧
      shell.terminal.outputs <:+ after.terminal.outputs := by
  obtain ⟨parsed, executes, fails⟩ := breaks
  obtain ⟨u, s, reaches, awaiting, settled⟩ :=
    (rested.reaches parsed executes).2 _ _ fails
  rw [course_failed awaiting] at reaches
  have unpaused : u.waiting = false := awaiting.unpaused (by rw [settled]; exact plain)
  have concluded := rested.mem_outcome parsed reaches rfl Signal.noConfusion asJson
  rw [conclude_of_raised (by exact unpaused)] at concluded
  exact ⟨_, concluded, rested.grown parsed reaches⟩

end Text

/-! ## Texts one after another -/

/-- What texts lead to that are run one after another: the messages of all that was wrong with them,
and the failure of a drawing that could not be carried out, after which no text is run. -/
inductive Unfolds (file : String) :
    Standing → List String → List String → Option Failure → Prop where
  | done (standing : Standing) : Unfolds file standing [] [] none
  | next {standing later : Standing} {text : String} {rest messages others : List String}
    {failure? : Option Failure} :
    Yields file text standing later messages →
      Unfolds file later rest others failure? →
      Unfolds file standing (text :: rest) (messages ++ others) failure?
  | broken {standing : Standing} {text : String} {rest : List String} {failure : Failure} :
    Breaks file text standing failure →
      Unfolds file standing (text :: rest) [] (some failure)

/-- How a command line ends with some messages, where an earlier code is kept if there are none. -/
def verdict (status : Nat) (messages : List String) : Option Failure → Ending
  | none => .exit (if messages.isEmpty then status else 1)
  | some failure => .failed failure

theorem verdict_append {status : Nat} {messages others : List String}
    {failure? : Option Failure} :
    verdict (if messages.isEmpty then status else 1) others failure? =
      verdict status (messages ++ others) failure? := by
  cases failure? with
  | some failure => rfl
  | none => cases messages <;> cases others <;> rfl

theorem Told.append {before middle after : List Output} {messages others : List String}
    (first : Told before middle messages) (second : Told middle after others) :
    Told before after (messages ++ others) where
  grown := first.grown.trans second.grown
  shown message member := by
    rcases List.mem_append.mp member with early | late
    · exact (first.shown message early).mono second.grown
    · exact second.shown message late

theorem told_nothing {before after : List Output} (grown : before <:+ after) :
    Told before after [] :=
  ⟨grown, fun _ member => absurd member List.not_mem_nil⟩

namespace Repl

/-- The texts that the lines of a conversation give to be run. -/
def texts (buffer : List String) : List String → List String
  | [] => []
  | line :: rest =>
    match react buffer line with
    | .keep kept => texts kept rest
    | .run text => text :: texts [] rest

section Lines

theorem told_prompt (repl : Repl) :
    Told repl.shell.terminal.outputs (prompt repl).shell.terminal.outputs [] :=
  told_nothing (List.suffix_cons _ _)

variable {fuel : Nat} {repl : Repl} {line text : String} {rest : List String} {after : Shell}
  {failure : Failure}

theorem feedAll_of_keep {kept : List String} (reacted : react repl.buffer line = .keep kept) :
    repl.feedAll fuel (line :: rest) =
      (prompt { repl with buffer := kept }).feedAll fuel rest := by
  simp only [feedAll, feed, reacted]

theorem feedAll_of_exit {code : Nat} (reacted : react repl.buffer line = .run text)
    (ran : repl.shell.runText fuel text false = some (after, .exit code)) :
    repl.feedAll fuel (line :: rest) =
      (prompt ⟨after, [], if code = 0 then repl.status else code⟩).feedAll fuel rest := by
  simp only [feedAll, feed, reacted, ran, Option.map_some, resume]

theorem feedAll_of_failed (reacted : react repl.buffer line = .run text)
    (ran : repl.shell.runText fuel text false = some (after, .failed failure)) :
    repl.feedAll fuel (line :: rest) = some (after, .failed failure) := by
  simp only [feedAll, feed, reacted, ran]
  rfl

end Lines

/-- A conversation leads to what its texts lead to. -/
theorem feedAll_of_unfolds {options : Options} {file : String} {standing : Standing} {repl : Repl}
    {lines messages : List String} {failure? : Option Failure}
    (rested : Rested options file standing repl.shell)
    (unfolds : Unfolds file standing (texts repl.buffer lines) messages failure?)
    (plain : failure? = some .undefinedAngle → options.animate = false) :
    ∃ count after, (∀ fuel, repl.feedAll (count + fuel) lines =
        some (after, verdict repl.status messages failure?)) ∧
      Told repl.shell.terminal.outputs after.terminal.outputs messages := by
  induction lines generalizing repl standing messages with
  | nil =>
    cases unfolds
    exact ⟨0, _, fun _ => rfl, told_nothing (List.suffix_cons _ _)⟩
  | cons line rest ih =>
    rw [texts] at unfolds
    cases reacted : react repl.buffer line with
    | keep kept =>
      rw [reacted] at unfolds
      have prompted : Rested options file standing (prompt { repl with buffer := kept }).shell :=
        { rested with }
      obtain ⟨count, after, fed, told⟩ := ih prompted unfolds
      exact ⟨count, after, fun fuel => (feedAll_of_keep reacted).trans (fed fuel),
        (told_prompt { repl with buffer := kept }).append told⟩
    | run text =>
      rw [reacted] at unfolds
      cases unfolds with
      | @next _ later _ _ messages others _ yields unfolds =>
        -- All texts are given the same fuel, so what is enough for this one and for the rest is
        -- added.
        obtain ⟨middle, member, rested', told⟩ := rested.yields yields false
        obtain ⟨first, ran⟩ := runText_of_mem member
        let code := if messages.isEmpty then 0 else 1
        let resumed : Repl := ⟨middle, [], if code = 0 then repl.status else code⟩
        have status_eq : resumed.status = if messages.isEmpty then repl.status else 1 := by
          cases messages <;> rfl
        have prompted : Rested options file later (prompt resumed).shell := { rested' with }
        obtain ⟨second, after, fed, told'⟩ := ih prompted unfolds
        refine ⟨first + second, after, fun fuel => ?_,
          told.append ((told_prompt resumed).append told')⟩
        rw [Nat.add_assoc, feedAll_of_exit reacted (ran _), Nat.add_left_comm, fed,
          ← verdict_append, ← status_eq]
        rfl
      | @broken _ _ _ failure breaks =>
        obtain rfl := breaks.undefinedAngle
        obtain ⟨after, member, grown⟩ := rested.breaks (plain rfl) breaks false
        obtain ⟨count, ran⟩ := runText_of_mem member
        exact ⟨count, after, fun fuel => feedAll_of_failed reacted (ran fuel),
          told_nothing grown⟩

end Repl

/-! ## The command line -/

/-- What a plan leads to: the messages of all that is wrong with it, and the failure that it ends
with, if any. -/
inductive Plan.Meets (files : String → Except OpenFault (List UInt8)) (input : String) :
    Plan → List String → Option Failure → Prop where
  | complain (message : String) : Meets files input (.complain message) [message] none
  | fail (failure : Failure) : Meets files input (.fail failure) [] (some failure)
  | converse {options : Options} {messages : List String} {failure? : Option Failure} :
    Unfolds nameless ⟨.empty, .blank⟩ (Repl.texts [] (inputLines input)) messages failure? →
      Meets files input (.converse options) messages failure?
  | runSource {options : Options} {text : String} {messages : List String}
    {failure? : Option Failure} :
    Unfolds nameless ⟨.empty, .blank⟩ [text] messages failure? →
      Meets files input (.runSource options text) messages failure?
  | refused {options : Options} {name reason : String} {code : Nat} :
    files name = .error (.refused code reason) →
      Meets files input (.runFile options name)
        ["Failed to read " ++ name ++ ": " ++ refusalMessage code reason name] none
  | nullInName {options : Options} {name : String} : files name = .error .nullInName →
    Meets files input (.runFile options name) [] (some .nullInName)
  | undecodable {options : Options} {name : String} {bytes : List UInt8} {failure : Failure} :
    files name = .ok bytes → textOfBytes bytes = .error failure →
      Meets files input (.runFile options name) [] (some failure)
  | runFile {options : Options} {name text : String} {bytes : List UInt8} {messages : List String}
    {failure? : Option Failure} :
    files name = .ok bytes → textOfBytes bytes = .ok text →
      Unfolds name ⟨.empty, .blank⟩ [text] messages failure? →
      Meets files input (.runFile options name) messages failure?

/-- All the programs among some texts have a meaning, each with the definitions of those before
it. -/
inductive Halts (file : String) : Registry → List String → Prop where
  | done (registry : Registry) : Halts file registry []
  | refused {registry : Registry} {text : String} {rest : List String} {fault : ParseFault} :
    parse file text = .error fault → Halts file registry rest → Halts file registry (text :: rest)
  | performed {registry : Registry} {text : String} {rest : List String} {program : List Command}
    {w : World} :
    parse file text = .ok program → Executes.Batch false program ⟨registry, [], []⟩ w →
      Halts file w.registry rest → Halts file registry (text :: rest)

/-- Whatever is run for a plan has a meaning, as far as it is a program. -/
def Plan.Halts (files : String → Except OpenFault (List UInt8)) (input : String) : Plan → Prop
  | .converse _ => Shell.Halts nameless .empty (Repl.texts [] (inputLines input))
  | .runSource _ text => Shell.Halts nameless .empty [text]
  | .runFile _ name => ∀ bytes text, files name = .ok bytes → textOfBytes bytes = .ok text →
      Shell.Halts name .empty [text]
  | _ => True

section CommandLine

variable {files : String → Except OpenFault (List UInt8)} {input : String}

theorem unfolds_of_halts {file : String} {registry : Registry} {texts : List String}
    (halts : Halts file registry texts) (canvas : Canvas) :
    ∃ messages failure?, Unfolds file ⟨registry, canvas⟩ texts messages failure? := by
  induction halts generalizing canvas with
  | done registry => exact ⟨_, _, .done _⟩
  | refused refused _ ih =>
    obtain ⟨others, failure?, unfolds⟩ := ih canvas
    exact ⟨_, _, .next (.refused refused) unfolds⟩
  | @performed registry _ _ _ w parsed executes _ ih =>
    obtain ⟨last, failure?, drawn⟩ :
        ∃ last failure?, canvas.applyAll w.calls = (last, failure?) := ⟨_, _, rfl⟩
    cases failure? with
    | some failure => exact ⟨_, _, .broken (.mk parsed executes drawn)⟩
    | none =>
      obtain ⟨others, failure?, unfolds⟩ := ih last
      exact ⟨_, _, .next (.performed parsed executes drawn) unfolds⟩

theorem Plan.meets_of_halts {plan : Plan} (accepted : plan ≠ .help ∧ plan ≠ .usage)
    (halts : plan.Halts files input) :
    ∃ messages failure?, plan.Meets files input messages failure? := by
  cases plan with
  | help => exact absurd rfl accepted.1
  | usage => exact absurd rfl accepted.2
  | complain message => exact ⟨_, _, .complain message⟩
  | fail failure => exact ⟨_, _, .fail failure⟩
  | converse options =>
    obtain ⟨messages, failure?, unfolds⟩ := unfolds_of_halts halts .blank
    exact ⟨_, _, .converse unfolds⟩
  | runSource options text =>
    obtain ⟨messages, failure?, unfolds⟩ := unfolds_of_halts halts .blank
    exact ⟨_, _, .runSource unfolds⟩
  | runFile options name =>
    cases opened : files name with
    | error fault =>
      cases fault with
      | refused code reason => exact ⟨_, _, .refused opened⟩
      | nullInName => exact ⟨_, _, .nullInName opened⟩
    | ok bytes =>
      cases decoded : textOfBytes bytes with
      | error failure => exact ⟨_, _, .undecodable opened decoded⟩
      | ok text =>
        obtain ⟨messages, failure?, unfolds⟩ :=
          unfolds_of_halts (halts bytes text opened decoded) .blank
        exact ⟨_, _, .runFile opened decoded unfolds⟩

theorem runText_of_unfolds {options : Options} {file text : String} {standing : Standing}
    {shell : Shell} {messages : List String} {failure? : Option Failure}
    (rested : Rested options file standing shell)
    (unfolds : Unfolds file standing [text] messages failure?)
    (plain : failure? = some .undefinedAngle → options.animate = false) (asJson : Bool) :
    ∃ count after, (∀ fuel, shell.runText (count + fuel) text asJson =
        some (after, verdict 0 messages failure?)) ∧
      Told shell.terminal.outputs after.terminal.outputs messages := by
  cases unfolds with
  | next yields rest =>
    cases rest
    obtain ⟨after, member, _, told⟩ := rested.yields yields asJson
    obtain ⟨count, ran⟩ := runText_of_mem member
    rw [List.append_nil]
    exact ⟨count, after, ran, told⟩
  | broken breaks =>
    obtain rfl := breaks.undefinedAngle
    obtain ⟨after, member, grown⟩ := rested.breaks (plain rfl) breaks asJson
    obtain ⟨count, ran⟩ := runText_of_mem member
    exact ⟨count, after, ran, told_nothing grown⟩

theorem infix_flatMap {α : Type} (piece : α → List Char) {items : List α} {item : α}
    (member : item ∈ items) : piece item <:+: items.flatMap piece := by
  obtain ⟨before, after, rfl⟩ := List.append_of_mem member
  rw [List.flatMap_append, List.flatMap_cons]
  exact ⟨before.flatMap piece, after.flatMap piece, List.append_assoc _ _ _⟩

theorem infix_stderr {t : Transcript} {message : String} (shows : Shows t.outputs message) :
    message.toList <:+: t.stderr.toList := by
  obtain ⟨text, member, inside⟩ := shows
  unfold Transcript.stderr
  rw [String.toList_join]
  exact inside.trans (infix_flatMap String.toList (List.mem_map.mpr ⟨_, member, rfl⟩))

theorem planOptions_cases (options : Options) :
    (∃ failure, planOptions options = .fail failure) ∨
      (∃ message, planOptions options = .complain message) ∨
      planOptions options = .converse options ∨
      (∃ text, planOptions options = .runSource options text) ∨
      ∃ name, planOptions options = .runFile options name := by
  unfold planOptions
  split
  · exact .inl ⟨_, rfl⟩
  · split
    · exact .inr (.inl ⟨_, rfl⟩)
    · split
      · exact .inr (.inl ⟨_, rfl⟩)
      · exact .inr (.inr (.inl rfl))
      · exact .inr (.inr (.inr (.inl ⟨_, rfl⟩)))
      · exact .inr (.inr (.inr (.inr ⟨_, rfl⟩)))

theorem shows_whole (message suffix : String) :
    ∀ other ∈ [message], Shows [.err (message ++ suffix)] other := by
  intro other member
  obtain rfl := List.mem_singleton.mp member
  refine ⟨_, List.mem_singleton_self _, ?_⟩
  rw [String.toList_append]
  exact (List.prefix_append _ _).isInfix

theorem Told.shows {before : List Output} {after : Shell × Ending} {messages : List String}
    (told : Told before after.1.terminal.outputs messages) :
    ∀ message ∈ messages, Shows (transcript after).outputs message := by
  intro message member
  obtain ⟨text, output, inside⟩ := told.shown message member
  exact ⟨text, List.mem_reverse.mpr output, inside⟩

theorem carryOut_of_meets {options : Options} {messages : List String} {failure? : Option Failure}
    (meets : (planOptions options).Meets files input messages failure?)
    (plain : failure? = some .undefinedAngle → options.animate = false) :
    ∃ count t, (∀ fuel, carryOut (count + fuel) files input (planOptions options) = some t) ∧
      t.ending = verdict 0 messages failure? ∧
      ∀ message ∈ messages, Shows t.outputs message := by
  have nothing : ∀ outputs, ∀ message ∈ ([] : List String), Shows outputs message :=
    fun _ _ member => absurd member List.not_mem_nil
  rcases planOptions_cases options with
    ⟨failure, planned⟩ | ⟨message, planned⟩ | planned | ⟨text, planned⟩ | ⟨name, planned⟩ <;>
      rw [planned] at meets ⊢
  · cases meets
    exact ⟨0, ⟨[], .failed failure⟩, fun _ => rfl, rfl, nothing _⟩
  · cases meets
    exact ⟨0, ⟨[.err (message ++ "\n")], .exit 1⟩, fun _ => rfl, rfl, shows_whole message "\n"⟩
  · cases meets with
    | converse unfolds =>
      have greeted : Rested options nameless ⟨.empty, .blank⟩
          (Repl.start (start options nameless)).shell :=
        { rested_start options nameless with }
      obtain ⟨count, after, fed, told⟩ := Repl.feedAll_of_unfolds greeted unfolds plain
      refine ⟨count, transcript (after, verdict 0 messages failure?), fun fuel => ?_, rfl,
        told.shows⟩
      simp only [carryOut, fed, Option.map_some]
      rfl
  · cases meets with
    | runSource unfolds =>
      obtain ⟨count, after, ran, told⟩ := runText_of_unfolds (rested_start options nameless)
        unfolds plain options.tracebackJson
      refine ⟨count, transcript (after, verdict 0 messages failure?), fun fuel => ?_, rfl,
        told.shows⟩
      simp only [carryOut, ran, Option.map_some]
  · cases meets with
    | @refused _ _ reason code opened =>
      refine ⟨0, ⟨[.err (_ ++ "\n")], .exit 1⟩, fun _ => ?_, rfl, shows_whole _ "\n"⟩
      simp only [carryOut, opened, fileText]
    | nullInName opened =>
      refine ⟨0, ⟨[], .failed .nullInName⟩, fun _ => ?_, rfl, nothing _⟩
      simp only [carryOut, opened, fileText]
    | @undecodable _ _ _ failure opened undecodable =>
      refine ⟨0, ⟨[], .failed failure⟩, fun _ => ?_, rfl, nothing _⟩
      simp only [carryOut, opened, fileText, undecodable]
    | @runFile _ _ text _ _ _ opened decoded unfolds =>
      obtain ⟨count, after, ran, told⟩ := runText_of_unfolds (rested_start options name)
        unfolds plain options.tracebackJson
      refine ⟨count, transcript (after, verdict 0 messages failure?), fun fuel => ?_, rfl,
        told.shows⟩
      simp only [carryOut, opened, fileText, decoded, ran, Option.map_some]

end CommandLine

/-- A command line whose programs are all finite meets with something, and it ends accordingly, once
there is enough fuel.  All that is wrong is shown on the channel of errors and makes the exit code
one; if nothing is wrong the exit code is zero.  Only if there is a failure among what it meets with
does it end with that failure: a file of bytes that are no characters, a name that no file can have,
or, if there are no pauses, a drawing that cannot be carried out. -/
theorem ends_as_met {files : String → Except OpenFault (List UInt8)} {input : String}
    {words : List String} {options : Options} (accepted : Options.read words = .ok options)
    (halts : (plan words).Halts files input) :
    (∃ messages failure?, (plan words).Meets files input messages failure?) ∧
    ∀ messages failure?, (plan words).Meets files input messages failure? →
      (failure? = some .undefinedAngle → options.animate = false) →
      ∃ count t, (∀ fuel, carryOut (count + fuel) files input (plan words) = some t) ∧
        t.ending = verdict 0 messages failure? ∧
        ∀ message ∈ messages, message.toList <:+: t.stderr.toList := by
  have planned : plan words = planOptions options := by rw [plan, accepted]
  rw [planned] at halts ⊢
  refine ⟨Plan.meets_of_halts ?_ halts, fun messages failure? meets plain => ?_⟩
  · rcases planOptions_cases options with
      ⟨_, same⟩ | ⟨_, same⟩ | same | ⟨_, same⟩ | ⟨_, same⟩ <;>
        rw [same] <;> exact ⟨Plan.noConfusion, Plan.noConfusion⟩
  · obtain ⟨count, t, carried, ended, shown⟩ := carryOut_of_meets meets plain
    exact ⟨count, t, carried, ended, fun message member => infix_stderr (shown message member)⟩

/-- A conversation in which a procedure is defined, a word is said that stands for nothing, and the
procedure is called. -/
def lifting : String :=
  "to a\n  pu\n\nb\na\n"

/-- The word that stands for nothing is shown, and makes the exit code one. -/
theorem lifting_shows : ∃ count t,
    (∀ fuel, carryOut (count + fuel) (fun _ => .error .missing) lifting (plan []) = some t) ∧
      t.ending = .exit 1 ∧ "b is not defined.".toList <:+: t.stderr.toList := by
  let at? (line : Nat) (statement : String) : Option Location := some ⟨nameless, line, statement⟩
  let body : List Command := [.leaf "pu" [] (at? 2 "pu")]
  let known : World := ⟨⟨[⟨"a", [], body⟩]⟩, [], []⟩
  let faulty : World := known.find (.unknownOperator "b") (at? 1 "b")
  have converses : plan [] = .converse .standard := by rfl
  have given : Repl.texts [] (inputLines lifting) = ["to a\n  pu", "b", "a"] := by decide +kernel
  have defines : parse nameless "to a\n  pu" = .ok [.define "a" [] body (at? 1 "to a")] := by rfl
  have speaks : parse nameless "b" = .ok [.leaf "b" [] (at? 1 "b")] := by rfl
  have calls : parse nameless "a" = .ok [.leaf "a" [] (at? 1 "a")] := by rfl
  have defined : Executes.Batch false [.define "a" [] body (at? 1 "to a")] ⟨.empty, [], []⟩ known :=
    .nothing _
  have unknown : Executes.Batch false [.leaf "b" [] (at? 1 "b")] known faulty :=
    .next (.unknown (by rfl) (by decide)) (.nothing _)
  have called : Executes.Batch false [.leaf "a" [] (at? 1 "a")] known (known.draw [.penUp]) :=
    .next (.call (show known.registry.get? "a" = some ⟨"a", [], body⟩ by rfl) (by rfl)
      (.next (.draw (by rfl) (show Primitive.ofWord? "pu" = some .penUp by decide) (by rfl))
        (.nothing _))) (.nothing _)
  have halts : (plan []).Halts (fun _ => .error .missing) lifting := by
    rw [converses, Plan.Halts, given]
    exact .performed defines defined (.performed speaks unknown (.performed calls called (.done _)))
  have first : Yields nameless "to a\n  pu" ⟨.empty, .blank⟩ ⟨known.registry, .blank⟩ [] :=
    .performed (w := known) defines defined rfl
  have second : Yields nameless "b" ⟨known.registry, .blank⟩ ⟨known.registry, .blank⟩
      ["b is not defined."] :=
    .performed (w := faulty) speaks unknown rfl
  have third : Yields nameless "a" ⟨known.registry, .blank⟩
      ⟨known.registry, (Canvas.blank.apply .penUp).1⟩ [] :=
    .performed (w := known.draw [.penUp]) calls called rfl
  have meets : (plan []).Meets (fun _ => .error .missing) lifting ["b is not defined."] none := by
    rw [converses]
    refine .converse ?_
    rw [given]
    exact .next first (.next second (.next third (.done _)))
  obtain ⟨count, t, carried, ended, shown⟩ :=
    (ends_as_met (show Options.read [] = .ok .standard by rfl) halts).2 _ _ meets
      fun fails => nomatch fails
  exact ⟨count, t, carried, ended, shown _ (List.mem_singleton_self _)⟩

/-- A file of a byte that begins no character ends the command line with a failure. -/
theorem undecodable_fails :
    ∃ fault, (run (fun _ => .ok [0xff]) "" ["a.logo"]).ending = .failed (.undecodable fault) := by
  refine ⟨⟨0xff, 0, 1, .badStart⟩, ?_⟩
  rfl

end Shell

end Turtle
