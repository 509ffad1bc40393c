import Turtle.Proofs.Beat
import Turtle.Proofs.Clients
import Turtle.Proofs.Lexical
import Turtle.Proofs.RoundTrip

/-!
# Traces

An observer of drawn primitives can write down every leaf it is told of, one a line.  What it has
written is a program: loops, calls and definitions have become the leaves that they came to, and
leaves at fault are left out.  Run by itself, the trace draws what the first run has drawn, nothing
in it is at fault, and it is its own trace.

The first run is followed beat by beat: everything that can still become a leaf has tokens for
words, and the leaves that have been announced stand for the calls that have been made.  The second
run takes two steps for each leaf.
-/

set_option autoImplicit false

namespace Turtle

open Engine StateTransition

def Notice.leaf? : Notice → Option Command
  | afterPrimitive leaf => some leaf
  | _ => none

namespace Command

/-- Leaves that stand for some calls, one after another. -/
inductive Sketches : List Command → List Call → Prop where
  | nothing : Sketches [] []
  | leaf {leaf : Command} {primitive : Primitive} {calls later : List Call}
    {rest : List Command} : leaf.Draws primitive calls → Sketches rest later →
    Sketches (leaf :: rest) (calls ++ later)

variable {leaf : Command} {leaves others : List Command} {primitive : Primitive}
  {calls later : List Call}

theorem Sketches.append (first : Sketches leaves calls) (second : Sketches others later) :
    Sketches (leaves ++ others) (calls ++ later) := by
  induction first with
  | nothing => exact second
  | leaf draws _ ih =>
    rw [List.cons_append, List.append_assoc]
    exact .leaf draws ih

theorem Draws.of_unplaced {other : Command} (draws : leaf.Draws primitive calls)
    (same : unplaced other = unplaced leaf) : other.Draws primitive calls := by
  cases draws with
  | leaf tokens known fit =>
    cases other with
    | leaf op args at? =>
      obtain ⟨rfl, rfl, _⟩ := Command.leaf.inj same
      exact .leaf tokens known fit
    | loop => simp [unplaced] at same
    | define => simp [unplaced] at same
    | stray => simp [unplaced] at same

/-- The places of leaves are no part of what they stand for. -/
theorem Sketches.of_unplaced (sketches : Sketches leaves calls)
    (same : unplacedAll others = unplacedAll leaves) : Sketches others calls := by
  induction sketches generalizing others with
  | nothing =>
    cases others with
    | nil => exact .nothing
    | cons => simp [unplacedAll] at same
  | leaf draws _ ih =>
    cases others with
    | nil => simp [unplacedAll] at same
    | cons other rest =>
      obtain ⟨here, later⟩ := List.cons.inj same
      exact .leaf (draws.of_unplaced here) (ih later)

/-- The places of commands are no part of their short forms. -/
theorem filterMap_describe_of_unplaced (same : unplacedAll others = unplacedAll leaves) :
    others.filterMap describe? = leaves.filterMap describe? := by
  have forget : ∀ commands,
      (unplacedAll commands).filterMap describe? = commands.filterMap describe? := by
    intro commands
    induction commands with
    | nil => rfl
    | cons command rest ih =>
      have own : (unplaced command).describe? = command.describe? := by cases command <;> rfl
      rw [unplacedAll, List.filterMap_cons, List.filterMap_cons, own, ih]
  rw [← forget others, same, forget]

/-- No primitive has the word of a block for its name. -/
theorem Draws.fits (draws : leaf.Draws primitive calls) (inside : Bool) : leaf.Fits inside := by
  cases draws with
  | leaf tokens known fit =>
    refine .leaf ?_ ?_ tokens
    · rintro rfl
      have unknown : Primitive.ofWord? definitionKeyword = none := by decide
      simp [unknown] at known
    · rintro rfl
      have unknown : Primitive.ofWord? loopKeyword = none := by decide
      simp [unknown] at known

theorem Draws.isLeaf (draws : leaf.Draws primitive calls) : leaf.isLeaf = true := by
  cases draws
  rfl

theorem Sketches.draws (sketches : Sketches leaves calls) :
    ∀ leaf ∈ leaves, ∃ primitive calls, leaf.Draws primitive calls := by
  induction sketches with
  | nothing => exact fun _ member => absurd member List.not_mem_nil
  | leaf draws _ ih =>
    intro other member
    rcases List.mem_cons.mp member with rfl | later
    · exact ⟨_, _, draws⟩
    · exact ih other later

theorem Sketches.representable (sketches : Sketches leaves calls) : Representable leaves where
  chain := by
    refine List.Pairwise.isChain (List.pairwise_iff_forall_sublist.mpr fun pair => ?_)
    obtain ⟨_, _, draws⟩ := sketches.draws _ (pair.subset (List.mem_cons_self ..))
    exact Or.inl draws.isLeaf
  fits leaf member := by
    obtain ⟨_, _, draws⟩ := sketches.draws leaf member
    exact draws.fits false

theorem Sketches.outline_eq (sketches : Sketches leaves calls) :
    outline leaves = leaves.map fun leaf => (0, leaf) := by
  unfold outline
  induction sketches with
  | nothing => rfl
  | leaf draws _ ih =>
    cases draws
    rw [outlineFrom, ih]
    rfl

/-- The text of leaves has their short forms for lines. -/
theorem Sketches.written_eq (sketches : Sketches leaves calls) :
    written leaves = String.intercalate "\n" (leaves.filterMap describe?) := by
  have lines : ∀ leaf ∈ leaves, leaf.describe? = some (writtenLine (0, leaf)) := by
    intro leaf member
    obtain ⟨_, _, draws⟩ := sketches.draws leaf member
    cases draws
    exact congrArg some String.empty_append.symm
  rw [written, sketches.outline_eq, List.map_map, List.filterMap_congr lines]
  exact congrArg _ (congrFun List.filterMap_eq_map.symm leaves)

end Command

open Command

namespace Client

/-- The leaves that a client has been told of. -/
def announced (u : Client) : List Command :=
  u.told.filterMap fun entry => entry.2.leaf?

/-- What is written down of a run: every leaf that has been drawn, one a line. -/
def trace (u : Client) : String :=
  String.intercalate "\n" (u.announced.filterMap Command.describe?)

end Client

/-- A drawing that neither stops a cycle nor fails. -/
def Manner.placid (_ : Nat) : Manner :=
  ⟨false, none⟩

open Client Manner

section First

variable {observer : Nat} {u : Client} {s : Scheduler}

theorem announced_announce (notice : Notice) :
    ((host placid).announce u s notice).announced =
      u.announced ++ (s.observersOf notice.event).filterMap fun _ => notice.leaf? := by
  rw [announce_eq, announced, List.filterMap_append, List.filterMap_map]
  rfl

theorem announced_close (phase : Phase) :
    ((host placid).close u s phase).1.announced = u.announced := by
  by_cases running : s.phase = .running
  · rw [close_eq running]
    refine (announced_announce (.programEnd ⟨phase, s.cycle, s.steps⟩)).trans ?_
    simp [Notice.leaf?]
  · rw [Host.close, if_neg running]

theorem draws_placid (u : Client) (count : Nat) (calls : List Call) :
    (host placid).Draws u count calls u := by
  induction calls generalizing count with
  | nil => exact .nothing u count
  | cons call rest ih => exact .call rfl (ih (count + 1))

/-- One observer is told of what is drawn, and what it has been told of stands for what has been
drawn. -/
structure Recorded (observer : Nat) (u : Client) (s : Scheduler) : Prop where
  observed : s.observersOf .afterPrimitive = [observer]
  lexical : s.Lexical
  sketches : Sketches u.announced s.calls.reverse

theorem Recorded.told (before : Recorded observer u s) (notice : Notice)
    (unleafed : notice.leaf? = none) : Recorded observer ((host placid).announce u s notice) s where
  observed := before.observed
  lexical := before.lexical
  sketches := by
    rw [announced_announce, unleafed]
    simpa using before.sketches

theorem Recorded.step (before : Recorded observer u s) : Recorded observer u s.step.1 := by
  obtain ⟨queue, stack, journal, steps, registry, frame⟩ := s.step_frame
  refine ⟨?_, (Scheduler.lexically_step before.lexical).lexical, ?_⟩
  · rw [Scheduler.observersOf, s.step_observers]
    exact before.observed
  · rw [frame]
    exact before.sketches

theorem Recorded.close (before : Recorded observer u s) (phase : Phase) :
    Recorded observer ((host placid).close u s phase).1 ((host placid).close u s phase).2 := by
  by_cases running : s.phase = .running
  · have ended : Recorded observer u (s.endCycle phase).1 := {
      before with
      lexical := ⟨fun _ member => absurd member List.not_mem_nil,
        fun _ member => absurd member List.not_mem_nil, before.lexical.registry⟩ }
    rw [close_eq running]
    exact { ended.told (.programEnd ⟨phase, s.cycle, s.steps⟩) rfl with }
  · rw [Host.close, if_neg running]
    exact before

theorem Recorded.drawn (before : Recorded observer u s) {leaf : Command} {primitive : Primitive}
    {calls : List Call} (draws : leaf.Draws primitive calls) :
    let painted := (host placid).paint leaf primitive calls u s
    Recorded observer painted.1 painted.2.1 := by
  obtain ⟨stack?, recorded⟩ := before.lexical.recordable
  rw [Host.paint_of_draws (draws_placid u _ calls),
    Host.paint_nil_of_snapshot (s := s.drawn calls) recorded]
  refine ⟨before.observed, { before.lexical with }, ?_⟩
  have told : Sketches (u.announced ++ [leaf]) (s.calls.reverse ++ (calls ++ [])) :=
    before.sketches.append (.leaf draws .nothing)
  rw [List.append_nil] at told
  have observed : ((s.drawn calls).painted leaf primitive [] stack?).observersOf .afterPrimitive =
    [observer] := before.observed
  rw [announced_announce, Notice.event, observed]
  simpa [Notice.leaf?, Scheduler.painted, Scheduler.drawn, Scheduler.enter] using told

theorem Recorded.beat (before : Recorded observer u s) :
    Recorded observer ((host placid).beat u s).1 ((host placid).beat u s).2.1 := by
  have stepped := before.step
  have draws := (Scheduler.lexically_step before.lexical).draws
  unfold Host.beat
  obtain ⟨next, work, found⟩ : ∃ next work, s.step = (next, work) := ⟨_, _, rfl⟩
  rw [found] at stepped draws ⊢
  cases work with
  | answer more => exact stepped
  | draw leaf primitive calls => exact stepped.drawn (draws leaf primitive calls rfl)
  | report fault =>
    obtain ⟨stack?, recorded⟩ := stepped.lexical.recordable
    have reported : Recorded observer u (next.reportWith fault stack?).1 :=
      { stepped with lexical := { stepped.lexical with } }
    dsimp only
    rw [Host.report_of_snapshot recorded]
    exact reported.told _ rfl
  | halt phase => exact stepped.close phase
  | fail failure => exact stepped

/-- What has been written down stands for what has been drawn, at every moment of a run. -/
theorem recorded_course {scene next : Scene Client} (fires : scene.foreign.OnlyFires)
    (before : Recorded observer scene.foreign scene.sched)
    (went : next ∈ (host placid).course (act placid) scene) :
    Recorded observer next.foreign next.sched := by
  cases scene with
  | stepping u s =>
    obtain rfl := Option.some.inj went
    have beaten : Recorded observer ((host placid).beat u s).1 ((host placid).beat u s).2.1 :=
      before.beat
    generalize (host placid).beat u s = b at beaten
    obtain ⟨u', s', upshot⟩ := b
    cases upshot with
    | drawn =>
      rw [Host.resume]
      split
      · exact { beaten with lexical := { beaten.lexical with } }
      · exact beaten
    | onward => exact beaten
    | ended => exact beaten
    | failed failure => exact beaten.close .cancelled
  | outside u s signal =>
    have acted : act placid u s signal = some next := went
    obtain ⟨plan, _, rfl⟩ := act_of_onlyFires fires acted
    have rests : Recorded observer { u with plan := plan } s := { before with }
    unfold Scene.fire
    split
    · exact rests
    · split
      · exact { rests with lexical := { rests.lexical with } }
      · exact { rests with lexical := { rests.lexical with } }

theorem recorded_reaches {scene last : Scene Client} (fires : scene.foreign.OnlyFires)
    (before : Recorded observer scene.foreign scene.sched)
    (reaches : Reaches ((host placid).course (act placid)) scene last) :
    Recorded observer last.foreign last.sched := by
  induction reaches with
  | refl => exact before
  | tail reaches went ih => exact recorded_course (reaches_onlyFires fires reaches) ih went

end First

section Cue

variable {settings : Settings} {journal : Journal StepEvent} {observer : Nat}

/-- A scheduler that has not run yet, with an observer of what is drawn. -/
def Scheduler.traced (settings : Settings) (journal : Journal StepEvent) (observer : Nat) :
    Scheduler :=
  (idle settings journal).attach .afterPrimitive observer

theorem recorded_cue {program : List Command} {callback? : Option Nat} {plan : List Request}
    (lexical : ∀ command ∈ program, command.Lexical) :
    let cued := (host placid).cue (planning plan) (.traced settings journal observer)
      (program.map .command) callback?
    Recorded observer cued.foreign cued.sched := by
  have unused : Recorded observer (planning plan) (.traced settings journal observer) :=
    ⟨rfl, ⟨fun _ member => absurd member List.not_mem_nil,
      fun _ member => absurd member List.not_mem_nil,
      fun _ member => absurd member List.not_mem_nil⟩, .nothing⟩
  simp only [Host.cue, commands_of_lexical lexical]
  have rests : ¬((Scheduler.traced settings journal observer).phase = .running) := Phase.noConfusion
  rw [if_neg (by simp [rests]), Host.receive, if_neg rests]
  split
  · exact unused
  · have begun : Recorded observer (planning plan)
        ((Scheduler.traced settings journal observer).accept program callback?).beginCycle := {
      unused with
      lexical := ⟨unused.lexical.stack,
        fun command member => lexical command (List.mem_of_mem_filter member),
        unused.lexical.registry.defineAll lexical⟩ }
    exact begun.told .programStart rfl

end Cue

section Second

variable {observer cycle : Nat} {before : List Call} {w : World} {u : Client} {s : Scheduler}

/-- A plain run in which one observer is told of what is drawn. -/
structure Tracing (observer : Nat) (s : Scheduler) : Prop where
  plain : s.settings.animate = false
  observed : s.observersOf .afterPrimitive = [observer]

theorem Tracing.step (tracing : Tracing observer s) : Tracing observer s.step.1 where
  plain := by rw [s.step_settings, tracing.plain]
  observed := by
    rw [Scheduler.observersOf, s.step_observers]
    exact tracing.observed

/-- A leaf that waits is taken from the queue by one beat and drawn by the next. -/
theorem reaches_leaf {leaf : Command} {primitive : Primitive} {calls : List Call}
    {waiting : List Command} (draws : leaf.Draws primitive calls)
    (undefined : w.registry = .empty) (tracing : Tracing observer s)
    (here : s.At cycle before w [] (leaf :: waiting)) :
    ∃ v t, Reaches ((host placid).course (act placid)) (.stepping u s) (.stepping v t) ∧
      Tracing observer t ∧ t.At cycle before (w.draw calls) [] waiting ∧
      v.announced = u.announced ++ [leaf] ∧ v.plan = u.plan := by
  cases draws with
  | @leaf op args at? _ _ tokens known fit =>
    have written : s.settings.Writes (.leaf op args at?) := fun _ => Option.some_ne_none _
    obtain ⟨taken, dequeues, there⟩ := here.step_taken written
    have lookup : w.registry.get? op = none := by rw [undefined]; rfl
    obtain ⟨popped, paints, bare⟩ := there.step_draw lookup known fit
    have tracing' : Tracing observer popped := by
      have twice := tracing.step.step
      rwa [dequeues, paints] at twice
    obtain ⟨stack?, recorded⟩ := (bare.drawn calls).recordable
    let painted := popped.painted (.leaf op args at?) primitive calls stack?
    have plain : painted.settings.animate = false := tracing'.plain
    have observed : painted.observersOf .afterPrimitive = [observer] := tracing'.observed
    have paints' : (host placid).paint (.leaf op args at?) primitive calls u popped =
        ((host placid).announce u painted (.afterPrimitive (.leaf op args at?)), painted, .drawn) :=
      (Host.paint_of_draws (draws_placid u _ calls) _ primitive).trans
        (Host.paint_nil_of_snapshot (s := popped.drawn calls) recorded _ primitive)
    refine ⟨(host placid).announce u painted (.afterPrimitive (.leaf op args at?)), painted,
      ?_, ⟨plain, observed⟩, (bare.drawn calls).entered _ _ _, ?_, announce_plan _⟩
    · refine .head (show _ ∈ _ from ?_) (.single (show _ ∈ _ from ?_)) (b := .stepping u taken)
      · simp only [Host.course, Host.beat, dequeues]
        rfl
      · simp only [Host.course, Host.beat, paints]
        rw [paints', Host.resume, plain]
        rfl
    · rw [announced_announce, Notice.event, observed]
      rfl

/-- Leaves that wait are drawn one after another. -/
theorem reaches_leaves {leaves : List Command} {calls : List Call}
    (sketches : Sketches leaves calls) (undefined : w.registry = .empty)
    (tracing : Tracing observer s) (here : s.At cycle before w [] leaves) :
    ∃ v t, Reaches ((host placid).course (act placid)) (.stepping u s) (.stepping v t) ∧
      t.At cycle before (w.draw calls) [] [] ∧ v.announced = u.announced ++ leaves ∧
      v.plan = u.plan := by
  induction sketches generalizing u s w with
  | nothing =>
    have unchanged : w.draw [] = w := by simp [World.draw]
    exact ⟨u, s, .refl, unchanged.symm ▸ here, by simp, rfl⟩
  | @leaf leaf primitive calls later rest draws _ ih =>
    obtain ⟨u', s', first, tracing', there, told, planned⟩ :=
      reaches_leaf (u := u) draws undefined tracing here
    obtain ⟨v, t, second, ended, told', planned'⟩ :=
      ih (w := w.draw calls) (u := u') undefined tracing' there
    refine ⟨v, t, first.trans second, ?_, ?_, planned'.trans planned⟩
    · simpa [World.draw] using ended
    · rw [told', told, List.append_assoc, List.singleton_append]

end Second

/-- The run of leaves that stand for some calls, with nothing defined. -/
theorem replay_of_sketches {settings : Settings} {leaves : List Command} {calls : List Call}
    (plain : settings.animate = false) (sketches : Sketches leaves calls)
    (journal : Journal StepEvent) (observer : Nat) (callback? : Option Nat) :
    ∃ q ∈ Client.run placid [.cue (leaves.map .command) callback?]
        (.atRest (.traced settings journal observer)),
      q.2.sched.phase = .exhausted ∧ q.2.sched.faults = [] ∧ q.2.sched.calls = calls.reverse ∧
        q.1.announced = leaves := by
  have lexical : ∀ leaf ∈ leaves, leaf.Lexical := fun leaf member =>
    (sketches.representable.fits leaf member).lexical
  have undefining : ∀ leaf ∈ leaves, leaf.isDefinition = false := by
    intro leaf member
    obtain ⟨_, _, draws⟩ := sketches.draws leaf member
    cases draws
    rfl
  let fresh := Scheduler.traced settings journal observer
  have tidy : fresh.Tidy := { Scheduler.tidy_fresh settings journal .empty with }
  have rests : fresh.phase ≠ .running := Phase.noConfusion
  let begun := (fresh.accept leaves callback?).beginCycle
  have here : begun.At 1 [] ⟨.empty, [], []⟩ [] leaves := by
    have begins := tidy.begins rests leaves callback?
    rw [Registry.defineAll_of_none _ undefining,
      List.filter_eq_self.mpr fun leaf member => by simp [undefining leaf member]] at begins
    exact begins
  have cued : (host placid).cue (planning []) fresh (leaves.map .command) callback? =
      .stepping ((host placid).announce (planning []) begun .programStart) begun := by
    have unpaced : ¬(fresh.settings.animate && !fresh.settings.clocked) = true := by
      simp [show fresh.settings.animate = false from plain]
    simp only [Host.cue, commands_of_lexical lexical]
    rw [if_neg (by simp [rests]), Host.receive, if_neg rests, if_neg unpaced]
  have tracing : Tracing observer begun := ⟨plain, rfl⟩
  obtain ⟨v, t, reaches, ended, told, planned⟩ :=
    reaches_leaves (u := (host placid).announce (planning []) begun .programStart) sketches rfl
      tracing here
  have halts := ended.step_exhausted
  let last : Scheduler := { t with steps := t.steps + 1 }
  have running : last.phase = .running := ended.running
  let closed := (host placid).close v last .exhausted
  have closes : Reaches ((host placid).course (act placid)) (.stepping v t)
      (.outside closed.1 closed.2 .returned) := by
    refine .single (show _ ∈ _ from ?_)
    simp only [Host.course, Host.beat_of_halt halts]
    rfl
  have empty : closed.1.plan = [] := by
    rw [close_plan, planned, announce_plan]
    rfl
  have resting : act placid closed.1 closed.2 .returned = none := act_eq_none_iff.mpr empty
  have stuck : (host placid).course (act placid) (.outside closed.1 closed.2 .returned) = none :=
    resting
  have ends : closed.2 = (last.endCycle .exhausted).1 := congrArg Prod.snd (close_eq running)
  refine ⟨(closed.1, ⟨closed.2, [.foreign .outside], .returned⟩), ?_, ?_, ?_, ?_, ?_⟩
  · rw [atRest, run_cue, cued]
    exact Part.mem_map _ (mem_eval.mpr ⟨reaches.trans closes, stuck⟩)
  · exact congrArg Scheduler.phase ends
  · have none : t.faultsOf 1 = [] := List.map_eq_nil_iff.mp ended.faults_eq
    rw [← ended.cycle_eq] at none
    exact (congrArg Scheduler.faults ends).trans none
  · have drawn : t.calls = calls.reverse := by
      rw [ended.calls_eq]
      simp [World.draw]
    exact (congrArg Scheduler.calls ends).trans drawn
  · rw [announced_close, told, announced_announce]
    simp [Notice.leaf?, planning, announced]

/-- What has been drawn, as it is traced, can be drawn again from the trace.  A program that was
read from a text is run, plainly or with pauses that are ended, to where nothing more happens.  Then
its trace is the text of a program of exactly the leaves that were drawn.  A plain run of that
program, on a turtle that knows no procedures, is exhausted without a fault, asks the drawing for
the same calls in the same order, and has the same trace. -/
theorem Client.replays {settings settings' : Settings} {journal journal' : Journal StepEvent}
    {observer observer' k : Nat} {callback? callback'? : Option Nat} {file file' source : String}
    {program : List Command} {q : Client × Engine} (parsed : parse file source = .ok program)
    (ran : q ∈ Client.run placid (.cue (program.map .command) callback? :: List.replicate k .fire)
      (.atRest (.traced settings journal observer)))
    (plain : settings'.animate = false) :
    ∃ replay, parse file' q.1.trace = .ok replay ∧
      unplacedAll replay = unplacedAll q.1.announced ∧
      ∃ q' ∈ Client.run placid [.cue (replay.map .command) callback'?]
          (.atRest (.traced settings' journal' observer')),
        q'.2.sched.phase = .exhausted ∧ q'.2.sched.faults = [] ∧
          q'.2.sched.calls = q.2.sched.calls ∧ q'.1.announced = replay ∧
          q'.1.trace = q.1.trace := by
  have lexical : ∀ command ∈ program, command.Lexical := fun command member =>
    ((representable_of_parse parsed).fits command member).lexical
  rw [atRest, run_cue, Part.mem_map_iff] at ran
  obtain ⟨last, ended, rfl⟩ := ran
  obtain ⟨reaches, stuck⟩ := mem_eval.mp ended
  have fires : ((host placid).cue (planning (List.replicate k .fire))
      (.traced settings journal observer) (program.map .command) callback?).foreign.OnlyFires := by
    unfold OnlyFires
    rw [cue_plan]
    exact fun request member => List.eq_of_mem_replicate member
  have recorded : Recorded observer last.foreign last.sched :=
    recorded_reaches fires (recorded_cue lexical) reaches
  cases last with
  | stepping => exact absurd stuck (Option.some_ne_none _)
  | outside u s signal =>
    have sketches : Sketches u.announced s.calls.reverse := recorded.sketches
    obtain ⟨replay, parsed', same⟩ :=
      parse_written sketches.representable file'
    obtain ⟨q', ran', exhausted, faultless, drawn, told⟩ :=
      replay_of_sketches plain (sketches.of_unplaced same) journal' observer' callback'?
    rw [sketches.written_eq] at parsed'
    refine ⟨replay, parsed', same, q', ran', exhausted, faultless, ?_, told, ?_⟩
    · rw [drawn, List.reverse_reverse]
      rfl
    · rw [trace, told, filterMap_describe_of_unplaced same]
      rfl

/-- A loop calls a procedure with the name of a primitive, and a primitive with an argument that is
no number. -/
theorem Client.backing_replays :
    let source := "repeat 2\n  fd 10\n  rt x\npu\nto fd x\n  bk x"
    let traced : Scheduler := .traced ⟨false, 0.04, false, false⟩ (.empty 10) 0
    ∃ program q replay q', parse "" source = .ok program ∧
      q ∈ Client.run placid [.cue (program.map .command) none] (.atRest traced) ∧
      q.2.sched.phase = .exhausted ∧ q.2.sched.faults.length = 2 ∧
      q.1.trace = "bk 10\nbk 10\npu" ∧ parse "" q.1.trace = .ok replay ∧
      q' ∈ Client.run placid [.cue (replay.map .command) none] (.atRest traced) ∧
      q'.2.sched.faults = [] ∧ q'.2.sched.calls = q.2.sched.calls ∧
      q'.1.trace = q.1.trace := by
  intro source traced
  let ended (program : List Command) : Client × Engine :=
    drive (respond placid) 60 (planning [.cue (program.map .command) none]) (.atRest traced)
  let check (q : Client × Engine) : Bool :=
    decide (q.2.sched.phase = .exhausted ∧ q.2.sched.faults.length = 2 ∧
      q.1.trace = "bk 10\nbk 10\npu")
  have facts : (match parse "" source with
      | .ok program => (turn (respond placid) (ended program)).isNone && check (ended program)
      | .error _ => false) = true := by
    decide +kernel
  split at facts
  · rename_i program parsed
    obtain ⟨q, ran, shown⟩ := Client.exists_run _ _ _ 60 check facts
    obtain ⟨exhausted, faulty, traced_eq⟩ := of_decide_eq_true shown
    obtain ⟨replay, parsed', _, q', ran', _, faultless, drawn, _, again⟩ :=
      @Client.replays _ traced.settings _ (.empty 10) _ 0 0 _ none _ "" _ _ _ parsed ran rfl
    exact ⟨program, q, replay, q', parsed, ran, exhausted, faulty, traced_eq, parsed', ran',
      faultless, drawn, again⟩
  · exact absurd facts Bool.false_ne_true

end Turtle
