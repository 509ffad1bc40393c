import Turtle.Proofs.Recording
import Turtle.Proofs.Simulation

/-!
# Chronicles

The meaning of a job together with all that is logged while it is carried out.  A job has a meaning
if and only if it has a chronicle, and the beats that carry it out write just that chronicle into
the journal.
-/

set_option autoImplicit false

namespace Turtle

/-- Some events have been written into a journal, one after another. -/
inductive Journal.Records : Journal StepEvent → List StepEvent → Journal StepEvent → Prop where
  | nothing (journal : Journal StepEvent) : Records journal [] journal
  | next {journal middle last : Journal StepEvent} {event : StepEvent} {events : List StepEvent} :
    journal.Writes middle (some event) → Records middle events last →
      Records journal (event :: events) last

namespace Journal.Records

variable {journal middle last : Journal StepEvent} {events later : List StepEvent}

theorem single {event : StepEvent} (writes : journal.Writes last (some event)) :
    journal.Records [event] last :=
  .next writes (.nothing last)

theorem append (records : journal.Records events middle) (others : middle.Records later last) :
    journal.Records (events ++ later) last := by
  induction records with
  | nothing => exact others
  | next writes _ ih => exact .next writes (ih others)

end Journal.Records

/-- A job, and for rounds of a loop also how many of them have begun before. -/
inductive Chapter where
  | one (command : Command)
  | all (commands : List Command)
  | rounds (begun left : Nat) (body : List Command)

namespace Chapter

def job : Chapter → Job
  | one command => .one command
  | all commands => .all commands
  | rounds _ left body => .rounds left body

/-- A chapter lies on a stack, as its job does. -/
inductive Lies (below : List Frame) : Chapter → List Frame → Prop where
  | one (command : Command) : Lies below (.one command) (Frame.ofCommand command :: below)
  | all (commands : List Command) : Lies below (.all commands) (Frame.load commands below)
  | rounds (count : Int) (body : List Command) (at? : Option Location) (begun : Nat) :
    Lies below (.rounds begun (count - begun).toNat body)
      (Frame.ofLoop count body at? begun :: below)

theorem Lies.loop {below : List Frame} (count : Int) (body : List Command)
    (at? : Option Location) :
    Lies below (.rounds 0 count.toNat body)
      (Frame.ofCommand (.loop count body at?) :: below) := by
  have all : Lies below _ (Frame.ofLoop count body at? 0 :: below) := .rounds count body at? 0
  rwa [Int.natCast_zero, Int.sub_zero] at all

end Chapter

/-- The meaning of a chapter, and what is logged on the way. -/
inductive Chronicles (verbose : Bool) : Chapter → World → List StepEvent → World → Prop where
  | define (w : World) (name : String) (params : List String) (body : List Command)
    (at? : Option Location) :
    Chronicles verbose (.one (.define name params body at?)) w [.define name]
      (w.define name params body)
  | loop {w w' : World} {count : Int} {body : List Command} {events : List StepEvent}
    (at? : Option Location) : (verbose = true → Number.writeInteger count ≠ none) →
      Chronicles verbose (.rounds 0 count.toNat body) w events w' →
      Chronicles verbose (.one (.loop count body at?)) w events w'
  | call {w w' : World} {op : String} {args : List String} {at? : Option Location}
    {procedure : Procedure} {body : List Command} {events : List StepEvent} :
    w.registry.get? op = some procedure → procedure.bind args at? = .ok body →
      Chronicles verbose (.all body) w events w' →
      Chronicles verbose (.one (.leaf op args at?)) w (.call procedure.name :: events) w'
  | refused {w : World} {op : String} {args : List String} {at? : Option Location}
    {procedure : Procedure} {fault : Fault} :
    w.registry.get? op = some procedure → procedure.bind args at? = .error fault →
      Chronicles verbose (.one (.leaf op args at?)) w [.error fault.message]
        (w.find fault.cause fault.at?)
  | unknown {w : World} {op : String} {args : List String} {at? : Option Location} :
    w.registry.get? op = none → Primitive.ofWord? op = none →
      Chronicles verbose (.one (.leaf op args at?)) w
        [.error (FaultCause.unknownOperator op).message] (w.find (.unknownOperator op) at?)
  | unfit {w : World} {op : String} {args : List String} {at? : Option Location}
    {primitive : Primitive} {cause : FaultCause} :
    w.registry.get? op = none → Primitive.ofWord? op = some primitive →
      primitive.calls args = .error cause →
      Chronicles verbose (.one (.leaf op args at?)) w [.error cause.message] (w.find cause at?)
  | draw {w : World} {op : String} {args : List String} {at? : Option Location}
    {primitive : Primitive} {calls : List Call} :
    w.registry.get? op = none → Primitive.ofWord? op = some primitive →
      primitive.calls args = .ok calls →
      Chronicles verbose (.one (.leaf op args at?)) w [.primitive primitive.name] (w.draw calls)
  | nothing (w : World) : Chronicles verbose (.all []) w [] w
  | next {w w' w'' : World} {command : Command} {rest : List Command}
    {events later : List StepEvent} :
    Chronicles verbose (.one command) w events w' → Chronicles verbose (.all rest) w' later w'' →
      Chronicles verbose (.all (command :: rest)) w (events ++ later) w''
  | idle (w : World) (begun : Nat) (body : List Command) :
    Chronicles verbose (.rounds begun 0 body) w [.roundsOver] w
  | round {w w' w'' : World} {begun left : Nat} {body : List Command}
    {events later : List StepEvent} :
    Chronicles verbose (.all body) w events w' →
      Chronicles verbose (.rounds (begun + 1) left body) w' later w'' →
      Chronicles verbose (.rounds begun (left + 1) body) w
        (.round (begun + 1) :: (events ++ later)) w''

theorem Chronicles.executes {verbose : Bool} {chapter : Chapter} {w w' : World}
    {events : List StepEvent} (chronicles : Chronicles verbose chapter w events w') :
    Executes verbose chapter.job w w' := by
  induction chronicles with
  | define w name params body at? => exact .define w name params body at?
  | loop at? writable _ ih => exact .loop at? writable ih
  | call found bound _ ih => exact .call found bound ih
  | refused found refused => exact .refused found refused
  | unknown undefined unknown => exact .unknown undefined unknown
  | unfit undefined known unfit => exact .unfit undefined known unfit
  | draw undefined known fit => exact .draw undefined known fit
  | nothing w => exact .nothing w
  | next _ _ ihOne ihRest => exact .next ihOne ihRest
  | idle w begun body => exact .idle w body
  | round _ _ ihBody ihRounds => exact .round ihBody ihRounds

/-- What has a meaning has a chronicle. -/
theorem Executes.chronicles {verbose : Bool} {job : Job} {w w' : World}
    (executes : Executes verbose job w w') {chapter : Chapter} (same : chapter.job = job) :
    ∃ events, Chronicles verbose chapter w events w' := by
  induction executes generalizing chapter with
  | define w name params body at? =>
    cases chapter <;> cases same
    exact ⟨_, .define w name params body at?⟩
  | loop at? writable _ ih =>
    cases chapter <;> cases same
    obtain ⟨events, chronicles⟩ := @ih (.rounds 0 _ _) rfl
    exact ⟨events, .loop at? writable chronicles⟩
  | call found bound _ ih =>
    cases chapter <;> cases same
    obtain ⟨events, chronicles⟩ := @ih (.all _) rfl
    exact ⟨_, .call found bound chronicles⟩
  | refused found refused =>
    cases chapter <;> cases same
    exact ⟨_, .refused found refused⟩
  | unknown undefined unknown =>
    cases chapter <;> cases same
    exact ⟨_, .unknown undefined unknown⟩
  | unfit undefined known unfit =>
    cases chapter <;> cases same
    exact ⟨_, .unfit undefined known unfit⟩
  | draw undefined known fit =>
    cases chapter <;> cases same
    exact ⟨_, .draw undefined known fit⟩
  | nothing w =>
    cases chapter <;> cases same
    exact ⟨_, .nothing w⟩
  | next _ _ ihOne ihRest =>
    cases chapter <;> cases same
    obtain ⟨events, first⟩ := @ihOne (.one _) rfl
    obtain ⟨later, rest⟩ := @ihRest (.all _) rfl
    exact ⟨_, .next first rest⟩
  | idle w body =>
    cases chapter <;> cases same
    exact ⟨_, .idle w _ body⟩
  | round _ _ ihBody ihRounds =>
    cases chapter with
    | rounds begun left body =>
      cases same
      obtain ⟨events, first⟩ := @ihBody (.all _) rfl
      obtain ⟨later, rest⟩ := @ihRounds (.rounds (begun + 1) _ _) rfl
      exact ⟨_, .round first rest⟩
    | _ => cases same

/-! ## Beats write chronicles -/

/-- What is logged when a leaf is carried out. -/
def Registry.eventOf (registry : Registry) (op : String) (args : List String)
    (at? : Option Location) : StepEvent :=
  match registry.get? op with
  | some procedure =>
    match procedure.bind args at? with
    | .ok _ => .call procedure.name
    | .error fault => .error fault.message
  | none =>
    match Primitive.ofWord? op with
    | none => .error (FaultCause.unknownOperator op).message
    | some primitive =>
      match primitive.calls args with
      | .ok _ => .primitive primitive.name
      | .error cause => .error cause.message

/-- What is logged when the topmost frame is taken up. -/
def Frame.event? (registry : Registry) (frame : Frame) : Option StepEvent :=
  match frame.command with
  | .define name _ _ _ => some (.define name)
  | .loop count _ _ =>
    frame.iteration?.map fun begun : Nat =>
      if (begun : Int) < count then .round (begun + 1) else .roundsOver
  | .leaf op args at? => some (registry.eventOf op args at?)
  | .stray _ => none

namespace Scheduler

/-- What becomes of a step while nobody watches and the drawing only draws. -/
def after? : Scheduler × Work → Option Scheduler
  | (next, .answer true) => some next
  | (next, .draw leaf primitive calls) =>
    (({ next with calls := calls.reverse ++ next.calls } : Scheduler).log
      (.primitive primitive.name) leaf.location?).toOption
  | (next, .report fault) => (next.report fault).toOption.map Prod.fst
  | _ => none

theorem beat?_eq_after? (s : Scheduler) : s.beat? = after? s.step := by
  unfold beat? after?
  rfl

theorem complete_logs {s next : Scheduler} {event : StepEvent} {at? : Option Location}
    (beat : after? (s.complete event at?) = some next) :
    s.journal.Writes next.journal (some event) := by
  rcases s.complete_cases event at? with ⟨stack?, _, completed⟩ | ⟨_, completed⟩
  · rw [completed] at beat
    obtain rfl := Option.some.inj beat
    exact ⟨at?, stack?, rfl⟩
  · rw [completed] at beat
    contradiction

theorem report_logs {s next : Scheduler} {fault : Fault}
    (beat : after? (s, .report fault) = some next) :
    s.journal.Writes next.journal (some (.error fault.message)) := by
  obtain ⟨stack?, _, rfl⟩ := report_eq_some beat
  exact ⟨fault.at?, stack?, rfl⟩

theorem operate_logs {s next : Scheduler} {op : String} {args : List String}
    {at? : Option Location} (beat : after? (s.operate op args at?) = some next) :
    s.journal.Writes next.journal (some (s.registry.eventOf op args at?)) := by
  unfold operate at beat
  unfold Registry.eventOf
  cases found : s.registry.get? op with
  | some procedure =>
    simp only [found] at beat ⊢
    cases bound : procedure.bind args at? with
    | ok body =>
      simp only [bound] at beat ⊢
      exact complete_logs (s := { s with stack := Frame.load body s.stack }) beat
    | error fault =>
      simp only [bound] at beat ⊢
      exact report_logs beat
  | none =>
    simp only [found] at beat ⊢
    cases known : Primitive.ofWord? op with
    | none =>
      simp only [known] at beat ⊢
      exact report_logs beat
    | some primitive =>
      simp only [known] at beat ⊢
      cases fit : primitive.calls args with
      | ok calls =>
        simp only [fit] at beat ⊢
        obtain ⟨stack?, _, rfl⟩ := log_eq_some beat
        exact ⟨at?, stack?, rfl⟩
      | error cause =>
        simp only [fit] at beat ⊢
        exact report_logs beat

theorem advance_logs {s next : Scheduler} {frame : Frame} {below : List Frame}
    (beat : after? (s.advance frame below) = some next) :
    ∃ event, frame.event? s.registry = some event ∧ s.journal.Writes next.journal (some event) := by
  obtain ⟨command, iteration?, pending?⟩ := frame
  cases command with
  | leaf op args at? =>
    exact ⟨_, rfl, operate_logs (s := { s with stack := below }) beat⟩
  | loop count body at? =>
    cases iteration? with
    | none => contradiction
    | some begun =>
      cases pending? with
      | none => contradiction
      | some rest =>
        refine ⟨_, rfl, ?_⟩
        dsimp only [advance] at beat ⊢
        by_cases more : (begun : Int) < count
        · rw [if_pos more] at beat ⊢
          have written := complete_logs beat
          exact written
        · rw [if_neg more] at beat ⊢
          have written := complete_logs beat
          exact written
  | define name params body at? =>
    exact ⟨_, rfl, complete_logs
      (s := ({ s with stack := below } : Scheduler).define name params body) beat⟩
  | stray shown? => contradiction

theorem At.writes {cycle : Nat} {before : List Call} {w : World} {frame : Frame}
    {below : List Frame} {waiting : List Command} {s next : Scheduler} {event : StepEvent}
    (here : s.At cycle before w (frame :: below) waiting) (beat : s.beat? = some next)
    (tells : frame.event? w.registry = some event) :
    s.journal.Writes next.journal (some event) := by
  rw [beat?_eq_after?, here.step_eq] at beat
  obtain ⟨other, told, writes⟩ := advance_logs beat
  rw [show frame.event? s.registry = some event from here.registry_eq ▸ tells] at told
  rwa [Option.some.inj told]

end Scheduler

/-- The beats that carry out a chapter write its chronicle. -/
theorem Chronicles.beats {settings : Settings} {chapter : Chapter} {w w' : World}
    {events : List StepEvent} (chronicles : Chronicles settings.verbose chapter w events w')
    {cycle : Nat} {before : List Call} {below stack : List Frame} {waiting : List Command}
    {s : Scheduler} (settings_eq : s.settings = settings) (lies : chapter.Lies below stack)
    (here : s.At cycle before w stack waiting) :
    ∃ count next, Scheduler.Beats count s next ∧ next.At cycle before w' below waiting ∧
      s.journal.Records events next.journal := by
  induction chronicles generalizing below stack s with
  | define w name params body at? =>
    cases lies
    obtain ⟨next, beat, there⟩ := here.beat_define
    exact ⟨1, next, .succ beat (.zero next), there, .single (here.writes beat rfl)⟩
  | loop at? _ _ ih =>
    cases lies
    exact ih settings_eq (.loop _ _ at?) here
  | call found bound carried ih =>
    cases lies
    obtain ⟨next, beat, there⟩ :=
      here.beat_call found bound (settings_eq ▸ carried.executes.writes_all)
    obtain ⟨count, last, beats, done, records⟩ :=
      ih ((Scheduler.beat?_settings beat).trans settings_eq) (.all _) there
    refine ⟨count + 1, last, .succ beat beats, done, .next (here.writes beat ?_) records⟩
    simp only [Frame.event?, Frame.ofCommand, Registry.eventOf, found, bound]
  | refused found refused =>
    cases lies
    obtain ⟨next, beat, there⟩ := here.beat_refused found refused
    refine ⟨1, next, .succ beat (.zero next), there, .single (here.writes beat ?_)⟩
    simp only [Frame.event?, Frame.ofCommand, Registry.eventOf, found, refused]
  | unknown undefined unknown =>
    cases lies
    obtain ⟨next, beat, there⟩ := here.beat_unknown undefined unknown
    refine ⟨1, next, .succ beat (.zero next), there, .single (here.writes beat ?_)⟩
    simp only [Frame.event?, Frame.ofCommand, Registry.eventOf, undefined, unknown]
  | unfit undefined known unfit =>
    cases lies
    obtain ⟨next, beat, there⟩ := here.beat_unfit undefined known unfit
    refine ⟨1, next, .succ beat (.zero next), there, .single (here.writes beat ?_)⟩
    simp only [Frame.event?, Frame.ofCommand, Registry.eventOf, undefined, known, unfit]
  | draw undefined known fit =>
    cases lies
    obtain ⟨next, beat, there⟩ := here.beat_draw undefined known fit
    refine ⟨1, next, .succ beat (.zero next), there, .single (here.writes beat ?_)⟩
    simp only [Frame.event?, Frame.ofCommand, Registry.eventOf, undefined, known, fit]
  | nothing w =>
    cases lies
    exact ⟨0, s, .zero s, here, .nothing _⟩
  | next _ _ ihOne ihRest =>
    cases lies
    obtain ⟨first, middle, beats, there, records⟩ := ihOne settings_eq (.one _) here
    obtain ⟨second, last, others, done, later⟩ :=
      ihRest (beats.settings.trans settings_eq) (.all _) there
    exact ⟨first + second, last, beats.append others, done, records.append later⟩
  | idle w begun body =>
    generalize counted : Chapter.rounds begun 0 body = chapter at lies
    cases lies with
    | one command => simp at counted
    | all commands => simp at counted
    | rounds count body at? begun =>
      simp only [Chapter.rounds.injEq] at counted
      have complete : ¬(begun : Int) < count := by omega
      obtain ⟨next, beat, there⟩ := here.beat_over complete
      refine ⟨1, next, .succ beat (.zero next), there, .single (here.writes beat ?_)⟩
      simp only [Frame.event?, Frame.ofLoop, Option.map_some, if_neg complete]
  | @round w w' w'' begun left body events later carried _ ihBody ihRounds =>
    generalize counted : Chapter.rounds begun (left + 1) body = chapter at lies
    cases lies with
    | one command => simp at counted
    | all commands => simp at counted
    | rounds count body at? begun =>
      simp only [Chapter.rounds.injEq] at counted
      obtain ⟨rfl, counted, rfl⟩ := counted
      have more : (begun : Int) < count := by omega
      obtain ⟨next, beat, there⟩ :=
        here.beat_round more (settings_eq ▸ carried.executes.writes_all)
      have settings_next := (Scheduler.beat?_settings beat).trans settings_eq
      obtain ⟨first, middle, beats, between, records⟩ := ihBody settings_next (.all _) there
      have fewer : left = (count - (begun + 1 : Nat)).toNat := by omega
      subst fewer
      obtain ⟨second, last, others, done, rest⟩ :=
        ihRounds (beats.settings.trans settings_next) (.rounds _ _ _ _) between
      refine ⟨first + second + 1, last, .succ beat (beats.append others), done,
        .next (here.writes beat ?_) (records.append rest)⟩
      simp only [Frame.event?, Frame.ofLoop, Option.map_some, if_pos more]

end Turtle
