import Turtle.Proofs.Play

/-!
# The stack of tasks

Every task lies on one that waits for it, and hears only the signals it waits for: a failure in an
observer, for one, never reaches the cycle that has been announced to it.  With that, what a turn
does can be said once, task by task, and everything else about turns is read off there.
-/

set_option autoImplicit false

namespace Turtle

namespace Task

/-- Steps are taken for a task. -/
inductive Drives (rules : Rules) : Task → Prop where
  | running : Drives rules .running
  | foreign {site : Site} : rules site .step = true → Drives rules (.foreign site)

/-- A task waits while a notice is announced. -/
inductive Announces : Task → Notice → Prop where
  | starting : Announces .starting .programStart
  | pausing (leaf : Command) : Announces .pausing (.afterPrimitive leaf)
  | settling (result : RunResult) (rest : List Nat) :
    Announces (.settling result rest) (.programEnd result)

/-- A task waits while a fault is reported. -/
inductive Reports : Task → Prop where
  | starting : Reports .starting
  | pausing : Reports .pausing
  | settling (result : RunResult) (rest : List Nat) : Reports (.settling result rest)
  | stepped : Reports (.stepped true)

/-- A task waits while a cycle ends. -/
inductive Halts : Task → Prop where
  | cueing (batch : List Command) (callback? : Option Nat) : Halts (.cueing batch callback?)
  | rethrow (failure : Failure) : Halts (.rethrow failure)
  | stepped : Halts (.stepped false)

/-- A task may lie directly on another one. -/
inductive On (rules : Rules) : Task → Task → Prop where
  | cueing (batch : List Command) (callback? : Option Nat) (site : Site) :
    On rules (.cueing batch callback?) (.foreign site)
  | starting (site : Site) : On rules .starting (.foreign site)
  | running (site : Site) : On rules .running (.foreign site)
  | rethrow (failure : Failure) (site : Site) : On rules (.rethrow failure) (.foreign site)
  | painting {lower : Task} (leaf : Command) (primitive : Primitive) (rest : List Call) :
    lower.Drives rules → On rules (.painting leaf primitive rest) lower
  | pausing {lower : Task} : lower.Drives rules → On rules .pausing lower
  | stepped {lower : Task} (more : Bool) : lower.Drives rules → On rules (.stepped more) lower
  | announcing {lower : Task} {notice : Notice} (rest : List Nat) :
    lower.Announces notice → On rules (.announcing notice rest) lower
  | reporting {lower : Task} (fault : Fault) (rest : List Nat) :
    lower.Reports → On rules (.reporting fault rest) lower
  | settling {lower : Task} (result : RunResult) (rest : List Nat) :
    lower.Halts → On rules (.settling result rest) lower
  | told (id : Nat) (notice : Notice) (rest : List Nat) :
    On rules (.foreign (.observer id notice)) (.announcing notice rest)
  | toldFault (id : Nat) (fault : Fault) (rest : List Nat) :
    On rules (.foreign (.observer id (.onError fault))) (.reporting fault rest)
  | called (id : Nat) (result : RunResult) (rest : List Nat) :
    On rules (.foreign (.callback id result)) (.settling result rest)
  | drawn (call : Call) (leaf : Command) (primitive : Primitive) (rest : List Call) :
    On rules (.foreign (.drawing call)) (.painting leaf primitive rest)

/-- A failure above a task passes through it. -/
inductive Passes (failure : Failure) : Task → Prop where
  | cueing (batch : List Command) (callback? : Option Nat) :
    Passes failure (.cueing batch callback?)
  | starting : Passes failure .starting
  | rethrow (earlier : Failure) : Passes failure (.rethrow earlier)
  | pausing : Passes failure .pausing
  | settling (result : RunResult) (rest : List Nat) : Passes failure (.settling result rest)
  | stepped (more : Bool) : Passes failure (.stepped more)
  | painting (leaf : Command) (primitive : Primitive) (rest : List Call) :
    (∀ fault, failure ≠ .fault fault) → Passes failure (.painting leaf primitive rest)

/-- The signals that a task waits for. -/
inductive Hears : Task → Signal → Prop where
  | foreign (site : Site) (signal : Signal) : Hears (.foreign site) signal
  | answered (more : Bool) : Hears .running (.answered more)
  | returned {task : Task} : task ≠ .running → Hears task .returned
  | raised (task : Task) (failure : Failure) : Hears task (.raised failure)

variable {rules : Rules} {task : Task}

theorem Drives.hears_answered (drives : task.Drives rules) (more : Bool) :
    task.Hears (.answered more) := by
  cases drives with
  | running => exact .answered more
  | foreign => exact .foreign _ _

theorem Announces.hears {notice : Notice} (announces : task.Announces notice) :
    task.Hears .returned := by
  cases announces <;> exact .returned Task.noConfusion

theorem Announces.reports {notice : Notice} (announces : task.Announces notice) :
    task.Reports := by
  cases announces with
  | starting => exact .starting
  | pausing leaf => exact .pausing
  | settling result rest => exact .settling result rest

theorem Reports.hears (reports : task.Reports) : task.Hears .returned := by
  cases reports <;> exact .returned Task.noConfusion

theorem Halts.hears (halts : task.Halts) : task.Hears .returned := by
  cases halts <;> exact .returned Task.noConfusion

/-- What a failure passes through never lies on a task that calls callbacks. -/
theorem On.unsettled {lower : Task} {failure : Failure} (upper : task.On rules lower)
    (passes : task.Passes failure) : ∀ result rest, lower ≠ .settling result rest := by
  cases passes with
  | cueing =>
    cases upper
    exact fun _ _ => Task.noConfusion
  | starting =>
    cases upper
    exact fun _ _ => Task.noConfusion
  | rethrow =>
    cases upper
    exact fun _ _ => Task.noConfusion
  | pausing =>
    cases upper with
    | pausing drives => cases drives <;> exact fun _ _ => Task.noConfusion
  | settling =>
    cases upper with
    | settling _ _ halts => cases halts <;> exact fun _ _ => Task.noConfusion
  | stepped =>
    cases upper with
    | stepped _ drives => cases drives <;> exact fun _ _ => Task.noConfusion
  | painting =>
    cases upper with
    | painting _ _ _ drives => cases drives <;> exact fun _ _ => Task.noConfusion

end Task

/-- Each task lies on one that waits for it, down to the code outside of everything. -/
inductive Stacked (rules : Rules) : List Task → Prop where
  | outside : Stacked rules [.foreign .outside]
  | on {upper lower : Task} {tasks : List Task} :
    upper.On rules lower → Stacked rules (lower :: tasks) →
      Stacked rules (upper :: lower :: tasks)

/-- The tasks are stacked, and the signal is one that the topmost task waits for. -/
inductive Engine.Shaped (rules : Rules) : Engine → Prop where
  | intro {s : Scheduler} {top : Task} {tasks : List Task} {signal : Signal} :
    Stacked rules (top :: tasks) → top.Hears signal → Shaped rules ⟨s, top :: tasks, signal⟩

namespace Engine

inductive Acts (rules : Rules) : Engine → Turn → Engine → Prop where
  | receive (s : Scheduler) (batch : List Command) (callback? : Option Nat) (tasks : List Task) :
    Acts rules ⟨s, .cueing batch callback? :: tasks, .returned⟩ .work
      (receive s batch callback? tasks)
  | start (s : Scheduler) (tasks : List Task) :
    Acts rules ⟨s, .starting :: tasks, .returned⟩ .work (takeStep s (.running :: tasks))
  | goOn (s : Scheduler) (tasks : List Task) :
    Acts rules ⟨s, .running :: tasks, .answered true⟩ .work (takeStep s (.running :: tasks))
  | leaveOff (s : Scheduler) (tasks : List Task) :
    Acts rules ⟨s, .running :: tasks, .answered false⟩ .work ⟨s, tasks, .returned⟩
  | cancel (s : Scheduler) (failure : Failure) (tasks : List Task) :
    Acts rules ⟨s, .running :: tasks, .raised failure⟩ .work
      (halt s .cancelled (.rethrow failure :: tasks))
  | rethrow (s : Scheduler) (failure : Failure) (tasks : List Task) :
    Acts rules ⟨s, .rethrow failure :: tasks, .returned⟩ .work ⟨s, tasks, .raised failure⟩
  | tell (s : Scheduler) (notice : Notice) (rest : List Nat) (tasks : List Task) :
    Acts rules ⟨s, .announcing notice rest :: tasks, .returned⟩ .work (tell s notice tasks rest)
  | complain (s : Scheduler) (notice : Notice) (rest : List Nat) (failure : Failure)
    (tasks : List Task) :
    Acts rules ⟨s, .announcing notice rest :: tasks, .raised failure⟩ .work
      (report s (observerFault s notice.event failure) tasks)
  | tellFault (s : Scheduler) (fault : Fault) (rest : List Nat) (tasks : List Task) :
    Acts rules ⟨s, .reporting fault rest :: tasks, .returned⟩ .work
      (tellFault s fault tasks rest)
  | giveUp (s : Scheduler) (fault : Fault) (rest : List Nat) (failure : Failure)
    (tasks : List Task) :
    Acts rules ⟨s, .reporting fault rest :: tasks, .raised failure⟩ .work
      ⟨s.addReport (secondaryFault fault failure), tasks, .returned⟩
  | paint (s : Scheduler) (leaf : Command) (primitive : Primitive) (rest : List Call)
    (tasks : List Task) :
    Acts rules ⟨s, .painting leaf primitive rest :: tasks, .returned⟩ .work
      (paint s leaf primitive tasks rest)
  | spoil (s : Scheduler) (leaf : Command) (primitive : Primitive) (rest : List Call)
    (fault : Fault) (tasks : List Task) :
    Acts rules ⟨s, .painting leaf primitive rest :: tasks, .raised (.fault fault)⟩ .work
      (report s fault (.stepped true :: tasks))
  | pause (s : Scheduler) (tasks : List Task) :
    Acts rules ⟨s, .pausing :: tasks, .returned⟩ .work (pause s tasks)
  | settle (s : Scheduler) (result : RunResult) (rest : List Nat) (tasks : List Task) :
    Acts rules ⟨s, .settling result rest :: tasks, .returned⟩ .work (settle s result tasks rest)
  | answer (s : Scheduler) (more : Bool) (tasks : List Task) :
    Acts rules ⟨s, .stepped more :: tasks, .returned⟩ .work ⟨s, tasks, .answered more⟩
  | pass (s : Scheduler) (task : Task) (failure : Failure) (tasks : List Task)
    (passes : task.Passes failure) :
    Acts rules ⟨s, task :: tasks, .raised failure⟩ .work ⟨s, tasks, .raised failure⟩
  | refuse (s : Scheduler) (site : Site) (tasks : List Task) (signal : Signal)
    (entries : List Value) (callback? : Option Nat) (failure : Failure)
    (allowed : rules site (.cue entries callback?) = true)
    (refused : commands entries = .error failure) :
    Acts rules ⟨s, .foreign site :: tasks, signal⟩ (.move (.cue entries callback?))
      ⟨s, .foreign site :: tasks, .raised failure⟩
  | supersede (s : Scheduler) (site : Site) (tasks : List Task) (signal : Signal)
    (entries : List Value) (callback? : Option Nat) (batch : List Command)
    (allowed : rules site (.cue entries callback?) = true)
    (coerced : commands entries = .ok batch) (running : s.phase = .running)
    (stopped : s.live = false) :
    Acts rules ⟨s, .foreign site :: tasks, signal⟩ (.move (.cue entries callback?))
      (halt s .cancelled (.cueing batch callback? :: .foreign site :: tasks))
  | cue (s : Scheduler) (site : Site) (tasks : List Task) (signal : Signal)
    (entries : List Value) (callback? : Option Nat) (batch : List Command)
    (allowed : rules site (.cue entries callback?) = true)
    (coerced : commands entries = .ok batch) (unstopped : s.phase = .running → s.live = true) :
    Acts rules ⟨s, .foreign site :: tasks, signal⟩ (.move (.cue entries callback?))
      (Engine.receive s batch callback? (.foreign site :: tasks))
  | stop (s : Scheduler) (site : Site) (tasks : List Task) (signal : Signal)
    (allowed : rules site .stop = true) :
    Acts rules ⟨s, .foreign site :: tasks, signal⟩ (.move .stop)
      ⟨s.stop, .foreign site :: tasks, .returned⟩
  | step (s : Scheduler) (site : Site) (tasks : List Task) (signal : Signal)
    (allowed : rules site .step = true) :
    Acts rules ⟨s, .foreign site :: tasks, signal⟩ (.move .step)
      (takeStep s (.foreign site :: tasks))
  | idle (s : Scheduler) (site : Site) (tasks : List Task) (signal : Signal) (position : Nat)
    (allowed : rules site (.fire position) = true) (missing : s.timers[position]? = none) :
    Acts rules ⟨s, .foreign site :: tasks, signal⟩ (.move (.fire position))
      ⟨s, .foreign site :: tasks, .returned⟩
  | expire (s : Scheduler) (site : Site) (tasks : List Task) (signal : Signal) (position : Nat)
    (timer : Timer) (allowed : rules site (.fire position) = true)
    (found : s.timers[position]? = some timer) (stale : timer.generation ≠ s.generation) :
    Acts rules ⟨s, .foreign site :: tasks, signal⟩ (.move (.fire position))
      ⟨{ s with timers := s.timers.eraseIdx position }, .foreign site :: tasks, .returned⟩
  | resume (s : Scheduler) (site : Site) (tasks : List Task) (signal : Signal) (position : Nat)
    (timer : Timer) (allowed : rules site (.fire position) = true)
    (found : s.timers[position]? = some timer) (current : timer.generation = s.generation) :
    Acts rules ⟨s, .foreign site :: tasks, signal⟩ (.move (.fire position))
      (takeStep { s with timers := s.timers.eraseIdx position }
        (.running :: .foreign site :: tasks))
  | attach (s : Scheduler) (site : Site) (tasks : List Task) (signal : Signal) (event : Event)
    (observer : Nat) (allowed : rules site (.attach event observer) = true) :
    Acts rules ⟨s, .foreign site :: tasks, signal⟩ (.move (.attach event observer))
      ⟨s.attach event observer, .foreign site :: tasks, .returned⟩
  | define (s : Scheduler) (site : Site) (tasks : List Task) (signal : Signal) (name : String)
    (params : List String) (body : List Command)
    (allowed : rules site (.define name params body) = true) :
    Acts rules ⟨s, .foreign site :: tasks, signal⟩ (.move (.define name params body))
      ⟨s.define name params body, .foreign site :: tasks, .returned⟩
  | finish (s : Scheduler) (site : Site) (tasks : List Task) (signal : Signal)
    (inside : site ≠ .outside) (allowed : rules site .finish = true) :
    Acts rules ⟨s, .foreign site :: tasks, signal⟩ (.move .finish) ⟨s, tasks, .returned⟩
  | raise (s : Scheduler) (site : Site) (tasks : List Task) (signal : Signal)
    (failure : Failure) (inside : site ≠ .outside)
    (allowed : rules site (.raise failure) = true) :
    Acts rules ⟨s, .foreign site :: tasks, signal⟩ (.move (.raise failure))
      ⟨s, tasks, .raised failure⟩

variable {rules : Rules} {e next : Engine}

theorem next?_acts (shaped : e.Shaped rules) (worked : e.next? = some next) :
    Acts rules e .work next := by
  obtain @⟨s, top, tasks, signal, stacked, hears⟩ := shaped
  clear stacked
  cases hears with
  | foreign site signal => simp [next?] at worked
  | answered more =>
    obtain rfl := Option.some.inj worked
    cases more with
    | true => exact .goOn _ _
    | false => exact .leaveOff _ _
  | returned other =>
    cases top
    case foreign => simp [next?] at worked
    case running => exact absurd rfl other
    all_goals obtain rfl := Option.some.inj worked
    · exact .receive _ _ _ _
    · exact .start _ _
    · exact .rethrow _ _ _
    · exact .tell _ _ _ _
    · exact .tellFault _ _ _ _
    · exact .paint _ _ _ _ _
    · exact .pause _ _
    · exact .settle _ _ _ _
    · exact .answer _ _ _
  | raised _ failure =>
    cases top
    case foreign => simp [next?] at worked
    case painting leaf primitive rest =>
      cases failure
      case fault fault =>
        obtain rfl := Option.some.inj worked
        exact .spoil _ _ _ _ _ _
      all_goals
        obtain rfl := Option.some.inj worked
        exact .pass _ _ _ _ (.painting leaf primitive rest (by simp))
    all_goals obtain rfl := Option.some.inj worked
    · exact .pass _ _ _ _ (.cueing _ _)
    · exact .pass _ _ _ _ .starting
    · exact .cancel _ _ _
    · exact .pass _ _ _ _ (.rethrow _)
    · exact .complain _ _ _ _ _
    · exact .giveUp _ _ _ _ _
    · exact .pass _ _ _ _ .pausing
    · exact .pass _ _ _ _ (.settling _ _)
    · exact .pass _ _ _ _ (.stepped _)

theorem perform_acts {s : Scheduler} {site : Site} {tasks : List Task} {signal : Signal}
    {move : Move} (offered : site.offers move = true) (allowed : rules site move = true) :
    Acts rules ⟨s, .foreign site :: tasks, signal⟩ (.move move)
      (perform ⟨s, .foreign site :: tasks, signal⟩ move) := by
  cases move with
  | cue entries callback? =>
    simp only [perform, Engine.cue]
    cases coerced : commands entries with
    | error failure => exact .refuse _ _ _ _ _ _ _ allowed coerced
    | ok batch =>
      dsimp only
      split
      · rename_i stopped
        have both : s.phase = .running ∧ s.live = false := by simpa using stopped
        exact .supersede _ _ _ _ _ _ _ allowed coerced both.1 both.2
      · rename_i unstopped
        refine .cue _ _ _ _ _ _ _ allowed coerced ?_
        intro running
        simpa [running] using unstopped
  | stop => exact .stop _ _ _ _ allowed
  | step => exact .step _ _ _ _ allowed
  | fire position =>
    simp only [perform]
    cases found : s.timers[position]? with
    | none => exact .idle _ _ _ _ _ allowed found
    | some timer =>
      dsimp only [Engine.resume]
      split
      · rename_i current
        exact .resume _ _ _ _ _ _ allowed found current
      · rename_i stale
        exact .expire _ _ _ _ _ _ allowed found stale
  | attach event observer => exact .attach _ _ _ _ _ _ allowed
  | define name params body => exact .define _ _ _ _ _ _ _ allowed
  | prime => simp [Site.offers] at offered
  | enqueue commands => simp [Site.offers] at offered
  | finish => exact .finish _ _ _ _ (by rintro rfl; simp [Site.offers] at offered) allowed
  | raise failure => exact .raise _ _ _ _ _ (by rintro rfl; simp [Site.offers] at offered) allowed

theorem turn?_acts {turn : Turn} (shaped : e.Shaped rules)
    (taken : e.turn? rules turn = some next) : Acts rules e turn next := by
  cases turn with
  | work => exact next?_acts shaped taken
  | move move =>
    simp only [turn?] at taken
    split at taken
    · simp at taken
    · rename_i site found
      split at taken
      · rename_i both
        rw [Bool.and_eq_true] at both
        obtain rfl := Option.some.inj taken
        obtain ⟨s, tasks, signal⟩ := e
        unfold site? at found
        split at found
        · obtain rfl := Option.some.inj found
          rename_i tasks same
          dsimp only at same
          subst same
          exact perform_acts both.1 both.2
        · simp at found
      · simp at taken

section Shape

variable {s : Scheduler} {lower : Task} {tasks : List Task}

theorem tell_shaped {notice : Notice} (stacked : Stacked rules (lower :: tasks))
    (announces : lower.Announces notice) (observers : List Nat) :
    (Engine.tell s notice (lower :: tasks) observers).Shaped rules := by
  cases observers with
  | nil => exact ⟨stacked, announces.hears⟩
  | cons observer rest =>
    have waiting := Stacked.on (.announcing rest announces) stacked
    exact ⟨.on (.told observer notice rest) waiting, .foreign _ _⟩

theorem announce_shaped {notice : Notice} (stacked : Stacked rules (lower :: tasks))
    (announces : lower.Announces notice) :
    (announce s notice (lower :: tasks)).Shaped rules :=
  tell_shaped stacked announces _

theorem tellFault_shaped (stacked : Stacked rules (lower :: tasks)) (reports : lower.Reports)
    (fault : Fault) (observers : List Nat) :
    (Engine.tellFault s fault (lower :: tasks) observers).Shaped rules := by
  cases observers with
  | nil => exact ⟨stacked, reports.hears⟩
  | cons observer rest =>
    have waiting := Stacked.on (.reporting fault rest reports) stacked
    exact ⟨.on (.toldFault observer fault rest) waiting, .foreign _ _⟩

theorem report_shaped (stacked : Stacked rules (lower :: tasks)) (reports : lower.Reports)
    (fault : Fault) : (report s fault (lower :: tasks)).Shaped rules := by
  rcases report_cases s fault (lower :: tasks) with ⟨_, _, reported⟩ | ⟨_, reported⟩
  · rw [reported]
    exact tellFault_shaped stacked reports _ _
  · rw [reported]
    exact ⟨stacked, .raised _ _⟩

theorem settle_shaped (stacked : Stacked rules (lower :: tasks)) (halts : lower.Halts)
    (result : RunResult) (callbacks : List Nat) :
    (Engine.settle s result (lower :: tasks) callbacks).Shaped rules := by
  cases callbacks with
  | nil => exact ⟨stacked, halts.hears⟩
  | cons callback rest =>
    have waiting := Stacked.on (.settling result rest halts) stacked
    exact ⟨.on (.called callback result rest) waiting, .foreign _ _⟩

theorem halt_shaped (stacked : Stacked rules (lower :: tasks)) (halts : lower.Halts)
    (phase : Phase) : (halt s phase (lower :: tasks)).Shaped rules := by
  unfold halt
  split
  · exact announce_shaped (.on (.settling _ _ halts) stacked) (.settling _ _)
  · exact ⟨stacked, halts.hears⟩

theorem paint_shaped (stacked : Stacked rules (lower :: tasks)) (drives : lower.Drives rules)
    (leaf : Command) (primitive : Primitive) (calls : List Call) :
    (Engine.paint s leaf primitive (lower :: tasks) calls).Shaped rules := by
  cases calls with
  | nil =>
    rcases paint_nil_cases s leaf primitive (lower :: tasks) with ⟨_, _, painted⟩ | ⟨_, painted⟩
    · rw [painted]
      exact announce_shaped (.on (.pausing drives) stacked) (.pausing leaf)
    · rw [painted]
      exact ⟨stacked, .raised _ _⟩
  | cons call rest =>
    have waiting := Stacked.on (.painting leaf primitive rest drives) stacked
    exact ⟨.on (.drawn call leaf primitive rest) waiting, .foreign _ _⟩

theorem takeStep_shaped (stacked : Stacked rules (lower :: tasks))
    (drives : lower.Drives rules) : (takeStep s (lower :: tasks)).Shaped rules := by
  unfold takeStep
  split
  · exact ⟨stacked, drives.hears_answered _⟩
  · exact paint_shaped stacked drives _ _ _
  · exact report_shaped (.on (.stepped true drives) stacked) .stepped _
  · exact halt_shaped (.on (.stepped false drives) stacked) .stepped _
  · exact ⟨stacked, .raised _ _⟩

theorem pause_shaped (stacked : Stacked rules (lower :: tasks)) (drives : lower.Drives rules) :
    (Engine.pause s (lower :: tasks)).Shaped rules := by
  unfold Engine.pause
  split <;> exact ⟨stacked, drives.hears_answered _⟩

theorem receive_shaped {site : Site} (stacked : Stacked rules (.foreign site :: tasks))
    (batch : List Command) (callback? : Option Nat) :
    (Engine.receive s batch callback? (.foreign site :: tasks)).Shaped rules := by
  unfold Engine.receive
  split
  · exact ⟨stacked, .foreign _ _⟩
  · split
    · exact ⟨stacked, .foreign _ _⟩
    · exact announce_shaped (.on (.starting site) stacked) .starting

theorem Acts.shaped {turn : Turn} (acts : Acts rules e turn next) (shaped : e.Shaped rules) :
    next.Shaped rules := by
  cases acts with
  | receive s batch callback? tasks =>
    obtain ⟨stacked, _⟩ := shaped
    cases stacked with
    | on upper below => cases upper; exact receive_shaped below batch callback?
  | start s tasks =>
    obtain ⟨stacked, _⟩ := shaped
    cases stacked with
    | on upper below => cases upper; exact takeStep_shaped (.on (.running _) below) .running
  | goOn s tasks =>
    obtain ⟨stacked, _⟩ := shaped
    exact takeStep_shaped stacked .running
  | leaveOff s tasks =>
    obtain ⟨stacked, _⟩ := shaped
    cases stacked with
    | on upper below => cases upper; exact ⟨below, .foreign _ _⟩
  | cancel s failure tasks =>
    obtain ⟨stacked, _⟩ := shaped
    cases stacked with
    | on upper below =>
      cases upper
      exact halt_shaped (.on (.rethrow failure _) below) (.rethrow failure) _
  | rethrow s failure tasks =>
    obtain ⟨stacked, _⟩ := shaped
    cases stacked with
    | on upper below => cases upper; exact ⟨below, .foreign _ _⟩
  | tell s notice rest tasks =>
    obtain ⟨stacked, _⟩ := shaped
    cases stacked with
    | on upper below =>
      cases upper with
      | announcing _ announces => exact tell_shaped below announces rest
  | complain s notice rest failure tasks =>
    obtain ⟨stacked, _⟩ := shaped
    cases stacked with
    | on upper below =>
      cases upper with
      | announcing _ announces => exact report_shaped below announces.reports _
  | tellFault s fault rest tasks =>
    obtain ⟨stacked, _⟩ := shaped
    cases stacked with
    | on upper below =>
      cases upper with
      | reporting _ _ reports => exact tellFault_shaped below reports fault rest
  | giveUp s fault rest failure tasks =>
    obtain ⟨stacked, _⟩ := shaped
    cases stacked with
    | on upper below =>
      cases upper with
      | reporting _ _ reports => exact ⟨below, reports.hears⟩
  | paint s leaf primitive rest tasks =>
    obtain ⟨stacked, _⟩ := shaped
    cases stacked with
    | on upper below =>
      cases upper with
      | painting _ _ _ drives => exact paint_shaped below drives leaf primitive rest
  | spoil s leaf primitive rest fault tasks =>
    obtain ⟨stacked, _⟩ := shaped
    cases stacked with
    | on upper below =>
      cases upper with
      | painting _ _ _ drives =>
        exact report_shaped (.on (.stepped true drives) below) .stepped fault
  | pause s tasks =>
    obtain ⟨stacked, _⟩ := shaped
    cases stacked with
    | on upper below =>
      cases upper with
      | pausing drives => exact pause_shaped below drives
  | settle s result rest tasks =>
    obtain ⟨stacked, _⟩ := shaped
    cases stacked with
    | on upper below =>
      cases upper with
      | settling _ _ halts => exact settle_shaped below halts result rest
  | answer s more tasks =>
    obtain ⟨stacked, _⟩ := shaped
    cases stacked with
    | on upper below =>
      cases upper with
      | stepped _ drives => exact ⟨below, drives.hears_answered more⟩
  | pass s task failure tasks passes =>
    obtain ⟨stacked, _⟩ := shaped
    cases stacked with
    | outside => cases passes
    | on _ below => exact ⟨below, .raised _ _⟩
  | refuse s site =>
    obtain ⟨stacked, _⟩ := shaped
    exact ⟨stacked, .foreign _ _⟩
  | supersede s site tasks signal entries callback? batch =>
    obtain ⟨stacked, _⟩ := shaped
    exact halt_shaped (.on (.cueing batch callback? site) stacked) (.cueing _ _) _
  | cue s site tasks signal entries callback? batch =>
    obtain ⟨stacked, _⟩ := shaped
    exact receive_shaped stacked batch callback?
  | stop => obtain ⟨stacked, _⟩ := shaped; exact ⟨stacked, .foreign _ _⟩
  | step s site tasks signal allowed =>
    obtain ⟨stacked, _⟩ := shaped
    exact takeStep_shaped stacked (.foreign allowed)
  | idle => obtain ⟨stacked, _⟩ := shaped; exact ⟨stacked, .foreign _ _⟩
  | expire => obtain ⟨stacked, _⟩ := shaped; exact ⟨stacked, .foreign _ _⟩
  | resume s site =>
    obtain ⟨stacked, _⟩ := shaped
    exact takeStep_shaped (.on (.running site) stacked) .running
  | attach => obtain ⟨stacked, _⟩ := shaped; exact ⟨stacked, .foreign _ _⟩
  | define => obtain ⟨stacked, _⟩ := shaped; exact ⟨stacked, .foreign _ _⟩
  | finish s site tasks signal inside =>
    obtain ⟨stacked, _⟩ := shaped
    cases stacked with
    | outside => exact absurd rfl inside
    | on upper below =>
      refine ⟨below, .returned ?_⟩
      cases upper <;> exact Task.noConfusion
  | raise s site tasks signal failure inside =>
    obtain ⟨stacked, _⟩ := shaped
    cases stacked with
    | outside => exact absurd rfl inside
    | on _ below => exact ⟨below, .raised _ _⟩

end Shape

end Engine

namespace Plays

variable {rules : Rules} {s : Scheduler} {past : List Moment} {now : Engine}

theorem shaped (played : Plays rules (.atRest s) past now) : now.Shaped rules := by
  have initially : (Engine.atRest s).Shaped rules := ⟨.outside, .foreign _ _⟩
  exact played.preserves (Engine.Shaped rules) initially fun _ _ _ before taken =>
    (Engine.turn?_acts before taken).shaped before

/-- What holds at the start of a play, and is kept whatever a turn does, holds all along. -/
theorem by_acts (holds : List Moment → Engine → Prop) (initially : holds [] (.atRest s))
    (kept : ∀ past e turn next, Plays rules (.atRest s) past e → e.Shaped rules →
      Engine.Acts rules e turn next → holds past e → holds (⟨e, turn, next⟩ :: past) next)
    (played : Plays rules (.atRest s) past now) : holds past now := by
  induction played with
  | start => exact initially
  | turn before taken ih =>
    exact kept _ _ _ _ before before.shaped (Engine.turn?_acts before.shaped taken) ih

/-- What holds at some moment of a play, and is kept whatever a turn does, holds from then on. -/
theorem by_acts_since {later earlier : List Moment} {since : Engine}
    (begun : Plays rules (.atRest s) earlier since)
    (holds : List Moment → Engine → Prop) (initially : holds [] since)
    (kept : ∀ later e turn next, Plays rules (.atRest s) (later ++ earlier) e → e.Shaped rules →
      Engine.Acts rules e turn next → holds later e → holds (⟨e, turn, next⟩ :: later) next)
    (played : Plays rules (.atRest s) (later ++ earlier) now) : holds later now := by
  induction later generalizing now with
  | nil => exact begun.unique played ▸ initially
  | cons m later ih =>
    obtain ⟨e, turn, next⟩ := m
    obtain ⟨before, taken, rfl⟩ := played.last
    exact kept _ _ _ _ before before.shaped (Engine.turn?_acts before.shaped taken) (ih before)

end Plays

end Turtle
