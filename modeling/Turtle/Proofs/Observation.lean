import Turtle.Proofs.Completion
import Turtle.Proofs.Passive

/-!
# Observation

Whether stacks are written into the journal, how many entries it holds, and which passive observers
are attached does not matter to a run of legible commands.  Two schedulers that differ in nothing
else have the same plays: whatever the foreign code that is not passive does in a play of the one,
it can do in a play of the other, and what it does decides what comes of both.
-/

set_option autoImplicit false

namespace Turtle

open Relation

variable {passive : Nat → Bool}

/-- Passive observers return whenever they are told of something, and other foreign code is free, as
long as what it brings in is legible. -/
def Rules.passively (passive : Nat → Bool) : Rules
  | .observer _ _, .finish => true
  | .observer id _, move => !passive id && move.isLegible
  | _, move => move.isLegible

theorem Rules.legible_of_passively {site : Site} {move : Engine.Move}
    (allowed : Rules.passively passive site move = true) : move.isLegible = true := by
  cases site with
  | observer id notice =>
    cases move with
    | finish => rfl
    | _ => exact (Bool.and_eq_true _ _ ▸ allowed).2
  | _ => exact allowed

def Site.isPassive (passive : Nat → Bool) : Site → Bool
  | .observer id _ => passive id
  | _ => false

/-- It is the turn of foreign code that is not passive. -/
def Engine.Waits (passive : Nat → Bool) (e : Engine) (site : Site) : Prop :=
  e.site? = some site ∧ site.isPassive passive = false

/-- A new scheduler may write stacks or not, keep as many entries as it likes, and have any passive
observers. -/
theorem Scheduler.fresh_indistinct (settings : Settings) (registry : Registry) (verbose : Bool)
    (history history' : Nat) {observers : List (Event × Nat)}
    (inert : ∀ attached ∈ observers, passive attached.2 = true) :
    (Scheduler.fresh settings (.empty history) registry).Indistinct passive
      ((Scheduler.fresh settings (.empty history) registry).seen verbose (.empty history')
        observers) := by
  refine .intro verbose _ observers (Journal.agrees_empty history history') ?_
  symm
  rw [List.filter_eq_nil_iff.mpr fun attached member => by simp [inert attached member]]
  rfl

namespace Moment

/-- A move of foreign code that is not passive, and where it is made. -/
def deed? (passive : Nat → Bool) (m : Moment) : Option (Site × Engine.Move) :=
  match m.turn, m.before.site? with
  | .move move, some site => if site.isPassive passive then none else some (site, move)
  | _, _ => none

/-- A callback is called: with which result, and which faults it finds there. -/
def delivery? (m : Moment) : Option (Nat × RunResult × List Fault) :=
  m.after.calling?.map fun call => (call.1, call.2, m.after.sched.faultsOf call.2.cycle)

end Moment

namespace Plays

/-- The moves of foreign code that is not passive, in their order. -/
def deeds (passive : Nat → Bool) : List Moment → List (Site × Engine.Move)
  | [] => []
  | m :: past => deeds passive past ++ (m.deed? passive).toList

def moves (passive : Nat → Bool) (past : List Moment) : List Engine.Move :=
  (deeds passive past).map Prod.snd

def deliveries : List Moment → List (Nat × RunResult × List Fault)
  | [] => []
  | m :: past => deliveries past ++ m.delivery?.toList

/-- What has come of two plays is the same, and so are their journals but for the stacks, as far as
both hold an entry. -/
structure SameOutcome (passive : Nat → Bool) (past : List Moment) (now : Engine)
    (past' : List Moment) (now' : Engine) : Prop where
  deeds_eq : deeds passive past' = deeds passive past
  calls_eq : now'.sched.calls = now.sched.calls
  reports_eq : now'.sched.reports = now.sched.reports
  registry_eq : now'.sched.registry = now.sched.registry
  deliveries_eq : deliveries past' = deliveries past
  journal_same : ∀ entry ∈ now.sched.journal.held, ∀ entry' ∈ now'.sched.journal.held,
    entry.index = entry'.index → entry.bare = entry'.bare

end Plays

namespace Engine

variable {e e' f : Engine}

/-! ## Turns of passive observers -/

/-- Passive observers leave the scheduler as it is, and no callback is called in between. -/
theorem Passing.still (passing : Passing passive e e') :
    e'.sched = e.sched ∧ e.calling? = none ∧ e'.calling? = none := by
  cases passing with
  | leave s notice tasks signal inert => cases signal <;> exact ⟨rfl, rfl, rfl⟩
  | tell s notice rest tasks => cases rest <;> exact ⟨rfl, rfl, rfl⟩
  | tellFault s fault rest tasks => cases rest <;> exact ⟨rfl, rfl, rfl⟩

/-- Nothing else can be done instead of a turn of a passive observer, and it is no deed. -/
theorem Passing.only (passing : Passing passive e e') :
    (∃ turn, e.turn? (.passively passive) turn = some e') ∧
      ∀ turn next, e.turn? (.passively passive) turn = some next →
        next = e' ∧ (Moment.mk e turn next).deed? passive = none := by
  cases passing with
  | @leave s id notice tasks signal inert =>
    refine ⟨⟨.move .finish, rfl⟩, fun turn next taken => ?_⟩
    cases turn with
    | work => simp [turn?, next?] at taken
    | move move =>
      cases move with
      | finish =>
        obtain rfl := Option.some.inj taken
        exact ⟨rfl, by simp [Moment.deed?, site?, Site.isPassive, inert]⟩
      | _ => simp [turn?, site?, Rules.passively, inert] at taken
  | tell s notice rest tasks =>
    refine ⟨⟨.work, rfl⟩, fun turn next taken => ?_⟩
    cases turn with
    | work => exact ⟨(Option.some.inj taken).symm, rfl⟩
    | move move => simp [turn?, site?] at taken
  | tellFault s fault rest tasks =>
    refine ⟨⟨.work, rfl⟩, fun turn next taken => ?_⟩
    cases turn with
    | work => exact ⟨(Option.some.inj taken).symm, rfl⟩
    | move move => simp [turn?, site?] at taken

theorem Passing.unawaited (passing : Passing passive e e') (site : Site) :
    ¬e.Waits passive site := by
  rintro ⟨here, firm⟩
  cases passing with
  | leave s notice tasks signal inert =>
    obtain rfl := Option.some.inj here
    exact Bool.false_ne_true (firm.symm.trans inert)
  | tell => simp [site?] at here
  | tellFault => simp [site?] at here

theorem Passes.sched_eq (passes : Passes passive e e') : e'.sched = e.sched := by
  induction passes with
  | refl => rfl
  | tail _ passing ih => exact passing.still.1.trans ih

theorem Passes.calling?_eq (passes : Passes passive e e') : e'.calling? = e.calling? := by
  induction passes with
  | refl => rfl
  | tail _ passing ih => exact passing.still.2.2.trans (passing.still.2.1.symm.trans ih)

theorem Matches.calling?_eq (matched : Matches passive e f) : f.calling? = e.calling? := by
  obtain @⟨s, t, tasks, tasks', signal, same, alike⟩ := matched
  cases alike with
  | nil => rfl
  | @cons task _ _ _ first _ =>
    cases first with
    | firm =>
      cases task with
      | foreign site => cases site <;> cases signal <;> rfl
      | _ => cases signal <;> rfl
    | _ => cases signal <;> rfl

theorem Matches.indistinct (matched : Matches passive e f) :
    e.sched.Indistinct passive f.sched := by
  obtain ⟨signal, same, _⟩ := matched
  exact same

theorem Matches.site?_eq (matched : Matches passive e f) : f.site? = e.site? := by
  obtain @⟨s, t, tasks, tasks', signal, same, alike⟩ := matched
  cases alike with
  | nil => rfl
  | @cons task _ _ _ first _ =>
    cases first with
    | firm => cases task <;> rfl
    | _ => rfl

theorem Matches.signal_eq (matched : Matches passive e f) : f.signal = e.signal := by
  obtain ⟨signal, _, _⟩ := matched
  rfl

/-- Foreign code that has control is not passive. -/
theorem Matches.waits (matched : Matches passive e f) {site : Site} (here : e.site? = some site) :
    e.Waits passive site := by
  refine ⟨here, ?_⟩
  obtain @⟨s, t, tasks, tasks', signal, same, alike⟩ := matched
  cases alike with
  | nil => simp [site?] at here
  | @cons task _ _ _ first _ =>
    cases first with
    | firm firm =>
      cases task with
      | foreign other =>
        obtain rfl := Option.some.inj here
        cases other with
        | observer id notice => simpa [Task.isFirm, Site.isPassive] using firm
        | _ => rfl
      | _ => simp [site?] at here
    | announcing => simp [site?] at here
    | reporting => simp [site?] at here

/-- A turn of one engine is taken by the other one too. -/
theorem Matches.turn {next : Engine} {turn : Turn} (matched : Matches passive e f)
    (legible : e.sched.Legible) (taken : e.turn? (.passively passive) turn = some next) :
    ∃ next', f.turn? (.passively passive) turn = some next' ∧ Joins passive next next' := by
  cases turn with
  | work => exact matched.next legible taken
  | move move =>
    simp only [turn?] at taken ⊢
    rw [matched.site?_eq]
    split at taken
    · simp at taken
    · split at taken
      · rename_i allowed
        obtain rfl := Option.some.inj taken
        exact ⟨_, if_pos allowed, matched.perform legible move⟩
      · simp at taken

/-- One engine is where the other one comes to when it has passed passive observers. -/
def Trails (passive : Nat → Bool) (e f : Engine) : Prop :=
  ∃ e', Passes passive e e' ∧ Matches passive e' f

theorem Trails.indistinct (trails : Trails passive e f) :
    e.sched.Indistinct passive f.sched := by
  obtain ⟨e', passes, matched⟩ := trails
  exact passes.sched_eq ▸ matched.indistinct

theorem Trails.waits (trails : Trails passive e f) {site : Site} (waits : e.Waits passive site) :
    f.Waits passive site ∧ f.signal = e.signal := by
  obtain ⟨e', passes, matched⟩ := trails
  cases passes.cases_head with
  | inl same =>
    subst same
    exact ⟨⟨matched.site?_eq.trans waits.1, waits.2⟩, matched.signal_eq⟩
  | inr onward =>
    obtain ⟨_, passing, _⟩ := onward
    exact absurd waits (passing.unawaited site)

end Engine

namespace Plays

open Engine

variable {s t : Scheduler} {past past' : List Moment} {now now' : Engine}

/-- A play goes on while passive observers are passed. -/
theorem pass {start : Engine} (played : Plays (.passively passive) start past now)
    (passes : Passes passive now now') :
    ∃ later, Plays (.passively passive) start later now' ∧
      deeds passive later = deeds passive past ∧ deliveries later = deliveries past := by
  induction passes with
  | refl => exact ⟨past, played, rfl, rfl⟩
  | tail _ passing ih =>
    obtain ⟨later, played', deeds_eq, deliveries_eq⟩ := ih
    obtain ⟨turn, taken⟩ := passing.only.1
    refine ⟨_, played'.turn taken, ?_, ?_⟩
    · rw [deeds, (passing.only.2 turn _ taken).2, deeds_eq]
      exact List.append_nil _
    · rw [deliveries, Moment.delivery?, passing.still.2.2, deliveries_eq]
      exact List.append_nil _

/-- Whatever foreign code does, all commands stay legible. -/
theorem legible (initially : s.Legible)
    (played : Plays (.passively passive) (.atRest s) past now) : now.sched.Legible :=
  (played.every Command.steadfast_describe? (fun _ _ => Rules.legible_of_passively)
    initially).sched

/-- Every play of the one scheduler is followed by a play of the other. -/
theorem trailed (initially : s.Legible) (same : s.Indistinct passive t)
    (played : Plays (.passively passive) (.atRest s) past now) :
    ∃ past' now', Plays (.passively passive) (.atRest t) past' now' ∧ Trails passive now now' ∧
      deeds passive past' = deeds passive past ∧ deliveries past' = deliveries past := by
  induction played with
  | start =>
    refine ⟨[], _, .start, ⟨_, .refl, ?_⟩, rfl, rfl⟩
    exact .intro .returned same (.cons (.firm rfl) .nil)
  | @turn past e next turn earlier taken ih =>
    obtain ⟨past', f, played', ⟨e', passes, matched⟩, deeds_eq, deliveries_eq⟩ := ih
    rcases passes.cases_head with rfl | ⟨passed, passing, onward⟩
    · -- Both engines are at the same place, and take the same turn.
      obtain ⟨next', taken', ⟨after, after', passes, passes', matched'⟩⟩ :=
        matched.turn (earlier.legible initially) taken
      obtain ⟨later, played'', later_deeds, later_deliveries⟩ := (played'.turn taken').pass passes'
      have calling_eq : next'.calling? = next.calling? := by
        rw [← passes.calling?_eq, ← passes'.calling?_eq, matched'.calling?_eq]
      have faults_eq : ∀ cycle, next'.sched.faultsOf cycle = next.sched.faultsOf cycle := by
        intro cycle
        rw [← passes.sched_eq, ← passes'.sched_eq, Scheduler.faultsOf, Scheduler.faultsOf,
          matched'.indistinct.reports_eq]
      refine ⟨later, after', played'', ⟨after, passes, matched'⟩, ?_, ?_⟩
      · rw [later_deeds, deeds, deeds, deeds_eq, Moment.deed?, Moment.deed?, matched.site?_eq]
      · simp only [later_deliveries, deliveries, deliveries_eq, Moment.delivery?, calling_eq,
          faults_eq]
    · -- The one engine passes an observer that the other one has passed already, or never had.
      obtain ⟨rfl, quiet⟩ := passing.only.2 turn next taken
      refine ⟨past', f, played', ⟨e', onward, matched⟩, ?_, ?_⟩
      · rw [deeds, quiet, deeds_eq]
        exact (List.append_nil _).symm
      · rw [deliveries, Moment.delivery?, passing.still.2.2, deliveries_eq]
        exact (List.append_nil _).symm

theorem SameOutcome.of_trails (trails : Trails passive now now')
    (deeds_eq : deeds passive past' = deeds passive past)
    (deliveries_eq : deliveries past' = deliveries past) :
    SameOutcome passive past now past' now' where
  deeds_eq := deeds_eq
  calls_eq := trails.indistinct.calls_eq
  reports_eq := trails.indistinct.reports_eq
  registry_eq := trails.indistinct.registry_eq
  deliveries_eq := deliveries_eq
  journal_same := trails.indistinct.agrees.held_same

/-! ## Foreign code that is not passive decides -/

theorem deeds_append (later past : List Moment) :
    deeds passive (later ++ past) = deeds passive past ++ deeds passive later := by
  induction later with
  | nil => exact (List.append_nil _).symm
  | cons m later ih => rw [List.cons_append, deeds, ih, deeds, List.append_assoc]

theorem moves_append (later past : List Moment) :
    moves passive (later ++ past) = moves passive past ++ moves passive later := by
  rw [moves, deeds_append, List.map_append, moves, moves]

theorem moves_cons {m : Moment} {site : Site} {move : Engine.Move}
    (deed : m.deed? passive = some (site, move)) :
    moves passive (m :: past) = moves passive past ++ [move] := by
  simp [moves, deeds, deed]

/-- A turn is a deed if foreign code that is not passive has control.  Otherwise it is the only turn
that can be taken. -/
theorem turn?_cases {e next : Engine} {turn : Turn}
    (taken : e.turn? (.passively passive) turn = some next) :
    (∃ site move, e.Waits passive site ∧ turn = .move move ∧
        (Moment.mk e turn next).deed? passive = some (site, move)) ∨
      (∀ site, ¬e.Waits passive site) ∧ turn = if e.site?.isSome then .move .finish else .work := by
  cases turn with
  | work =>
    have away : e.site? = none := by
      cases here : e.site? with
      | none => rfl
      | some site =>
        obtain ⟨s, tasks, signal⟩ := e
        unfold site? at here
        split at here
        · rename_i same
          dsimp only at same
          subst same
          simp [turn?, next?] at taken
        · simp at here
    exact Or.inr ⟨fun site waits => by simp [Waits, away] at waits, by simp [away]⟩
  | move move =>
    simp only [turn?] at taken
    split at taken
    · simp at taken
    · rename_i site here
      cases inert : site.isPassive passive with
      | false => exact Or.inl ⟨site, move, ⟨here, inert⟩, rfl, by simp [Moment.deed?, here, inert]⟩
      | true =>
        refine Or.inr ⟨?_, ?_⟩
        · rintro other ⟨there, firm⟩
          obtain rfl := Option.some.inj (here.symm.trans there)
          exact Bool.false_ne_true (firm.symm.trans inert)
        · have finishes : move = .finish := by
            cases site with
            | observer id notice =>
              have inert : passive id = true := inert
              cases move with
              | finish => rfl
              | _ => simp [Rules.passively, inert] at taken
            | _ => simp [Site.isPassive] at inert
          simp [here, finishes]

theorem turn?_of_waits {e next : Engine} {turn : Turn} {site : Site}
    (taken : e.turn? (.passively passive) turn = some next) (waits : e.Waits passive site) :
    ∃ move, turn = .move move ∧ (Moment.mk e turn next).deed? passive = some (site, move) := by
  rcases turn?_cases taken with ⟨other, move, there, made, deed⟩ | ⟨never, _⟩
  · obtain rfl := Option.some.inj (waits.1.symm.trans there.1)
    exact ⟨move, made, deed⟩
  · exact absurd waits (never site)

variable {start : Engine}

/-- The first moment after a play, in one that goes on from it. -/
theorem continues {later : List Moment} {m : Moment}
    (played : Plays (.passively passive) start past now)
    (longer : Plays (.passively passive) start (later ++ m :: past) now') :
    m.before = now ∧ now.turn? (.passively passive) m.turn = some m.after := by
  obtain ⟨middle, begun⟩ := longer.of_append
  obtain ⟨earlier, taken, _⟩ := begun.last
  obtain rfl := earlier.unique played
  exact ⟨rfl, taken⟩

/-- Of two plays of one engine, in which foreign code that is not passive has made the same moves as
far as it has come in the first, one goes on from the other. -/
theorem suffix_or_suffix (played : Plays (.passively passive) start past now)
    (played' : Plays (.passively passive) start past' now')
    (begun : moves passive past <+: moves passive past') :
    past <:+ past' ∨ past' <:+ past := by
  induction played with
  | start => exact Or.inl (List.nil_suffix)
  | @turn past e next turn earlier taken ih =>
    have shorter : moves passive past <+: moves passive (⟨e, turn, next⟩ :: past) := by
      rw [← List.singleton_append, moves_append]
      exact List.prefix_append _ _
    rcases ih (shorter.trans begun) with ⟨later, rfl⟩ | within
    · rcases List.eq_nil_or_concat later with rfl | ⟨front, m, rfl⟩
      · exact Or.inr (List.suffix_cons _ _)
      · rw [List.concat_append] at played' begun
        obtain ⟨rfl, taken'⟩ := earlier.continues played'
        -- The two turns are the same, for both plays were told to make the same move.
        have turn_eq : turn = m.turn := by
          rcases turn?_cases taken with ⟨site, move, waits, made, deed⟩ | ⟨never, own⟩
          · obtain ⟨move', made', deed'⟩ := turn?_of_waits taken' waits
            have deed' : m.deed? passive = some (site, move') := deed'
            rw [moves_append, moves_cons deed, moves_cons deed', List.append_assoc,
              List.prefix_append_right_inj] at begun
            obtain ⟨rfl, _⟩ := List.cons_prefix_cons.mp begun
            exact made.trans made'.symm
          · rcases turn?_cases taken' with ⟨site, _, waits, _, _⟩ | ⟨_, own'⟩
            · exact absurd waits (never site)
            · exact own.trans own'.symm
        have moment_eq : Moment.mk m.before turn next = m := by
          subst turn_eq
          rw [taken] at taken'
          obtain rfl := Option.some.inj taken'
          rfl
        rw [moment_eq, List.concat_append]
        exact Or.inl (List.suffix_append _ _)
    · exact Or.inr (within.trans (List.suffix_cons _ _))

/-- A play that goes on from one in which foreign code that is not passive has control, without a
move of such code, does not go on at all. -/
theorem eq_of_suffix {site : Site} (played : Plays (.passively passive) start past now)
    (played' : Plays (.passively passive) start past' now') (longer : past <:+ past')
    (waits : now.Waits passive site) (same : moves passive past = moves passive past') :
    past' = past := by
  obtain ⟨later, rfl⟩ := longer
  rcases List.eq_nil_or_concat later with rfl | ⟨front, m, rfl⟩
  · rfl
  · rw [List.concat_append] at played' same
    obtain ⟨rfl, taken⟩ := played.continues played'
    obtain ⟨move, _, deed⟩ := turn?_of_waits taken waits
    have deed : m.deed? passive = some (site, move) := deed
    rw [moves_append, moves_cons deed, List.append_assoc, List.self_eq_append_right] at same
    exact absurd same (List.cons_ne_nil _ _)

/-- The moves of foreign code that is not passive decide a play up to the place where such code has
control again. -/
theorem eq_of_moves_eq {site site' : Site} (played : Plays (.passively passive) start past now)
    (played' : Plays (.passively passive) start past' now') (waits : now.Waits passive site)
    (waits' : now'.Waits passive site') (same : moves passive past = moves passive past') :
    past' = past ∧ now' = now := by
  have past_eq : past' = past := by
    rcases played.suffix_or_suffix played' (same ▸ List.prefix_rfl) with longer | longer
    · exact played.eq_of_suffix played' longer waits same
    · exact (played'.eq_of_suffix played longer waits' same.symm).symm
  subst past_eq
  exact ⟨rfl, played'.unique played⟩

/-- How a scheduler is watched has no influence on what it does, where all commands are legible: no
number in them has too many digits to be written down.  Every play of the one scheduler has the same
outcome as some play of the other, in which foreign code that is not passive does the same; and all
plays in which such code makes the same moves have the same outcome, whenever it has control in the
end: it has been called at the same places, has control at the same place, and has been given the
same answer there. -/
theorem watched_alike (initially : s.Legible) (same : s.Indistinct passive t) :
    (∀ past now, Plays (.passively passive) (.atRest s) past now →
      ∃ past' now', Plays (.passively passive) (.atRest t) past' now' ∧
        SameOutcome passive past now past' now' ∧
        ∀ site, now.Waits passive site → now'.Waits passive site ∧ now'.signal = now.signal) ∧
    ∀ past now past' now' site site',
      Plays (.passively passive) (.atRest s) past now →
      Plays (.passively passive) (.atRest t) past' now' →
      moves passive past = moves passive past' →
      now.Waits passive site → now'.Waits passive site' →
      SameOutcome passive past now past' now' ∧ site' = site ∧ now'.signal = now.signal := by
  constructor
  · intro past now played
    obtain ⟨past', now', played', trails, deeds_eq, deliveries_eq⟩ := trailed initially same played
    exact ⟨past', now', played', .of_trails trails deeds_eq deliveries_eq,
      fun site waits => trails.waits waits⟩
  · intro past now past' now' site site' played played' moves_eq waits waits'
    obtain ⟨past'', now'', played'', trails, deeds_eq, deliveries_eq⟩ :=
      trailed initially same played
    obtain ⟨waits'', signal_eq⟩ := trails.waits waits
    have moves_eq' : moves passive past'' = moves passive past' := by
      rw [moves, deeds_eq]
      exact moves_eq
    obtain ⟨rfl, rfl⟩ := played''.eq_of_moves_eq played' waits'' waits' moves_eq'
    refine ⟨.of_trails trails deeds_eq deliveries_eq, ?_, signal_eq⟩
    exact Option.some.inj (waits'.1.symm.trans waits''.1)

/-- A scheduler as `plainStart` is, but with stacks in a journal that holds one entry, and with a
passive observer of everything that happens. -/
def watchedStart : Scheduler :=
  plainStart.seen true (.empty 1)
    [(.programStart, 7), (.afterPrimitive, 7), (.onError, 7), (.programEnd, 7)]

theorem plainStart_indistinct : plainStart.Indistinct (· == 7) watchedStart :=
  Scheduler.fresh_indistinct _ _ true 10 1 (by decide)

theorem plainStart_legible : plainStart.Legible :=
  ⟨fun _ member => absurd member List.not_mem_nil, rfl, rfl⟩

/-- A primitive is drawn and another command is refused, and a callback is called, in both. -/
theorem watchedStart_alike :
    ∃ past now past' now',
      Plays (.passively (· == 7)) (.atRest plainStart) past now ∧
      Plays (.passively (· == 7)) (.atRest watchedStart) past' now' ∧
      now.sched.journal.held.length = 5 ∧ now'.sched.calls.length = 1 ∧
      now'.sched.reports.length = 1 ∧ (deliveries past').length = 1 ∧
      SameOutcome (· == 7) past now past' now' ∧ now'.site? = some .outside := by
  obtain ⟨past, now, played, facts⟩ := exists_of_play? (.passively (· == 7)) (.atRest plainStart)
    [.move (.cue [.command (.leaf "pu" [] none), .command (.leaf "x" [] none)] (some 1)),
      .work, .work, .move .finish, .work, .work, .work, .work, .work, .work, .work, .move .finish,
      .work, .work, .work]
    (fun past now => decide (now.Outside ∧ now.sched.journal.held.length = 5 ∧
      now.sched.calls.length = 1 ∧ now.sched.reports.length = 1 ∧ (deliveries past).length = 1))
    (by decide)
  obtain ⟨outside, held, called, reported, delivered⟩ := of_decide_eq_true facts
  obtain ⟨past', now', played', outcome, follows⟩ :=
    (watched_alike plainStart_legible plainStart_indistinct).1 past now played
  have here : now.Waits (· == 7) .outside := ⟨by rw [site?, outside], rfl⟩
  refine ⟨past, now, past', now', played, played', held, ?_, ?_, ?_, outcome, (follows _ here).1.1⟩
  · rw [outcome.calls_eq, called]
  · rw [outcome.reports_eq, reported]
  · rw [outcome.deliveries_eq, delivered]

end Plays

end Turtle
