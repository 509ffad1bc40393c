import Turtle.Proofs.Completion
import Turtle.Proofs.TwinPlays
import Turtle.Run.Invocation

/-!
# Renamed parameters

The parameters of a procedure can be given other names, as long as different ones are told apart and
none is taken for a word that the body has besides.  Then each call that has arguments carries out
the same body, and so runs are the same, turn by turn, as long as the procedure is not called
without arguments: such a call would carry out the parameters themselves.
-/

set_option autoImplicit false

namespace Turtle

/-- Parameters are renamed; other words stay. -/
def newWord (params : List String) (newName : String → String) (word : String) : String :=
  if word ∈ params then newName word else word

namespace Procedure

/-- A procedure with other names for its parameters. -/
def rename (procedure : Procedure) (newName : String → String) : Procedure :=
  { procedure with
    params := procedure.params.map newName
    body := Command.rewordAll (newWord procedure.params newName) procedure.body }

/-- Different parameters are told apart by their new names, and no new name is a word that the body
has besides. -/
structure Renames (procedure : Procedure) (newName : String → String) : Prop where
  injective : ∀ param ∈ procedure.params, ∀ other ∈ procedure.params,
    newName param = newName other → param = other
  fresh : ∀ word ∈ Command.wordsOfAll procedure.body, word ∉ procedure.params →
    word ∉ procedure.params.map newName

variable {procedure : Procedure} {newName : String → String}

/-- What a word stands for, its new name stands for after the renaming. -/
theorem Renames.stands (renames : procedure.Renames newName) {values : List Value}
    {word word' : String} (listed : word ∈ Command.wordsOfAll procedure.body)
    (stands : Stands procedure.params values word word') :
    Stands (procedure.params.map newName) values (newWord procedure.params newName word) word' := by
  cases stands with
  | argument position here last given written =>
    have member := List.mem_of_getElem? here
    rw [newWord, if_pos member]
    refine .argument position (by rw [List.getElem?_map, here]; rfl) (fun later follows again => ?_)
      given written
    rw [List.getElem?_map, Option.map_eq_some_iff] at again
    obtain ⟨other, there, same⟩ := again
    obtain rfl := renames.injective other (List.mem_of_getElem? there) word member same
    exact last later follows there
  | itself unbound =>
    rw [newWord, if_neg unbound]
    exact .itself (renames.fresh word listed unbound)

theorem Renames.bind_eq_ok (renames : procedure.Renames newName) {args : List String}
    (given : args ≠ []) (fits : args.length = procedure.params.length) (at? : Option Location) :
    ∃ bound, procedure.bind args at? = .ok bound ∧
      (procedure.rename newName).bind args at? = .ok bound := by
  have fits' : args.length = (procedure.rename newName).params.length := by
    simpa [rename] using fits
  refine ⟨_, procedure.bind_eq_ok_of_fits given fits at?, ?_⟩
  rw [(procedure.rename newName).bind_eq_ok_of_fits given fits' at?]
  refine congrArg Except.ok ?_
  change Command.rewordAll _ (Command.rewordAll _ _) = _
  rw [Command.rewordAll_rewordAll, Command.rewordAll_eq_iff]
  intro word listed
  -- The arguments of a call are texts, and these are written as they are.
  have written : Value.tokens? (args.map Value.text) = some args := Value.tokens?_map_text args
  have count : (args.map Value.text).length = args.length := List.length_map ..
  have stands := procedure.stands_token written (count.trans fits) word
  exact ((procedure.rename newName).stands_iff written (count.trans fits') _ _).mp
    (renames.stands listed stands)

/-- A procedure and itself with other parameters do the same in every call that has arguments. -/
theorem Renames.twins (renames : procedure.Renames newName) :
    procedure.Twins (procedure.rename newName) where
  name_eq := rfl
  bind_eq := by
    intro args given at?
    by_cases fits : args.length = procedure.params.length
    · obtain ⟨bound, ok, ok'⟩ := renames.bind_eq_ok given fits at?
      rw [ok, ok']
    · have refused : procedure.accepts args.length = false := by
        simp [accepts, fits, given]
      have count : (procedure.rename newName).params.length = procedure.params.length :=
        List.length_map ..
      have refused' : (procedure.rename newName).accepts args.length = false := by
        rw [accepts, count]
        exact refused
      rw [(bind_eq_error_iff _ _ _ _).mpr ⟨refused, rfl⟩,
        (bind_eq_error_iff _ _ _ _).mpr ⟨refused', rfl⟩, count]
      rfl

end Procedure

variable {twin twin' : Procedure}

/-- A call from outside does not tell twins apart either. -/
theorem Registry.Swapped.invocation_eq (twins : twin.Twins twin')
    (params : twin'.params.length = twin.params.length) {registry registry' : Registry}
    (swapped : registry.Swapped twin twin' registry') (name : String) (args : List Value) :
    registry'.invocation name args = registry.invocation name args := by
  have lookup := swapped.get? twins name
  unfold Registry.invocation Registry.get
  cases found : registry.get? name with
  | none =>
    cases found' : registry'.get? name with
    | none => rfl
    | some procedure' =>
      rw [found, found'] at lookup
      nomatch lookup
  | some procedure =>
    cases found' : registry'.get? name with
    | none =>
      rw [found, found'] at lookup
      nomatch lookup
    | some procedure' =>
      rw [found, found'] at lookup
      cases lookup with
      | some procedures =>
        have count : procedure'.params.length = procedure.params.length := by
          cases procedures with
          | same => rfl
          | swap => exact params
          | within => rfl
        have checked : procedure'.checkArity args.length none =
            procedure.checkArity args.length none := by
          rw [Procedure.checkArity, Procedure.checkArity, Procedure.accepts, Procedure.accepts,
            count, procedures.name_eq twins]
        change ((procedure'.checkArity _ _).mapError _).bind _ =
          ((procedure.checkArity _ _).mapError _).bind _
        rw [checked, procedures.name_eq twins]

namespace Plays

/-- A procedure with other parameters binds the same for every call that has as many arguments as
parameters.  Whatever is done in a play, as long as the procedure is not called without arguments,
the same can be done where its parameters have been renamed, in the registry and in all that is
cued or defined: the drawing is asked for the same, the same is logged and reported, and a call from
outside comes to the same. -/
theorem renamed {procedure : Procedure} {newName : String → String}
    (renames : procedure.Renames newName) :
    (∀ (args : List String) (at? : Option Location), args ≠ [] →
      args.length = procedure.params.length →
        ∃ bound, procedure.bind args at? = .ok bound ∧
          (procedure.rename newName).bind args at? = .ok bound) ∧
    ∀ {start start' : Scheduler} {past : List Moment} {now : Engine} {turns' : List Turn},
      Plays .free (.atRest start) past now →
      start.Swapped procedure (procedure.rename newName) start' →
      (∀ m ∈ past, m.Spares procedure) →
      List.Forall₂ (Turn.Swapped procedure (procedure.rename newName)) (past.map Moment.turn)
        turns' →
      ∃ past' now', Plays .free (.atRest start') past' now' ∧ past'.map Moment.turn = turns' ∧
        now'.sched.calls = now.sched.calls ∧ now'.sched.reports = now.sched.reports ∧
        now'.sched.journal = now.sched.journal ∧
        ∀ name args, now'.sched.registry.invocation name args =
          now.sched.registry.invocation name args := by
  refine ⟨fun args at? given fits => renames.bind_eq_ok given fits at?, ?_⟩
  intro start start' past now turns' played starts spared turns
  obtain ⟨past', now', played', turns_eq, swapped⟩ :=
    played.swapped renames.twins starts spared turns
  obtain ⟨signal, same, _⟩ := swapped
  have registered := same.registry.invocation_eq renames.twins (List.length_map ..)
  exact ⟨past', _, played', turns_eq, same.read (f := Scheduler.calls) fun _ _ _ => rfl,
    same.read (f := Scheduler.reports) fun _ _ _ => rfl, same.journal_eq, registered⟩

/-- The turns of a play are those that it was played with. -/
theorem turns_of_play? {rules : Rules} {earlier past : List Moment} {e now : Engine}
    {turns : List Turn} (played : Engine.play? rules earlier e turns = some (past, now)) :
    past.map Moment.turn = turns.reverse ++ earlier.map Moment.turn := by
  induction turns generalizing earlier e with
  | nil =>
    simp only [Engine.play?, Option.some.injEq, Prod.mk.injEq] at played
    rw [played.1]
    rfl
  | cons turn turns ih =>
    rw [Engine.play?] at played
    cases taken : e.turn? rules turn with
    | none => simp [taken] at played
    | some next =>
      rw [taken] at played
      rw [ih played]
      simp

/-- A procedure that carries out its argument. -/
def carrying (param : String) : Procedure :=
  ⟨"a", [param], [.leaf param [] none]⟩

/-- It is defined and called from outside. -/
def carryingCue (param : String) : Engine.Move :=
  .cue [.command (.define "a" [param] [.leaf param [] none] none),
    .command (.leaf "a" ["pu"] none)] none

/-- The pen is lifted, whatever name the parameter has. -/
theorem carrying_renamed :
    ∃ past' now', Plays .free (.atRest plainStart) past' now' ∧
      past'.map Moment.turn = [.work, .work, .work, .move (carryingCue "y")] ∧
      now'.sched.calls = [.penUp] ∧ now'.sched.reports = [] := by
  have renames : (carrying "x").Renames fun _ => "y" := by
    constructor
    · simp [carrying]
    · simp [carrying, Command.wordsOfAll, Command.words]
  have starts : plainStart.Swapped (carrying "x") ((carrying "x").rename fun _ => "y") plainStart :=
    .intro .nil .nil .nil
  obtain ⟨⟨past, now⟩, found, facts⟩ := (Option.any_eq_true _ _).mp (show
    (Engine.play? .free [] (.atRest plainStart)
      [.move (carryingCue "x"), .work, .work, .work]).any (fun r =>
        decide (r.2.sched.calls = [.penUp]) && r.2.sched.reports.isEmpty &&
          r.1.all fun m => ((m.before.stepping? m.turn).bind Scheduler.bareWord?).all (· == "pu"))
      = true by decide)
  simp only [Bool.and_eq_true, decide_eq_true_eq, List.isEmpty_iff, List.all_eq_true] at facts
  obtain ⟨⟨calls, reports⟩, words⟩ := facts
  have spared : ∀ m ∈ past, m.Spares (carrying "x") := by
    intro m member s stepping _ _ op bare named
    have word := words m member
    rw [stepping, Option.bind_some, bare] at word
    obtain rfl : op = "pu" := by simpa using word
    have name := List.find?_some named
    exact absurd name (by decide)
  have turns : List.Forall₂
      (Turn.Swapped (carrying "x") ((carrying "x").rename fun _ => "y")) (past.map Moment.turn)
      [.work, .work, .work, .move (carryingCue "y")] := by
    rw [turns_of_play? found]
    refine .cons .work (.cons .work (.cons .work (.cons (.move (.cue none ?_)) .nil)))
    exact .cons (.command (.swap none (by decide))) (.cons (.same _) .nil)
  obtain ⟨past', now', played', turns_eq, calls_eq, reports_eq, _⟩ :=
    (renamed renames).2 (of_play? found) starts spared turns
  exact ⟨past', now', played', turns_eq, calls_eq.trans calls, reports_eq.trans reports⟩

end Plays

end Turtle
