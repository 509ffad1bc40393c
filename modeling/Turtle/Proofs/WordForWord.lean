import Mathlib.Data.List.Forall2
import Turtle.Procedure.Binding
import Turtle.Program.Value
import Turtle.Proofs.Grammar

/-!
# Word for word

The arguments of a call take the place of parameters in all leaves of a body at once, word for word.
What a word stands for is decided by that word alone: by the last of the parameters that are equal
to it.  So a bound body is told apart from the stored one by nothing but words, and what is put for
a word is never looked at again.
-/

set_option autoImplicit false

namespace Turtle

namespace Command

mutual

/-- A command with other words in its leaves, those in its body too. -/
def reword (f : String → String) : Command → Command
  | .leaf op args at? => .leaf (f op) (args.map f) at?
  | .loop count body at? => .loop count (rewordAll f body) at?
  | .define name params body at? => .define name params (rewordAll f body) at?
  | .stray shown? => .stray shown?

def rewordAll (f : String → String) : List Command → List Command
  | [] => []
  | command :: rest => command.reword f :: rewordAll f rest

end

mutual

/-- The words of the leaves in a command. -/
def words : Command → List String
  | .leaf op args _ => op :: args
  | .loop _ body _ => wordsOfAll body
  | .define _ _ body _ => wordsOfAll body
  | .stray _ => []

def wordsOfAll : List Command → List String
  | [] => []
  | command :: rest => command.words ++ wordsOfAll rest

end

/-- Two commands are alike but for the words of their leaves, and these are related one by one. -/
inductive WordForWord (related : String → String → Prop) : Command → Command → Prop where
  | leaf {op op' : String} {args args' : List String} (at? : Option Location) :
    related op op' → List.Forall₂ related args args' →
      WordForWord related (.leaf op args at?) (.leaf op' args' at?)
  | loop (count : Int) {body body' : List Command} (at? : Option Location) :
    List.Forall₂ (WordForWord related) body body' →
      WordForWord related (.loop count body at?) (.loop count body' at?)
  | define (name : String) (params : List String) {body body' : List Command}
    (at? : Option Location) : List.Forall₂ (WordForWord related) body body' →
      WordForWord related (.define name params body at?) (.define name params body' at?)
  | stray (shown? : Option String) : WordForWord related (.stray shown?) (.stray shown?)

variable {f g : String → String}

theorem rewordAll_eq_map (commands : List Command) :
    rewordAll f commands = commands.map (reword f) := by
  induction commands with
  | nil => rfl
  | cons command rest ih => rw [rewordAll, List.map_cons, ih]

theorem substituteAll_eq_rewordAll (bindings : Bindings) (commands : List Command) :
    substituteAll bindings commands = rewordAll bindings.token commands := by
  induction commands using induction_on_bodies with
  | nil => rfl
  | cons command rest ihBody ihRest =>
    rw [substituteAll, rewordAll, ihRest]
    cases command with
    | loop count body at? =>
      simp only [Command.body] at ihBody
      rw [substitute, reword, ihBody]
    | define name params body at? =>
      simp only [Command.body] at ihBody
      rw [substitute, reword, ihBody]
    | _ => rfl

/-- Two ways to put words come to the same if and only if they agree on the words of the leaves. -/
theorem rewordAll_eq_iff (commands : List Command) :
    rewordAll f commands = rewordAll g commands ↔
      ∀ word ∈ wordsOfAll commands, f word = g word := by
  induction commands using induction_on_bodies with
  | nil => simp [rewordAll, wordsOfAll]
  | cons command rest ihBody ihRest =>
    rw [rewordAll, rewordAll, wordsOfAll, List.forall_mem_append, List.cons.injEq, ihRest]
    refine and_congr_left fun _ => ?_
    cases command with
    | leaf op args at? =>
      simp only [reword, leaf.injEq, and_true, words, List.forall_mem_cons, List.map_inj_left]
    | loop count body at? =>
      simp only [Command.body] at ihBody
      simp only [reword, loop.injEq, true_and, and_true, words, ihBody]
    | define name params body at? =>
      simp only [Command.body] at ihBody
      simp only [reword, define.injEq, true_and, and_true, words, ihBody]
    | stray shown => simp [reword, words]

theorem rewordAll_rewordAll (commands : List Command) :
    rewordAll g (rewordAll f commands) = rewordAll (g ∘ f) commands := by
  induction commands using induction_on_bodies with
  | nil => rfl
  | cons command rest ihBody ihRest =>
    rw [rewordAll, rewordAll, rewordAll, ihRest]
    cases command with
    | leaf op args at? => simp [reword]
    | loop count body at? =>
      simp only [Command.body] at ihBody
      simp only [reword, ihBody]
    | define name params body at? =>
      simp only [Command.body] at ihBody
      simp only [reword, ihBody]
    | stray shown => rfl

theorem rewordAll_id (commands : List Command) : rewordAll id commands = commands := by
  induction commands using induction_on_bodies with
  | nil => rfl
  | cons command rest ihBody ihRest =>
    rw [rewordAll, ihRest]
    cases command with
    | leaf op args at? => simp [reword]
    | loop count body at? =>
      simp only [Command.body] at ihBody
      rw [reword, ihBody]
    | define name params body at? =>
      simp only [Command.body] at ihBody
      rw [reword, ihBody]
    | stray shown => rfl

/-- Where all words stay, commands stay. -/
theorem rewordAll_of_stays {commands : List Command}
    (stays : ∀ word ∈ wordsOfAll commands, f word = word) : rewordAll f commands = commands := by
  have same : rewordAll f commands = rewordAll id commands := (rewordAll_eq_iff commands).mpr stays
  rw [same, rewordAll_id]

section Related

variable {related : String → String → Prop}
  (means : ∀ word word', related word word' ↔ f word = word')
include means

theorem forall₂_words_iff {words words' : List String} :
    List.Forall₂ related words words' ↔ words.map f = words' := by
  have same : related = fun word word' => f word = word' := by
    funext word word'
    exact propext (means word word')
  rw [same, ← List.forall₂_map_left_iff, List.forall₂_eq_eq_eq]

/-- Commands that are alike word for word are what comes of putting words for words. -/
theorem forall₂_wordForWord_iff (commands commands' : List Command) :
    List.Forall₂ (WordForWord related) commands commands' ↔ rewordAll f commands = commands' := by
  induction commands using induction_on_bodies generalizing commands' with
  | nil => simp [rewordAll, eq_comm]
  | cons command rest ihBody ihRest =>
    have first : ∀ command',
        WordForWord related command command' ↔ command.reword f = command' := by
      intro command'
      constructor
      · intro alike
        cases alike with
        | leaf at? op_related args_related =>
          rw [reword, (means _ _).mp op_related, (forall₂_words_iff means).mp args_related]
        | loop count at? body_alike =>
          simp only [Command.body] at ihBody
          rw [reword, (ihBody _).mp body_alike]
        | define name params at? body_alike =>
          simp only [Command.body] at ihBody
          rw [reword, (ihBody _).mp body_alike]
        | stray shown => rfl
      · rintro rfl
        cases command with
        | leaf op args at? =>
          exact .leaf at? ((means _ _).mpr rfl) ((forall₂_words_iff means).mpr rfl)
        | loop count body at? => exact .loop count at? ((ihBody _).mpr rfl)
        | define name params body at? => exact .define name params at? ((ihBody _).mpr rfl)
        | stray shown => exact .stray shown
    rw [List.forall₂_cons_left_iff, rewordAll]
    constructor
    · rintro ⟨command', rest', alike, others, rfl⟩
      rw [(first command').mp alike, (ihRest rest').mp others]
    · rintro rfl
      exact ⟨_, _, (first _).mpr rfl, (ihRest _).mpr rfl, rfl⟩

end Related

end Command

namespace Procedure

/-- What a word of a body stands for in a call: the written form of the argument for the last
parameter that is equal to it, and itself if it is no parameter. -/
inductive Stands (params : List String) (values : List Value) : String → String → Prop where
  | argument {word token : String} {value : Value} (position : Nat) :
    params[position]? = some word → (∀ later, position < later → params[later]? ≠ some word) →
      values[position]? = some value → value.written? = some token →
        Stands params values word token
  | itself {word : String} : word ∉ params → Stands params values word word

variable {params : List String} {values : List Value} {word word' : String}

theorem Stands.unique {other : String} (stands : Stands params values word word')
    (again : Stands params values word other) : word' = other := by
  cases stands with
  | argument i here last given written =>
    cases again with
    | argument j here' last' given' written' =>
      rcases Nat.lt_trichotomy i j with before | rfl | after
      · exact absurd here' (last j before)
      · obtain rfl := Option.some.inj (given.symm.trans given')
        exact Option.some.inj (written.symm.trans written')
      · exact absurd here (last' i after)
    | itself unbound => exact absurd (List.mem_of_getElem? here) unbound
  | itself unbound =>
    cases again with
    | argument j here' => exact absurd (List.mem_of_getElem? here') unbound
    | itself => rfl

/-- Bindings put for a word what it stands for. -/
theorem stands_token (procedure : Procedure) {tokens : List String}
    (written : Value.tokens? values = some tokens)
    (fits : values.length = procedure.params.length) (word : String) :
    Stands procedure.params values word ((procedure.bindings tokens).token word) := by
  have size : tokens.length = procedure.params.length :=
    (Value.length_of_tokens? written).trans fits
  have paired : ∀ position : Nat, ∀ token, tokens[position]? = some token →
      procedure.params[position]? = some word →
        (procedure.params.zip tokens)[position]? = some (word, token) := by
    intro position token given here
    rw [List.getElem?_zip_eq_some]
    exact ⟨here, given⟩
  cases found : (procedure.bindings tokens).lookup word with
  | none =>
    rw [Bindings.token, found, Option.getD_none]
    refine .itself fun member => ?_
    obtain ⟨position, here⟩ := List.mem_iff_getElem?.mp member
    obtain ⟨bound, _⟩ := List.getElem?_eq_some_iff.mp here
    have given := List.getElem?_eq_getElem (size ▸ bound : position < tokens.length)
    have listed := List.mem_of_getElem? (paired position _ given here)
    have differs := List.lookup_eq_none_iff.mp found _ (List.mem_reverse.mpr listed)
    simp at differs
  | some argument =>
    rw [Bindings.token, found, Option.getD_some]
    obtain ⟨after, before, split, differ⟩ := List.lookup_eq_some_iff.mp found
    have zipped : procedure.params.zip tokens =
        before.reverse ++ (word, argument) :: after.reverse := by
      have turned := congrArg List.reverse split
      simpa [bindings] using turned
    have here : (procedure.params.zip tokens)[before.length]? = some (word, argument) := by
      rw [zipped, List.getElem?_append_right (by simp)]
      simp
    obtain ⟨param, given⟩ := List.getElem?_zip_eq_some.mp here
    rw [Value.getElem?_of_tokens? written] at given
    obtain ⟨value, given, spelt⟩ := Option.bind_eq_some_iff.mp given
    refine .argument before.length param (fun later follows again => ?_) given spelt
    -- A later parameter that is equal would have come first among the bindings.
    obtain ⟨bound, _⟩ := List.getElem?_eq_some_iff.mp again
    have there := paired later _ (List.getElem?_eq_getElem (size ▸ bound)) again
    rw [zipped, List.getElem?_append_right (by simp; omega), List.length_reverse,
      show later - before.length = (later - before.length - 1) + 1 by omega,
      List.getElem?_cons_succ] at there
    have differs := differ _ (List.mem_reverse.mp (List.mem_of_getElem? there))
    simp at differs

theorem stands_iff (procedure : Procedure) {tokens : List String}
    (written : Value.tokens? values = some tokens)
    (fits : values.length = procedure.params.length) (word word' : String) :
    Stands procedure.params values word word' ↔
      (procedure.bindings tokens).token word = word' := by
  constructor
  · intro stands
    exact (procedure.stands_token written fits word).unique stands
  · rintro rfl
    exact procedure.stands_token written fits word

theorem bind_eq_ok_of_fits (procedure : Procedure) {args : List String} (given : args ≠ [])
    (fits : args.length = procedure.params.length) (at? : Option Location) :
    procedure.bind args at? =
      .ok (Command.rewordAll (procedure.bindings args).token procedure.body) := by
  cases args with
  | nil => exact absurd rfl given
  | cons arg args =>
    rw [bind, checkArity, if_pos (by simp [accepts, fits]), ← Command.substituteAll_eq_rewordAll]
    rfl

theorem accepts_eq_false_iff (procedure : Procedure) (count : Nat) :
    procedure.accepts count = false ↔ count ≠ 0 ∧ count ≠ procedure.params.length := by
  simp [accepts]

theorem bindValues_of_misfit (procedure : Procedure) (given : values ≠ [])
    (misfits : values.length ≠ procedure.params.length) (at? : Option Location) :
    procedure.bindValues values at? =
      .error (.fault ⟨.wrongArity procedure.name procedure.params.length values.length, at?,
        none⟩) := by
  cases values with
  | nil => exact absurd rfl given
  | cons value values =>
    have refused : procedure.accepts (value :: values).length = false :=
      (procedure.accepts_eq_false_iff _).mpr ⟨Nat.succ_ne_zero _, misfits⟩
    rw [bindValues, checkArity, refused]
    rfl

section Fits

variable {procedure : Procedure} (given : values ≠ [])
  (fits : values.length = procedure.params.length) (at? : Option Location)

include given fits

theorem bindValues_of_fits :
    procedure.bindValues values at? =
      (Value.tokens? values).elim (.error .unwritableNumber) fun tokens =>
        .ok (Command.rewordAll (procedure.bindings tokens).token procedure.body) := by
  cases values with
  | nil => exact absurd rfl given
  | cons value values =>
    have accepted : procedure.accepts (value :: values).length = true := by simp [accepts, fits]
    rw [bindValues, checkArity, accepted]
    cases Value.tokens? (value :: values) with
    | none => rfl
    | some tokens => exact congrArg Except.ok (Command.substituteAll_eq_rewordAll _ _)

theorem bindValues_eq_ok_iff_of_fits (bound : List Command) :
    procedure.bindValues values at? = .ok bound ↔
      (∀ value ∈ values, value.written? ≠ none) ∧
        List.Forall₂ (Command.WordForWord (Stands procedure.params values))
          procedure.body bound := by
  rw [bindValues_of_fits given fits]
  have unwritten := Value.tokens?_eq_none_iff values
  cases written : Value.tokens? values with
  | none =>
    obtain ⟨value, member, unwritable⟩ := unwritten.mp written
    exact iff_of_false (by simp) fun both => both.1 value member unwritable
  | some tokens =>
    have all : ∀ value ∈ values, value.written? ≠ none := by
      intro value member unwritable
      rw [unwritten.mpr ⟨value, member, unwritable⟩] at written
      contradiction
    rw [Option.elim_some, Except.ok.injEq, and_iff_right all]
    exact (Command.forall₂_wordForWord_iff (procedure.stands_iff written fits) _ _).symm

theorem bindValues_eq_unwritable_iff_of_fits :
    procedure.bindValues values at? = .error .unwritableNumber ↔
      ∃ value ∈ values, value.written? = none := by
  rw [bindValues_of_fits given fits, ← Value.tokens?_eq_none_iff]
  cases Value.tokens? values <;> simp

theorem bindValues_unrefused (fault : Fault) :
    procedure.bindValues values at? ≠ .error (.fault fault) := by
  rw [bindValues_of_fits given fits]
  cases Value.tokens? values <;> simp

end Fits

/-- A call binds a body by putting for each word what it stands for, and nothing else is changed;
without arguments the stored body is taken as it is.  It is refused if and only if there are
arguments, but not as many as parameters, and it fails if and only if there are as many and one of
them cannot be written.  Tokens, which are all that commands hold, can always be written. -/
theorem bindValues_eq_ok_iff (procedure : Procedure) (values : List Value)
    (at? : Option Location) :
    (∀ bound, procedure.bindValues values at? = .ok bound ↔
      values = [] ∧ bound = procedure.body ∨
        values ≠ [] ∧ values.length = procedure.params.length ∧
          (∀ value ∈ values, value.written? ≠ none) ∧
          List.Forall₂ (Command.WordForWord (Stands procedure.params values))
            procedure.body bound) ∧
      (∀ fault, procedure.bindValues values at? = .error (.fault fault) ↔
        values ≠ [] ∧ values.length ≠ procedure.params.length ∧
          fault =
            ⟨.wrongArity procedure.name procedure.params.length values.length, at?, none⟩) ∧
      (procedure.bindValues values at? = .error .unwritableNumber ↔
        values ≠ [] ∧ values.length = procedure.params.length ∧
          ∃ value ∈ values, value.written? = none) ∧
      ∀ args : List String, procedure.bindValues (args.map .text) at? =
        (procedure.bind args at?).mapError .fault := by
  by_cases none : values = []
  · subst none
    exact ⟨fun bound => by simp [bindValues, eq_comm], fun fault => by simp [bindValues],
      by simp [bindValues], fun args => procedure.bindValues_map_text args at?⟩
  by_cases fits : values.length = procedure.params.length
  · refine ⟨fun bound => ?_, fun fault => ?_, ?_, fun args =>
      procedure.bindValues_map_text args at?⟩
    · rw [bindValues_eq_ok_iff_of_fits none fits]
      simp only [none, fits, false_and, false_or, ne_eq, not_false_eq_true, true_and]
    · exact iff_of_false (bindValues_unrefused none fits at? fault) fun refused => refused.2.1 fits
    · rw [bindValues_eq_unwritable_iff_of_fits none fits]
      simp only [none, fits, ne_eq, not_false_eq_true, true_and]
  · have refused := procedure.bindValues_of_misfit none fits at?
    refine ⟨fun bound => ?_, fun fault => ?_, ?_, fun args =>
      procedure.bindValues_map_text args at?⟩
    · simp [refused, none, fits]
    · simp [refused, none, fits, eq_comm]
    · simp [refused, fits]

/-- The words of a call may be parameters themselves; of two equal parameters the last counts. -/
example :
    bindValues ⟨"p", ["x", "y", "x"],
        [.leaf "x" ["y", "xy"] none, .define "q" ["z"] [.leaf "z" ["x"] none] none]⟩
      [.whole 1, .text "x", .text "y"] none =
    .ok [.leaf "y" ["x", "xy"] none, .define "q" ["z"] [.leaf "z" ["y"] none] none] := by
  rfl

end Procedure

end Turtle
