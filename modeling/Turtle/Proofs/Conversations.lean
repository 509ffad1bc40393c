import Turtle.Proofs.CommandLines
import Turtle.Proofs.Trimming

/-!
# What is read in a conversation

The lines of a conversation are cut into units without regard to what comes of any of them.  A line
that opens a block is one unit with all lines up to the next gap, a gap being a line of blanks; any
other line is a unit by itself.  A block that no gap ends before the lines do is never read.
-/

set_option autoImplicit false

namespace Turtle

namespace Shell

/-- A line of nothing but blanks. -/
def IsGap (line : String) : Prop :=
  ∀ c ∈ line.toList, Text.isBlank c = true

instance : DecidablePred IsGap := fun line =>
  decidable_of_iff (line.toList.all Text.isBlank = true) List.all_eq_true

/-- A line whose first word opens a block, in whatever case it is written. -/
def OpensBlock (line : String) : Prop :=
  ∃ word rest, Text.words (Text.lower line) = word :: rest ∧
    (word = definitionKeyword ∨ word = loopKeyword)

/-- Lines are cut into units, and into those of a block at the end that is not ended. -/
inductive Partitions : List String → List (List String) → List String → Prop where
  | done : Partitions [] [] []
  | gap {line : String} {rest tail : List String} {units : List (List String)} :
    IsGap line → Partitions rest units tail → Partitions (line :: rest) units tail
  | single {line : String} {rest tail : List String} {units : List (List String)} :
    ¬IsGap line → ¬OpensBlock line → Partitions rest units tail →
      Partitions (line :: rest) ([line] :: units) tail
  | block {opening gap : String} {body rest tail : List String} {units : List (List String)} :
    OpensBlock opening → (∀ line ∈ body, ¬IsGap line) → IsGap gap → Partitions rest units tail →
      Partitions (opening :: (body ++ gap :: rest)) ((opening :: body) :: units) tail
  | unended {opening : String} {body : List String} :
    OpensBlock opening → (∀ line ∈ body, ¬IsGap line) →
      Partitions (opening :: body) [] (opening :: body)

/-! ## Lines that are cut into units -/

section Lines

variable {line opening : String} {lines others tail tail' : List String}
  {units units' : List (List String)}

theorem isGap_iff : IsGap line ↔ Text.words line = [] :=
  Text.words_eq_nil_iff.symm

theorem not_isGap_of_opensBlock (opens : OpensBlock line) : ¬IsGap line := by
  obtain ⟨word, rest, found, _⟩ := opens
  rw [isGap_iff, ← Text.words_lower_eq_nil_iff, found]
  exact List.cons_ne_nil _ _

/-- There is no gap among some lines, or there is a first one. -/
theorem exists_first_gap (lines : List String) :
    (∀ line ∈ lines, ¬IsGap line) ∨ ∃ body gap rest, lines = body ++ gap :: rest ∧
      (∀ line ∈ body, ¬IsGap line) ∧ IsGap gap := by
  induction lines with
  | nil => exact Or.inl fun _ member => absurd member List.not_mem_nil
  | cons first lines ih =>
    by_cases here : IsGap first
    · exact Or.inr ⟨[], first, lines, rfl, fun _ member => absurd member List.not_mem_nil, here⟩
    · rcases ih with none | ⟨body, gap, rest, rfl, before, found⟩
      · exact Or.inl (List.forall_mem_cons.mpr ⟨here, none⟩)
      · exact Or.inr ⟨first :: body, gap, rest, rfl, List.forall_mem_cons.mpr ⟨here, before⟩, found⟩

theorem first_gap_unique {body body' rest rest' : List String} {gap gap' : String}
    (before : ∀ line ∈ body, ¬IsGap line) (before' : ∀ line ∈ body', ¬IsGap line)
    (found : IsGap gap) (found' : IsGap gap')
    (same : body ++ gap :: rest = body' ++ gap' :: rest') :
    body = body' ∧ rest = rest' := by
  induction body generalizing body' with
  | nil =>
    cases body' with
    | nil => exact ⟨rfl, (List.cons.inj same).2⟩
    | cons first body' =>
      obtain ⟨rfl, _⟩ := List.cons.inj same
      exact absurd found (before' _ (List.mem_cons_self ..))
  | cons first body ih =>
    cases body' with
    | nil =>
      obtain ⟨rfl, _⟩ := List.cons.inj same
      exact absurd found' (before _ (List.mem_cons_self ..))
    | cons first' body' =>
      obtain ⟨rfl, later⟩ := List.cons.inj same
      obtain ⟨rfl, rest_eq⟩ := ih (fun line member => before line (List.mem_cons_of_mem _ member))
        (fun line member => before' line (List.mem_cons_of_mem _ member)) later
      exact ⟨rfl, rest_eq⟩

theorem exists_partition (lines : List String) : ∃ units tail, Partitions lines units tail := by
  induction size : lines.length using Nat.strong_induction_on generalizing lines with
  | _ size ih =>
    cases lines with
    | nil => exact ⟨[], [], .done⟩
    | cons first lines =>
      rw [List.length_cons] at size
      by_cases opens : OpensBlock first
      · rcases exists_first_gap lines with none | ⟨body, gap, rest, rfl, before, found⟩
        · exact ⟨_, _, .unended opens none⟩
        · rw [List.length_append, List.length_cons] at size
          obtain ⟨units, tail, parts⟩ := ih rest.length (by omega) rest rfl
          exact ⟨_, _, .block opens before found parts⟩
      · obtain ⟨units, tail, parts⟩ := ih lines.length (by omega) lines rfl
        by_cases gap : IsGap first
        · exact ⟨_, _, .gap gap parts⟩
        · exact ⟨_, _, .single gap opens parts⟩

theorem Partitions.of_opens (opens : OpensBlock opening)
    (parts : Partitions (opening :: others) units tail) :
    (∃ body gap rest later, others = body ++ gap :: rest ∧ (∀ line ∈ body, ¬IsGap line) ∧
        IsGap gap ∧ Partitions rest later tail ∧ units = (opening :: body) :: later) ∨
      (∀ line ∈ others, ¬IsGap line) ∧ units = [] ∧ tail = opening :: others := by
  generalize whole : opening :: others = lines at parts
  cases parts with
  | done => contradiction
  | gap gap _ =>
    obtain ⟨rfl, _⟩ := List.cons.inj whole
    exact absurd gap (not_isGap_of_opensBlock opens)
  | single _ closed _ =>
    obtain ⟨rfl, _⟩ := List.cons.inj whole
    exact absurd opens closed
  | block _ before found parts =>
    obtain ⟨rfl, rfl⟩ := List.cons.inj whole
    exact Or.inl ⟨_, _, _, _, rfl, before, found, parts, rfl⟩
  | unended _ before =>
    obtain ⟨rfl, rfl⟩ := List.cons.inj whole
    exact Or.inr ⟨before, rfl, rfl⟩

/-- Lines can be cut into units in one way only. -/
theorem Partitions.unique (parts : Partitions lines units tail)
    (parts' : Partitions lines units' tail') : units' = units ∧ tail' = tail := by
  induction parts generalizing units' tail' with
  | done =>
    cases parts'
    exact ⟨rfl, rfl⟩
  | gap gap _ ih =>
    cases parts' with
    | gap _ parts' => exact ih parts'
    | single visible => exact absurd gap visible
    | block opens => exact absurd gap (not_isGap_of_opensBlock opens)
    | unended opens => exact absurd gap (not_isGap_of_opensBlock opens)
  | single visible closed _ ih =>
    cases parts' with
    | gap gap => exact absurd gap visible
    | single _ _ parts' =>
      obtain ⟨rfl, rfl⟩ := ih parts'
      exact ⟨rfl, rfl⟩
    | block opens => exact absurd opens closed
    | unended opens => exact absurd opens closed
  | block opens before found _ ih =>
    rcases parts'.of_opens opens with
      ⟨body, gap, rest, later, same, before', found', parts', rfl⟩ | ⟨none, _⟩
    · obtain ⟨rfl, rfl⟩ := first_gap_unique before before' found found' same
      obtain ⟨rfl, rfl⟩ := ih parts'
      exact ⟨rfl, rfl⟩
    · exact absurd found (none _ (List.mem_append_right _ (List.mem_cons_self ..)))
  | unended opens before =>
    rcases parts'.of_opens opens with ⟨body, gap, rest, later, rfl, _, found, _⟩ | ⟨_, rfl, rfl⟩
    · exact absurd found (before _ (List.mem_append_right _ (List.mem_cons_self ..)))
    · exact ⟨rfl, rfl⟩

/-- Every line that is no gap is in one of the units, or in what is left, and in its place. -/
theorem Partitions.visible_eq (parts : Partitions lines units tail) :
    lines.filter (fun line => ¬IsGap line) = units.flatten ++ tail := by
  have all : ∀ {body : List String}, (∀ line ∈ body, ¬IsGap line) →
      body.filter (fun line => ¬IsGap line) = body := by
    intro body before
    exact List.filter_eq_self.mpr fun line member => decide_eq_true (before line member)
  induction parts with
  | done => rfl
  | gap gap _ ih => rw [List.filter_cons_of_neg (by simpa using gap), ih]
  | single visible _ _ ih =>
    rw [List.filter_cons_of_pos (by simpa using visible), ih]
    rfl
  | block opens before found _ ih =>
    have visible := not_isGap_of_opensBlock opens
    rw [List.filter_cons_of_pos (by simpa using visible), List.filter_append, all before,
      List.filter_cons_of_neg (by simpa using found), ih]
    simp
  | unended opens before =>
    exact all (List.forall_mem_cons.mpr ⟨not_isGap_of_opensBlock opens, before⟩)

end Lines

namespace Repl

/-! ## What the lines lead to -/

section Reactions

variable {line opening : String} {buffer lines tail : List String} {units : List (List String)}

theorem opensBlock_iff : opensBlock line = true ↔ OpensBlock line := by
  unfold opensBlock OpensBlock
  rw [Text.lower_strip, Text.words_strip]
  cases Text.words (Text.lower line) <;> simp

theorem strip_beq_iff : (Text.strip line == "") = true ↔ IsGap line := by
  rw [beq_iff_eq, Text.strip_eq_empty_iff, isGap_iff]

theorem react_gap (gap : IsGap line) : react [] line = .keep [] := by
  unfold react
  rw [strip_beq_iff.mpr gap]

theorem react_ending (underway : buffer ≠ []) (gap : IsGap line) :
    react buffer line = .run (String.intercalate "\n" buffer.reverse) := by
  unfold react
  rw [strip_beq_iff.mpr gap]
  cases buffer with
  | nil => exact absurd rfl underway
  | cons => rfl

theorem strip_beq_of_visible (visible : ¬IsGap line) : (Text.strip line == "") = false :=
  Bool.eq_false_iff.mpr fun empty => visible (strip_beq_iff.mp empty)

theorem react_single (visible : ¬IsGap line) (closed : ¬OpensBlock line) :
    react [] line = .run line := by
  unfold react
  rw [strip_beq_of_visible visible]
  exact if_neg fun opens => closed (opensBlock_iff.mp opens)

theorem react_opening (opens : OpensBlock line) : react [] line = .keep [line] := by
  unfold react
  rw [strip_beq_of_visible (not_isGap_of_opensBlock opens)]
  exact if_pos (opensBlock_iff.mpr opens)

theorem react_within (underway : buffer ≠ []) (visible : ¬IsGap line) :
    react buffer line = .keep (line :: buffer) := by
  unfold react
  rw [strip_beq_of_visible visible]
  cases buffer with
  | nil => exact absurd rfl underway
  | cons => rfl

/-- The lines of a block are kept. -/
theorem texts_within {body : List String} (underway : buffer ≠ [])
    (before : ∀ line ∈ body, ¬IsGap line) (rest : List String) :
    texts buffer (body ++ rest) = texts (body.reverse ++ buffer) rest := by
  induction body generalizing buffer with
  | nil => rfl
  | cons line body ih =>
    obtain ⟨visible, before⟩ := List.forall_mem_cons.mp before
    rw [List.cons_append, texts, react_within underway visible, List.reverse_cons,
      List.append_assoc]
    exact ih (List.cons_ne_nil _ _) before

/-- The texts that are given to be run are the units, each with its lines put together again. -/
theorem texts_of_partitions (parts : Partitions lines units tail) :
    texts [] lines = units.map (String.intercalate "\n") := by
  induction parts with
  | done => rfl
  | gap gap _ ih => rw [texts, react_gap gap, ← ih]
  | single visible closed _ ih =>
    rw [texts, react_single visible closed, List.map_cons, ← ih, String.intercalate_singleton]
  | @block opening gap body rest _ _ opens before found _ ih =>
    have kept := texts_within (List.cons_ne_nil opening []) before (gap :: rest)
    have underway : body.reverse ++ [opening] ≠ [] := by simp
    rw [texts, react_opening opens, List.map_cons, ← ih]
    refine kept.trans ?_
    rw [texts, react_ending underway found]
    simp
  | @unended opening body opens before =>
    have kept := texts_within (List.cons_ne_nil opening []) before []
    rw [List.append_nil] at kept
    rw [texts, react_opening opens]
    exact kept

end Reactions

/-! ## What is read -/

/-- The texts that are read in a conversation, each with the shell that reads it. -/
def readings (fuel : Nat) (repl : Repl) : List String → List (Shell × String)
  | [] => []
  | line :: rest =>
    let given :=
      match react repl.buffer line with
      | .keep _ => []
      | .run text => [(repl.shell, text)]
    match repl.feed fuel line with
    | some (.ok next) => given ++ next.readings fuel rest
    | _ => given

end Repl

/-- The run of a text comes to its end, and no failure leaves it. -/
def Returns (fuel : Nat) (reading : Shell × String) : Prop :=
  ∃ after code, reading.1.runText fuel reading.2 false = some (after, .exit code)

/-- Something is wrong with a text: it is no program, or faults are reported in its run. -/
inductive Faulty (fuel : Nat) : Shell × String → Prop where
  | unread {shell : Shell} {text : String} {fault : ParseFault} :
    parse shell.file text = .error fault → Faulty fuel (shell, text)
  | faults {shell : Shell} {text : String} {program : List Command} {ended : Execution}
    {result : RunResult} : parse shell.file text = .ok program →
      (Execution.start shell.terminal shell.sched program).run fuel = ended →
      ended.result = .ok result → ended.engine.sched.faultsOf result.cycle ≠ [] →
      Faulty fuel (shell, text)

theorem runText_exit {fuel : Nat} {shell after : Shell} {text : String} {code : Nat}
    (ran : shell.runText fuel text false = some (after, .exit code)) :
    (code = 0 ∧ ¬Faulty fuel (shell, text)) ∨ (code = 1 ∧ Faulty fuel (shell, text)) := by
  unfold runText execution at ran
  cases parsed : parse shell.file text with
  | error fault =>
    rw [parsed] at ran
    obtain ⟨_, code_eq⟩ := Prod.mk.inj (Option.some.inj ran)
    exact Or.inr ⟨(Ending.exit.inj code_eq).symm, .unread parsed⟩
  | ok program =>
    rw [parsed] at ran
    generalize finished : (Execution.start shell.terminal shell.sched program).run fuel = ended
    simp only [Except.map, finished, conclude] at ran
    split at ran
    · cases found : ended.result with
      | error failure => simp [found] at ran
      | ok result =>
        simp only [found, Option.some.injEq, Prod.mk.injEq, Ending.exit.injEq] at ran
        obtain ⟨_, code_eq⟩ := ran
        by_cases faultless : ended.engine.sched.faultsOf result.cycle = []
        · refine Or.inl ⟨by simpa [faultless] using code_eq.symm, ?_⟩
          rintro (unread | ⟨parsed', finished', found', faulty⟩)
          · exact absurd (parsed.symm.trans unread) (by simp)
          · obtain rfl := Except.ok.inj (parsed.symm.trans parsed')
            obtain rfl := finished.symm.trans finished'
            obtain rfl := Except.ok.inj (found.symm.trans found')
            exact faulty faultless
        · refine Or.inr ⟨by simpa [faultless] using code_eq.symm, ?_⟩
          exact .faults parsed finished found faultless
    · contradiction

namespace Repl

section Readings

variable {fuel status : Nat} {repl : Repl} {line text : String} {lines rest kept : List String}
  {after last : Shell} {code : Nat}

theorem readings_of_keep (reacted : react repl.buffer line = .keep kept) :
    repl.readings fuel (line :: rest) =
      (prompt { repl with buffer := kept }).readings fuel rest := by
  simp only [readings, feed, reacted, List.nil_append]

theorem readings_of_exit (reacted : react repl.buffer line = .run text)
    (ran : repl.shell.runText fuel text false = some (after, .exit code)) :
    repl.readings fuel (line :: rest) = (repl.shell, text) ::
      (prompt ⟨after, [], if code = 0 then repl.status else code⟩).readings fuel rest := by
  simp only [readings, feed, reacted, ran, Option.map_some, resume, List.singleton_append]

theorem readings_of_not_returns (reacted : react repl.buffer line = .run text)
    (stays : ¬Returns fuel (repl.shell, text)) :
    repl.readings fuel (line :: rest) = [(repl.shell, text)] := by
  simp only [readings, feed, reacted]
  cases ran : repl.shell.runText fuel text false with
  | none => rfl
  | some ended =>
    obtain ⟨after, ending⟩ := ended
    cases ending with
    | failed failure => rfl
    | exit code => exact absurd ⟨after, code, ran⟩ stays

/-- Whatever comes of the texts, no other text is read, and none out of its turn. -/
theorem readings_in_turn (repl : Repl) (lines : List String) :
    (repl.readings fuel lines).map Prod.snd <+: texts repl.buffer lines := by
  induction lines generalizing repl with
  | nil => exact List.nil_prefix
  | cons line rest ih =>
    rw [texts]
    cases reacted : react repl.buffer line with
    | keep kept =>
      rw [readings_of_keep reacted]
      exact ih _
    | run text =>
      by_cases returns : Returns fuel (repl.shell, text)
      · obtain ⟨after, code, ran⟩ := returns
        rw [readings_of_exit reacted ran, List.map_cons]
        exact List.cons_prefix_cons.mpr ⟨rfl, ih _⟩
      · rw [readings_of_not_returns reacted returns]
        exact List.cons_prefix_cons.mpr ⟨rfl, List.nil_prefix⟩

/-- A conversation whose runs all return reads all texts.  Its code is one if something was wrong
with any of them, and is left as it was otherwise. -/
theorem feedAll_of_returns (repl : Repl) (lines : List String)
    (returns : ∀ reading ∈ repl.readings fuel lines, Returns fuel reading) :
    (repl.readings fuel lines).map Prod.snd = texts repl.buffer lines ∧
      ∃ last status, repl.feedAll fuel lines = some (last, .exit status) ∧
        ((∃ reading ∈ repl.readings fuel lines, Faulty fuel reading) ∧ status = 1 ∨
          (∀ reading ∈ repl.readings fuel lines, ¬Faulty fuel reading) ∧
            status = repl.status) := by
  induction lines generalizing repl with
  | nil =>
    refine ⟨rfl, _, _, rfl, Or.inr ⟨?_, rfl⟩⟩
    intro reading member
    exact absurd member List.not_mem_nil
  | cons line rest ih =>
    rw [texts]
    cases reacted : react repl.buffer line with
    | keep kept =>
      rw [readings_of_keep reacted] at returns ⊢
      rw [feedAll_of_keep reacted]
      exact ih _ returns
    | run text =>
      have first : Returns fuel (repl.shell, text) := by
        by_contra stays
        rw [readings_of_not_returns reacted stays] at returns
        exact stays (returns _ (List.mem_singleton_self _))
      obtain ⟨after, code, ran⟩ := first
      rw [readings_of_exit reacted ran] at returns ⊢
      rw [feedAll_of_exit reacted ran]
      obtain ⟨texts_eq, last, status, fed, outcome⟩ :=
        ih _ fun reading member => returns reading (List.mem_cons_of_mem _ member)
      refine ⟨congrArg (text :: ·) texts_eq, last, status, fed, ?_⟩
      simp only [List.mem_cons, exists_eq_or_imp, forall_eq_or_imp]
      rcases runText_exit ran with ⟨rfl, sound⟩ | ⟨rfl, faulty⟩
      · rcases outcome with ⟨later, status_eq⟩ | ⟨none, status_eq⟩
        · exact Or.inl ⟨Or.inr later, status_eq⟩
        · exact Or.inr ⟨⟨sound, none⟩, status_eq⟩
      · refine Or.inl ⟨Or.inl faulty, ?_⟩
        rcases outcome with ⟨_, status_eq⟩ | ⟨_, status_eq⟩
        · exact status_eq
        · exact status_eq

end Readings

/-- The lines of a conversation are cut into units in one way, whatever comes of the units, and each
line that is no gap is in one of them and in its place, but for those of a block at the end that no
gap has ended.  What is read are the units in their order, each with its lines put together; only a
run that does not return keeps the units after it from being read.  If all runs return then the code
of the conversation is one if something is wrong with any of the units, and zero otherwise. -/
theorem reads_units (lines : List String) : ∃ units tail,
    Partitions lines units tail ∧
    (∀ units' tail', Partitions lines units' tail' → units' = units ∧ tail' = tail) ∧
    lines.filter (fun line => ¬IsGap line) = units.flatten ++ tail ∧
    ∀ fuel shell,
      ((start shell).readings fuel lines).map Prod.snd <+:
        units.map (String.intercalate "\n") ∧
      ((∀ reading ∈ (start shell).readings fuel lines, Returns fuel reading) →
        ((start shell).readings fuel lines).map Prod.snd = units.map (String.intercalate "\n") ∧
        ∃ last status, (start shell).feedAll fuel lines = some (last, .exit status) ∧
          (status = 0 ∨ status = 1) ∧
          (status = 1 ↔ ∃ reading ∈ (start shell).readings fuel lines, Faulty fuel reading)) := by
  obtain ⟨units, tail, parts⟩ := exists_partition lines
  refine ⟨units, tail, parts, fun _ _ parts' => parts.unique parts', parts.visible_eq, ?_⟩
  intro fuel shell
  rw [← texts_of_partitions parts]
  refine ⟨readings_in_turn (start shell) lines, fun returns => ?_⟩
  obtain ⟨texts_eq, last, status, fed, outcome⟩ := feedAll_of_returns (start shell) lines returns
  refine ⟨texts_eq, last, status, fed, ?_⟩
  rcases outcome with ⟨faulty, rfl⟩ | ⟨none, rfl⟩
  · exact ⟨Or.inr rfl, iff_of_true rfl faulty⟩
  · refine ⟨Or.inl rfl, iff_of_false Nat.zero_ne_one ?_⟩
    rintro ⟨reading, member, faulty⟩
    exact none reading member faulty

/-- A definition, a word that stands for nothing and a call are three units, and the second of them
makes the code one. -/
theorem lifting_reads :
    let repl := start (Shell.start .standard nameless)
    (∀ reading ∈ repl.readings 60 (inputLines lifting), Returns 60 reading) ∧
      (repl.readings 60 (inputLines lifting)).map Prod.snd = ["to a\n  pu", "b", "a"] ∧
      (∃ last, repl.feedAll 60 (inputLines lifting) = some (last, .exit 1)) ∧
      ∃ reading ∈ repl.readings 60 (inputLines lifting), Faulty 60 reading := by
  intro repl
  have lines_eq : inputLines lifting = ["to a", "  pu", "", "b", "a"] := by decide +kernel
  have opens : OpensBlock "to a" := ⟨"to", ["a"], by decide +kernel, Or.inl rfl⟩
  have parts : Partitions (inputLines lifting) [["to a", "  pu"], ["b"], ["a"]] [] := by
    rw [lines_eq]
    refine @Partitions.block "to a" "" ["  pu"] ["b", "a"] [] _ opens (by decide +kernel)
      (by decide) (.single (by decide +kernel) ?_ (.single (by decide +kernel) ?_ .done))
    · rw [← opensBlock_iff]
      decide +kernel
    · rw [← opensBlock_iff]
      decide +kernel
  have all : ∀ reading ∈ repl.readings 60 (inputLines lifting),
      (reading.1.runText 60 reading.2 false).map (fun ended =>
        ended.2.exits 0 || ended.2.exits 1) = some true := by
    decide +kernel
  have returns : ∀ reading ∈ repl.readings 60 (inputLines lifting), Returns 60 reading := by
    intro reading member
    obtain ⟨⟨after, ending⟩, ran, exits⟩ := Option.map_eq_some_iff.mp (all reading member)
    rcases Bool.or_eq_true_iff.mp exits with zero | one
    · obtain rfl : ending = .exit 0 := Ending.exits_iff.mp zero
      exact ⟨after, 0, ran⟩
    · obtain rfl : ending = .exit 1 := Ending.exits_iff.mp one
      exact ⟨after, 1, ran⟩
  have ended : (repl.feedAll 60 (inputLines lifting)).map (fun ended => ended.2.exits 1) =
      some true := by
    decide +kernel
  obtain ⟨units, tail, _, unique, _, reads⟩ := reads_units (inputLines lifting)
  obtain ⟨rfl, rfl⟩ := unique _ _ parts
  obtain ⟨texts_eq, last, status, fed, _, faulty⟩ :=
    (reads 60 (Shell.start .standard nameless)).2 returns
  rw [fed] at ended
  obtain rfl := Ending.exit.inj (Ending.exits_iff.mp (Option.some.inj ended))
  exact ⟨returns, texts_eq, ⟨last, fed⟩, faulty.mp rfl⟩

end Repl

end Shell

end Turtle
