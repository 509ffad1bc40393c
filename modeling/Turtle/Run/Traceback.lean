import Turtle.Run.Scheduler
import Turtle.Text.Json

/-!
# Tracebacks

A reported fault is shown with its place, the step that reported it, and its cause.  The state and
the stack at that step are shown as long as the journal holds its entry; afterwards the number of
the step is left.
-/

set_option autoImplicit false

namespace Turtle.Scheduler

/-- The entry of the step that reported a fault, if it is still held. -/
def entryOf (s : Scheduler) (fault : Fault) : Option (Entry StepEvent) :=
  fault.step?.bind s.journal.find?

def placeLines : Option Location → List String
  | none => ["  <unknown location>"]
  | some location =>
    ("  File \"" ++ location.file ++ "\", line " ++ toString location.line) ::
      (if location.statement = "" then [] else ["    " ++ location.statement])

/-- The lines that show the step of a fault, with its stack if asked for. -/
def stepLines (s : Scheduler) (fault : Fault) (verbose : Bool) : List String :=
  match s.entryOf fault with
  | some entry =>
    ("    Step index: " ++ toString entry.index ++ "  State id: " ++ entry.stateId) ::
      match verbose, entry.stack? with
      | true, some stack => ["    Stack: " ++ String.intercalate " | " stack]
      | _, _ => []
  | none =>
    match fault.step? with
    | some step => ["    Step index: " ++ toString step]
    | none => []

def causeLine (fault : Fault) : String :=
  let rule := fault.cause.rule?.getD ""
  fault.cause.kind.name ++ ": " ++ fault.message ++ " (rule: " ++
    (if rule = "" then "runtime" else rule) ++ ")"

def traceback (s : Scheduler) (fault : Fault) (verbose : Bool) : String :=
  String.intercalate "\n"
    (placeLines fault.at? ++ s.stepLines fault verbose ++ [causeLine fault])

def placeMembers : Option Location → List (String × Text.Json)
  | none => []
  | some location =>
    [("source_location",
      .object
        [("file", .text location.file), ("line", .number location.line),
          ("statement", .text location.statement)])]

def stepMembers : Option (Entry StepEvent) → List (String × Text.Json)
  | none => []
  | some entry =>
    [("state_id", .text entry.stateId), ("step_index", .number entry.index)] ++
      match entry.stack? with
      | none => []
      | some stack => [("stack_snapshot", .list (stack.map .text))]

def tracebackDocument (s : Scheduler) (fault : Fault) : Text.Json :=
  .object
    [("error",
      .object
        [("type", .text fault.cause.kind.name), ("message", .text fault.message),
          ("rule", fault.cause.rule?.elim .null .text),
          ("failing_step_index", fault.step?.elim .null fun step => .number step)]),
      ("frame", .object (placeMembers fault.at? ++ stepMembers (s.entryOf fault)))]

end Turtle.Scheduler
