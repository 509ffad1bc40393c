import Turtle.Number.Real

/-!
# Command line options

The words of a command line are options, which begin with a hyphen, and at most one other word, the
program.  Options may be shortened as long as it is clear which one is meant.  A value follows its
option, or stands behind an equals sign.  Two hyphens by themselves end the options.  Behind a word
with a single hyphen there may be more options of one letter, of which there is but one.

All words are looked at before any of them is acted upon, so that an unclear option is refused even
behind one that asks for help.
-/

set_option autoImplicit false

namespace Turtle.Shell

inductive Flag where
  | help
  | source
  | animate
  | delay
  | verbose
  | trace
  | tracebackJson
deriving Repr, DecidableEq

def spellings : List (String × Flag) :=
  [("-h", .help), ("--help", .help), ("-source", .source), ("--source", .source),
   ("--animate", .animate), ("--delay", .delay), ("-verbose", .verbose), ("--verbose", .verbose),
   ("--trace", .trace), ("--traceback-json", .tracebackJson)]

structure Options where
  program? : Option String
  /-- The program is given as text, and not by the name of its file. -/
  source : Bool
  animate : Bool
  /-- The length of a pause in milliseconds. -/
  delay : Float
  /-- The last length that was given is none: two hyphens, which are taken away from any value. -/
  delayLost : Bool
  verbose : Bool
  trace : Bool
  /-- Show tracebacks as documents, too. -/
  tracebackJson : Bool

def Options.standard : Options :=
  { program? := none, source := false, animate := false, delay := 40.0, delayLost := false,
    verbose := false, trace := false, tracebackJson := false }

/-- Why a command line does not lead to a run. -/
inductive Refusal where
  | help
  | usage
deriving Repr, DecidableEq

/-- The role of a word of a command line. -/
inductive Word where
  | plain
  /-- Two hyphens by themselves. -/
  | separator
  | unknown
  | flag (flag : Flag)
  /-- An option of two hyphens with a value behind an equals sign. -/
  | assigned (flag : Flag) (value : String)
  /-- An option of one hyphen that takes no value, with more letters behind it. -/
  | cluster (letters : List Char)

/-- A word up to the first equals sign, and what is behind it. -/
def splitAssignment (word : List Char) : List Char × Option (List Char) :=
  match word.span (· ≠ '=') with
  | (name, []) => (name, none)
  | (name, _ :: value) => (name, some value)

/-- A text holds digits of any script and nothing else. -/
def allDigits (text : List Char) : Bool :=
  text.all fun c => (Text.digitValue? c).isSome

def withoutLineFeed (text : List Char) : List Char :=
  match text.reverse with
  | '\n' :: rest => rest.reverse
  | _ => text

/-- A word behind a hyphen writes a negative number without an exponent. -/
def writesNumber (behindHyphen : List Char) : Bool :=
  let text := withoutLineFeed behindHyphen
  match text.span (· ≠ '.') with
  | (whole, []) => !whole.isEmpty && allDigits whole
  | (whole, _ :: fraction) => allDigits whole && !fraction.isEmpty && allDigits fraction

def flag? (spelling : List Char) : Option Flag :=
  spellings.lookup (String.ofList spelling)

/-- The options that a shortened spelling could stand for, one for each spelling that begins with
it. -/
def completions (short : List Char) : List Flag :=
  (spellings.filter fun spelling => short.isPrefixOf spelling.1.toList).map Prod.snd

/-- The role of a word that begins with a hyphen and stands for no option: negative numbers and
texts with a space are not taken for misspelt options. -/
def otherwise (behindHyphen : List Char) : Word :=
  if writesNumber behindHyphen then .plain
  else if behindHyphen.contains ' ' then .plain
  else .unknown

/-- The option that a word with two hyphens is short for. -/
def shortened (word : List Char) : Except Refusal Word :=
  let (name, value?) := splitAssignment word
  match completions name with
  | [] => .ok (otherwise (word.drop 1))
  | [flag] =>
    match value? with
    | none => .ok (.flag flag)
    | some value => .ok (.assigned flag (String.ofList value))
  | _ => .error .usage

/-- The role of a word before the separator. -/
def classify (word : String) : Except Refusal Word :=
  match word.toList with
  | ['-', '-'] => .ok .separator
  | '-' :: rest =>
    match flag? ('-' :: rest), splitAssignment ('-' :: rest) with
    | some flag, _ => .ok (.flag flag)
    | none, (name, value?) =>
      match rest, value?, flag? name with
      | [], _, _ => .ok .plain
      | '-' :: _, some value, some flag => .ok (.assigned flag (String.ofList value))
      | _, some letters, some _ => .ok (.cluster letters)
      | '-' :: _, _, _ => shortened ('-' :: rest)
      | 'h' :: letters, _, _ => .ok (.cluster letters)
      | _, _, _ =>
        match completions ('-' :: rest) with
        | [] => .ok (otherwise rest)
        | [flag] => .ok (.flag flag)
        | _ => .error .usage
  | _ => .ok .plain

def classifyAll : List String → Except Refusal (List (String × Word))
  | [] => .ok []
  | word :: rest => do
    match ← classify word with
    | .separator => return (word, .separator) :: rest.map fun other => (other, .plain)
    | role => return (word, role) :: (← classifyAll rest)

/-- What letters behind an option of one hyphen lead to.  Each has to be the letter of an option,
and help is the only option that has a letter. -/
def clusterRefusal (letters : List Char) : Refusal :=
  if !letters.isEmpty && letters.all (· = 'h') then .help else .usage

def Options.set (options : Options) : Flag → Except Refusal Options
  | .help => .error .help
  | .source => .ok { options with source := true }
  | .animate => .ok { options with animate := true }
  | .verbose => .ok { options with verbose := true }
  | .trace => .ok { options with trace := true }
  | .tracebackJson => .ok { options with tracebackJson := true }
  | .delay => .error .usage

def Options.assign (options : Options) (flag : Flag) (value : String) : Except Refusal Options :=
  match flag with
  | .delay =>
    if value = "--" then .ok { options with delayLost := true }
    else
      match Number.readReal value with
      | none => .error .usage
      | some delay => .ok { options with delay := delay, delayLost := false }
  | _ => .error .usage

def Word.isOption : Word → Bool
  | .plain | .separator => false
  | _ => true

/-- The separator is left out where it stands first. -/
def dropSeparator : List (String × Word) → List (String × Word)
  | (_, .separator) :: rest => rest
  | words => words

/-- Reads the words behind the last option, with a program among them unless there is one already.
Nothing may be left over. -/
def readRest (options : Options) (surplus : Bool) (words : List (String × Word)) :
    Except Refusal Options :=
  let finish (read : Options) (left : List (String × Word)) : Except Refusal Options :=
    if surplus || !left.isEmpty then .error .usage else .ok read
  match options.program? with
  | some _ => finish options words
  | none =>
    match dropSeparator words with
    | (program, .plain) :: left =>
      finish { options with program? := some program } (dropSeparator left)
    | left => finish options left

/-- Reads words one after another.  Words that are too many are refused only at the end. -/
def readWords (options : Options) (surplus : Bool) :
    List (String × Word) → Except Refusal Options
  | [] => readRest options surplus []
  | (_, .flag .delay) :: (value, .plain) :: rest => do
    readWords (← options.assign .delay value) surplus rest
  | (word, role) :: rest =>
    match role with
    | .flag flag => do readWords (← options.set flag) surplus rest
    | .assigned flag value => do readWords (← options.assign flag value) surplus rest
    | .cluster letters => .error (clusterRefusal letters)
    | .unknown => readWords options true rest
    | .separator => readRest options surplus ((word, .separator) :: rest)
    | .plain =>
      if rest.any fun other => other.2.isOption then
        match options.program? with
        | none => readWords { options with program? := some word } surplus rest
        | some _ => readWords options true rest
      else readRest options surplus ((word, .plain) :: rest)

/-- What the words of a command line ask for. -/
def Options.read (words : List String) : Except Refusal Options := do
  readWords .standard false (← classifyAll words)

end Turtle.Shell
