import Turtle.Text.LowercaseTable

/-!
# Lower case

Letters of every script are lowered by their own table entry, with two exceptions: the dotted
capital I becomes an i with a combining dot, and a capital sigma takes its final form where a word
ends.  A sigma is final when, combining marks and the like apart, a cased letter stands before it
and none after it.
-/

set_option autoImplicit false

namespace Turtle.Text

/-- A run of letters holds a code point that it reaches by whole steps. -/
def LetterRun.holds (run : LetterRun) (n : Nat) : Bool :=
  run.first ≤ n && n ≤ run.last && (n - run.first) % run.step == 0

/-- The lower-case form of a letter that has one of a single character, and the character itself
otherwise. -/
def lowerLetter (c : Char) : Char :=
  if c.toNat < 0x80 then c.toLower
  else
    match upperRuns.find? fun run => run.holds c.toNat with
    | some run => Char.ofNat (run.image + (c.toNat - run.first))
    | none => c

/-- A mark that the rule of the final sigma looks through. -/
def isCaseIgnorable (c : Char) : Bool :=
  caseIgnorableRanges.holds c

/-- A letter with a case that the rule of the final sigma looks for. -/
def isCased (c : Char) : Bool :=
  casedRanges.holds c

/-- A word goes on when the next character that counts is a cased letter. -/
def continuesWord : List Char → Bool
  | [] => false
  | c :: rest => if isCaseIgnorable c then continuesWord rest else isCased c

/-- The lower-case form of a text.  The flag tells whether the last character before it that
counts is a cased letter. -/
def lowerFrom (afterCased : Bool) : List Char → List Char
  | [] => []
  | c :: rest =>
    let afterThis := if isCaseIgnorable c then afterCased else isCased c
    if c = 'Σ' then
      (if afterCased && !continuesWord rest then 'ς' else 'σ') :: lowerFrom afterThis rest
    else if c = 'İ' then 'i' :: '\u0307' :: lowerFrom afterThis rest
    else lowerLetter c :: lowerFrom afterThis rest

def lower (text : String) : String :=
  String.ofList (lowerFrom false text.toList)

example : lower "FD Élan İ K" = "fd élan i\u0307 k" := by decide +kernel

example : lower "ΟΔΟΣ ΣΟΣ." = "οδος σος." := by decide +kernel

end Turtle.Text
