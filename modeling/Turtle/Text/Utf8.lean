/-!
# UTF-8

Strict decoding: no overlong forms, no surrogates, nothing above the last code point.  Where bytes
are not a text, the fault tells at which of them decoding stopped, how many belong to the broken
character, and why.
-/

set_option autoImplicit false

namespace Turtle.Text

inductive Utf8Defect where
  | badStart
  | badContinuation
  | unfinished
deriving Repr, DecidableEq

/-- The place where bytes stop being a text: the first byte of the broken character and the number
of its bytes. -/
structure Utf8Fault where
  byte : UInt8
  position : Nat
  width : Nat
  defect : Utf8Defect
deriving Repr, DecidableEq

/-- How a character begins: the bits of its first byte, the number of bytes that follow, and the
range that the next of them has to be in. -/
structure Utf8Lead where
  bits : Nat
  following : Nat
  low : Nat
  high : Nat
deriving Repr, DecidableEq

/-- The reading of a first byte.  The narrower ranges of the second byte leave out overlong forms,
surrogates and code points that do not exist. -/
def Utf8Lead.ofByte? (byte : UInt8) : Option Utf8Lead :=
  let b := byte.toNat
  if b < 0x80 then some ⟨b, 0, 0x80, 0xBF⟩
  else if b < 0xC2 then none
  else if b < 0xE0 then some ⟨b - 0xC0, 1, 0x80, 0xBF⟩
  else if b = 0xE0 then some ⟨0, 2, 0xA0, 0xBF⟩
  else if b = 0xED then some ⟨0xD, 2, 0x80, 0x9F⟩
  else if b < 0xF0 then some ⟨b - 0xE0, 2, 0x80, 0xBF⟩
  else if b = 0xF0 then some ⟨0, 3, 0x90, 0xBF⟩
  else if b < 0xF4 then some ⟨b - 0xF0, 3, 0x80, 0xBF⟩
  else if b = 0xF4 then some ⟨4, 3, 0x80, 0x8F⟩
  else none

/-- A character that has begun: where, with which byte, its bits so far, its bytes so far, how many
are to come, and the range of the next one. -/
structure Utf8Open where
  byte : UInt8
  position : Nat
  bits : Nat
  width : Nat
  following : Nat
  low : Nat
  high : Nat
deriving Repr, DecidableEq

/-- Decodes bytes from a position on, after a character that has begun and the characters before
it, last character first. -/
def decodeUtf8From (begun : Option Utf8Open) (position : Nat) (chars : List Char) :
    List UInt8 → Except Utf8Fault (List Char)
  | [] =>
    match begun with
    | none => .ok chars.reverse
    | some c => .error ⟨c.byte, c.position, c.width, .unfinished⟩
  | byte :: rest =>
    match begun with
    | none =>
      match Utf8Lead.ofByte? byte with
      | none => .error ⟨byte, position, 1, .badStart⟩
      | some ⟨bits, 0, _, _⟩ => decodeUtf8From none (position + 1) (Char.ofNat bits :: chars) rest
      | some ⟨bits, following, low, high⟩ =>
        decodeUtf8From (some ⟨byte, position, bits, 1, following, low, high⟩) (position + 1)
          chars rest
    | some c =>
      if c.low ≤ byte.toNat && byte.toNat ≤ c.high then
        let bits := c.bits * 64 + (byte.toNat - 0x80)
        if c.following ≤ 1 then
          decodeUtf8From none (position + 1) (Char.ofNat bits :: chars) rest
        else
          decodeUtf8From
            (some ⟨c.byte, c.position, bits, c.width + 1, c.following - 1, 0x80, 0xBF⟩)
            (position + 1) chars rest
      else .error ⟨c.byte, c.position, c.width, .badContinuation⟩

def decodeUtf8 (bytes : List UInt8) : Except Utf8Fault (List Char) :=
  decodeUtf8From none 0 [] bytes

def Utf8Defect.message : Utf8Defect → String
  | .badStart => "invalid start byte"
  | .badContinuation => "invalid continuation byte"
  | .unfinished => "unexpected end of data"

end Turtle.Text
