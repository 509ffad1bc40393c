import Turtle.Fault

/-!
# Files by name

A directory of files, as far as a program is read from it: a name is followed part by part, and it
leads to the bytes of a file or to a reason why not.
-/

set_option autoImplicit false

namespace Turtle.Shell

inductive OpenFault where
  /-- The system refuses, with a number and a reason. -/
  | refused (code : Nat) (reason : String)
  | nullInName
deriving Repr, DecidableEq

namespace OpenFault

def missing : OpenFault := .refused 2 "No such file or directory"

def notDirectory : OpenFault := .refused 20 "Not a directory"

def isDirectory : OpenFault := .refused 21 "Is a directory"

/-- A part of the name, or all of it, is too long. -/
def nameTooLong : OpenFault := .refused 36 "File name too long"

def code? : OpenFault → Option Nat
  | refused code _ => some code
  | nullInName => none

end OpenFault

def refusalMessage (code : Nat) (reason name : String) : String :=
  "[Errno " ++ toString code ++ "] " ++ reason ++ ": " ++ Text.quoted name

/-- The files of a directory, with the parts of their names. -/
structure Directory where
  files : List (List String × List UInt8)

namespace Directory

def parts (name : String) : List String :=
  (name.splitOn "/")

def ofFiles (files : List (String × List UInt8)) : Directory :=
  ⟨files.map fun file => (parts file.1, file.2)⟩

def holdsBelow (directory : Directory) (path : List String) : Bool :=
  path.isEmpty || directory.files.any fun file =>
    path.isPrefixOf file.1 && path.length < file.1.length

/-- What follows a file in a name is wrong, even if it is empty. -/
def followFile (bytes : List UInt8) : List String → Except OpenFault (List UInt8)
  | [] => .ok bytes
  | _ => .error .notDirectory

/-- Follows the parts of a name from a path inside the directory; there is no path outside of it.
Nothing is known of what lies outside, except the directories on the way there. -/
def follow (directory : Directory) (path? : Option (List String)) :
    List String → Except OpenFault (List UInt8)
  | [] => .error .isDirectory
  | part :: rest =>
    if part = "" || part = "." then directory.follow path? rest
    else if part = ".." then
      match path? with
      | none => directory.follow none rest
      | some path =>
        directory.follow (if path.isEmpty then none else some path.dropLast) rest
    else if 255 < part.utf8ByteSize then .error .nameTooLong
    else
      match path? with
      | none => .error .missing
      | some path =>
        match directory.files.lookup (path ++ [part]) with
        | some bytes => followFile bytes rest
        | none =>
          if directory.holdsBelow (path ++ [part]) then
            directory.follow (some (path ++ [part])) rest
          else .error .missing

def read (directory : Directory) (name : String) : Except OpenFault (List UInt8) :=
  if name.toList.contains (Char.ofNat 0) then .error .nullInName
  else if name = "" then .error .missing
  else if 4095 < name.utf8ByteSize then .error .nameTooLong
  else
    directory.follow (if name.startsWith "/" then none else some []) (parts name)

end Directory

end Turtle.Shell
