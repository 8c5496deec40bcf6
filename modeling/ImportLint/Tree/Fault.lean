import ImportLint.Text.Quoted

/-!
# Why a path cannot be used

The ways in which a path leads nowhere, with the numbers and words that are customary for them.
-/

namespace ImportLint

inductive Fault where
  | notFound
  | notDirectory
  | isDirectory
  /-- A name, or the whole path, is longer than any can be. -/
  | nameTooLong
  | linkLoop
  deriving DecidableEq, Repr

namespace Fault

def number : Fault → Nat
  | notFound => 2
  | notDirectory => 20
  | isDirectory => 21
  | nameTooLong => 36
  | linkLoop => 40

def description : Fault → Text
  | notFound => "No such file or directory".toList
  | notDirectory => "Not a directory".toList
  | isDirectory => "Is a directory".toList
  | nameTooLong => "File name too long".toList
  | linkLoop => "Too many levels of symbolic links".toList

end Fault

inductive AccessError where
  | fault (cause : Fault) (path : Text)
  /-- The path holds the null character, so that the system was not even asked. -/
  | nullCharacter
  deriving DecidableEq, Repr

def AccessError.message : AccessError → Text
  | fault cause path =>
    "[Errno ".toList ++ Text.ofNat cause.number ++ "] ".toList ++ cause.description ++
      ": ".toList ++ Text.quoted path
  | nullCharacter => "embedded null byte".toList

end ImportLint
