import ImportLint.Text.Fields
import ImportLint.Text.Utf8

/-!
# Paths

A path is a list of parts that leads down from the top of a file tree. This module holds what can be
done with paths without looking at a tree: writing them, going on below them, joining their texts,
and taking `..` to remove the name before it.

A text may begin with two slashes. Such a path leads where it would lead with one, but it keeps both
whenever it is written; from three on, slashes count as one.
-/

namespace ImportLint

/-- The parts of a path from the top of a tree. -/
structure Path where
  parts : List Text
  /-- Whether the path is written with two slashes in front. -/
  doubled : Bool := false
  deriving DecidableEq, Repr

namespace Path

/-! ## Parts and texts -/

def split (text : Text) : List Text := text.splitOn '/'

def unsplit (parts : List Text) : Text := Text.join ['/'] parts

/-- Whether a part leads nowhere: an empty one, as between two slashes in a row, or `.`. -/
def isIdle (part : Text) : Bool := part.isEmpty || part == ".".toList

def isUp (part : Text) : Bool := part == "..".toList

def text (path : Path) : Text := (if path.doubled then "//" else "/").toList ++ unsplit path.parts

def below (path : Path) (names : List Text) : Path :=
  { path with parts := path.parts ++ names }

/-! ## Limits -/

/-- How many bytes a name may have. -/
def nameLimit : Nat := 255

/-- How many bytes a written path may have. -/
def textLimit : Nat := 4095

def isLongName (name : Text) : Bool := nameLimit < (Utf8.encode name).length

def isLong (path : Path) : Bool := textLimit < (Utf8.encode path.text).length

/-- Whether a path holds the null character, which no name does. -/
def holdsNull (path : Path) : Bool := path.parts.any (·.contains '\x00')

/-! ## Joining and flattening -/

/-- The text of a path that goes on with another text, which starts over if it begins with a
slash. -/
def join (text rest : Text) : Text :=
  if rest.head? == some '/' then rest
  else if text.getLast? == some '/' then text ++ rest
  else text ++ '/' :: rest

/-- The names that parts lead to when each `..` takes the name before it away. -/
def flatten (parts : List Text) : List Text :=
  parts.foldl (fun names part =>
    if isIdle part then names
    else if isUp part then names.dropLast
    else names ++ [part]) []

def ofText (text : Text) : Path where
  parts := flatten (split text)
  doubled := (text.takeWhile (· == '/')).length == 2

end Path

end ImportLint
