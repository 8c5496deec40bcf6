import ImportLint.Tally
import ImportLint.Text.Fields

/-!
# What a clause imports

A clause names one symbol, or it opens a brace and lists several. Only single imports have a
namespace prefix: their first two segments. Repeating such a prefix is what a group would spare, so
groups count for none.
-/

namespace ImportLint

namespace Import

def isGroup (clause : Text) : Bool := clause.contains '{'

/-- A brace at the very end taken off, with the blanks before it. -/
def dropClosing (t : Text) : Text :=
  match t.getLast? with
  | some '}' => Text.trimRight t.dropLast
  | _ => t

/-- The imports that a group lists after its first opening brace. -/
def groupMembers (clause : Text) : List Text :=
  Text.items (dropClosing (Text.trim ((clause.dropWhile (· ≠ '{')).drop 1)))

def members (clause : Text) : List Text :=
  if isGroup clause then groupMembers clause else [clause]

/-- The first two segments of a single import that has two. -/
def prefixOf? (clause : Text) : Option Text :=
  if isGroup clause then none
  else
    match clause.splitOn '\\' with
    | first :: second :: _ => some (first ++ '\\' :: second)
    | _ => none

def names (clauses : List Text) : List Text := clauses.flatMap members

def prefixCounts (clauses : List Text) : Tally := Tally.ofKeys (clauses.filterMap prefixOf?)

end Import

end ImportLint
