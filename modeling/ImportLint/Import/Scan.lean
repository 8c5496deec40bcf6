import ImportLint.Text.Basic

/-!
# Import lines

An import of a PHP file stands on a line of its own: `use `, a clause, and a semicolon that ends the
line. The scanner reads a text once from left to right and tries each line start; a clause ends at
the first semicolon with nothing after it on its line, so it may hold other semicolons and never a
line feed.

What the rest of the file says is then read from the text without its import lines. Each import
removes the first occurrence of itself, wherever that stands.
-/

namespace ImportLint

namespace Import

def keyword : Text := "use ".toList

/-! ## Scanning -/

def atLineEnd : Text → Bool
  | [] => true
  | c :: _ => c == '\n'

/-- The clause at the front of a text: all up to the first semicolon that ends the line. -/
def clauseBody? : Text → Option Text
  | [] => none
  | c :: t =>
    if c = '\n' then none
    else if c = ';' && atLineEnd t then some []
    else (clauseBody? t).map (c :: ·)

def clauseAt? (t : Text) : Option Text := (Text.after? keyword t).bind clauseBody?

/-- The clauses of all imports, where `lineStart` says whether the text begins at a line start. -/
def clausesFrom (lineStart : Bool) : Text → List Text
  | [] => []
  | c :: t =>
    let later := clausesFrom (c == '\n') t
    if lineStart then (clauseAt? (c :: t)).toList ++ later else later

def clauses (t : Text) : List Text := clausesFrom true t

/-! ## Statements and what remains -/

def statement (clause : Text) : Text := keyword ++ clause ++ [';']

def statements (t : Text) : List Text := (clauses t).map statement

/-- The file without its imports: each import line in turn takes its first occurrence away. -/
def remaining (t : Text) : Text :=
  (statements t).foldl (fun rest line => Text.eraseFirst line rest) t

end Import

end ImportLint
