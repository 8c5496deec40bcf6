import ImportLint.Text.Blank

/-!
# Short names

The name by which a file refers to an import: its alias if it has one, else its last segment. Braces
left over from a group's end are taken away together with the blanks before them.
-/

namespace ImportLint

namespace Import

/-- What follows the last ` as ` of a text that is read from left to right without overlaps, where
`name` is what followed the one before. -/
def aliasFrom (name : Text) : Text → Text
  | [] => name
  | ' ' :: 'a' :: 's' :: ' ' :: t => aliasFrom t t
  | _ :: t => aliasFrom name t

/-- What follows the last ` as `; the whole text if there is none. -/
def aliasPart (t : Text) : Text := aliasFrom t t

def atBrace (t : Text) : Bool := (Text.trimLeft t).head? == some '}'

/-- The text without its closing braces and without the blanks right before each of them. -/
def dropBraces : Text → Text
  | [] => []
  | c :: t =>
    if c = '}' || (isBlank c && atBrace t) then dropBraces t else c :: dropBraces t

def shortName (raw : Text) : Text :=
  Text.trim (dropBraces (Text.trim (Text.afterLast '\\' (aliasPart raw))))

/-- The short names of imports, each once and in the order of first appearance. -/
def shortNames (raws : List Text) : List Text :=
  -- What stands after a group's last comma has no name.
  ((raws.map shortName).filter fun name => !name.isEmpty).eraseDups

end Import

end ImportLint
