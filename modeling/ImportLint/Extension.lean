import ImportLint.Text.Case

/-!
# File extensions

Extensions are compared in lower case and with their dot.
-/

namespace ImportLint

namespace Extension

/-- An extension in lower case, with a dot put in front if it has none. -/
def normalize (extension : Text) : Text :=
  match Text.lower extension with
  | '.' :: rest => '.' :: rest
  | lowered => '.' :: lowered

/-- The extension of a file name, from its last dot on. A dot that is the first or the last
character of the name starts none. -/
def ofName (name : Text) : Text :=
  let tail := Text.afterLast '.' name
  if tail.isEmpty || name.length ≤ tail.length + 1 then [] else '.' :: tail

def standard : List Text := [".php".toList]

end Extension

end ImportLint
