import ImportLint.Text.Blank

/-!
# Lines and comma lists

A text is cut into lines at line feeds only: a carriage return or a Unicode line separator is an
ordinary character of its line. A comma list is cut at its commas, and the blanks after a comma
belong to the separator, so they lead no item.
-/

namespace ImportLint

namespace Text

/-- The lines of a text, cut at line feeds. There is always at least one. -/
def lines (t : Text) : List Text := t.splitOn '\n'

/-- The items of a comma list. Blanks after a comma go with the comma; all others stay. -/
def items (t : Text) : List Text :=
  match t.splitOn ',' with
  | [] => []
  | first :: rest => first :: rest.map trimLeft

def join (separator : Text) (parts : List Text) : Text := separator.intercalate parts

end Text

end ImportLint
