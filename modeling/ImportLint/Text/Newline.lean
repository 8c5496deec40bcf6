import ImportLint.Text.Basic

/-!
# Line ends

Source files may end their lines with a line feed, a carriage return, or one after the other. A file
that is read as text has line feeds only.
-/

namespace ImportLint

namespace Text

/-- The text with every line end written as one line feed. -/
def unifyNewlines : Text → Text
  | [] => []
  | '\r' :: '\n' :: t => '\n' :: unifyNewlines t
  | c :: t => (if c = '\r' then '\n' else c) :: unifyNewlines t

end Text

end ImportLint
