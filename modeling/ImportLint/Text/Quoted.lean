import ImportLint.Text.Basic
import ImportLint.Text.Printable

/-!
# Quoted texts

How a path or an argument is shown inside a message: between quotes, with whatever is not printable
written as an escape, so that the message stays on one line and its end can be told.
-/

namespace ImportLint

namespace Text

/-- The quote around a text: the apostrophe, unless the text holds one and no double quote. -/
def quoteFor (t : Text) : Char :=
  if t.contains '\'' && !t.contains '"' then '"' else '\''

/-- One character of a quoted text: a backslash before the quote and the backslash, a letter for the
three common control characters, and a hexadecimal code for all else that is not printable. -/
def escaped (quote c : Char) : Text :=
  if c = quote ∨ c = '\\' then ['\\', c]
  else if c = '\n' then ['\\', 'n']
  else if c = '\r' then ['\\', 'r']
  else if c = '\t' then ['\\', 't']
  else if isPrintable c then [c]
  else if c.toNat < 0x100 then '\\' :: 'x' :: hex 2 c.toNat
  else if c.toNat < 0x10000 then '\\' :: 'u' :: hex 4 c.toNat
  else '\\' :: 'U' :: hex 8 c.toNat

def quoted (t : Text) : Text :=
  let quote := quoteFor t
  quote :: t.flatMap (escaped quote) ++ [quote]

end Text

end ImportLint
