import ImportLint.Text.Basic

/-!
# Blanks

The characters that count as white space, and trimming them off the ends of a text. The set holds
the separators of Unicode and the control characters that act as such; the zero-width characters
are not in it.
-/

namespace ImportLint

/-- White space: tabs, line and page ends, the information separators, and every space of Unicode
that has a width. -/
def isBlank (c : Char) : Bool :=
  let n := c.toNat
  (0x09 ≤ n && n ≤ 0x0D) || (0x1C ≤ n && n ≤ 0x20) || n == 0x85 || n == 0xA0 || n == 0x1680 ||
    (0x2000 ≤ n && n ≤ 0x200A) || n == 0x2028 || n == 0x2029 || n == 0x202F || n == 0x205F ||
    n == 0x3000

namespace Text

def trimLeft (t : Text) : Text := t.dropWhile isBlank

def trimRight (t : Text) : Text := (t.reverse.dropWhile isBlank).reverse

def trim (t : Text) : Text := trimRight (trimLeft t)

end Text

end ImportLint
