/-!
# Character classes as ranges

A class of characters that a standard lists is kept as its ranges of code points, in increasing
order.
-/

namespace ImportLint

/-- Ranges of code points, each given by its first and its last one. -/
abbrev Ranges := List (Nat × Nat)

def Ranges.holds (ranges : Ranges) (c : Char) : Bool :=
  ranges.any fun (first, last) => first ≤ c.toNat && c.toNat ≤ last

end ImportLint
