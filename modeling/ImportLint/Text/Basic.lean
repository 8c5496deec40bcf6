/-!
# Texts

A text is its list of code points. Lengths, cuts and the order of texts therefore count and compare
code points, and every scanner of the library is a structural recursion over the list.

This module holds what all scanners share: reading a fixed lead, cutting a text around the first
occurrence of a key, and writing integers.
-/

namespace ImportLint

abbrev Text := List Char

namespace Text

/-! ## Leads and occurrences -/

def after? : (lead : Text) → Text → Option Text
  | [], t => some t
  | _ :: _, [] => none
  | p :: lead, c :: t => if p = c then after? lead t else none

/-- A lead is read off exactly the texts that start with it. -/
theorem after?_eq_some_iff {lead t rest : Text} : after? lead t = some rest ↔ t = lead ++ rest := by
  induction lead generalizing t with
  | nil => simp [after?]
  | cons p lead ih =>
    cases t with
    | nil => simp [after?]
    | cons c t =>
      by_cases h : p = c
      · simp [after?, h, ih]
      · simp [after?, h, Ne.symm h]

def occurs (key : Text) : Text → Bool
  | [] => key.isEmpty
  | c :: t => key.isPrefixOf (c :: t) || occurs key t

/-- Occurring is being an infix. -/
theorem occurs_iff {key t : Text} : occurs key t = true ↔ key <:+: t := by
  induction t with
  | nil => simp [occurs]
  | cons c t ih => simp [occurs, ih, List.infix_cons_iff]

/-- Cuts a text around the first occurrence of `key`: what stands before it and what follows. -/
def cut? (key : Text) : Text → Option (Text × Text)
  | [] => (after? key []).map fun rest => ([], rest)
  | c :: t =>
    match after? key (c :: t) with
    | some rest => some ([], rest)
    | none => (cut? key t).map fun (before, rest) => (c :: before, rest)

/-- The two sides of a cut, with the key between them, are the text. -/
theorem eq_of_cut?_eq_some {key t before rest : Text} (h : cut? key t = some (before, rest)) :
    t = before ++ key ++ rest := by
  induction t generalizing before rest with
  | nil =>
    obtain ⟨r, hr, hp⟩ := Option.map_eq_some_iff.1 h
    obtain ⟨rfl, rfl⟩ := Prod.mk.inj hp
    exact after?_eq_some_iff.1 hr
  | cons c t ih =>
    rw [cut?] at h
    split at h
    · next r hr =>
      obtain ⟨rfl, rfl⟩ := Prod.mk.inj (Option.some.inj h)
      exact after?_eq_some_iff.1 hr
    · obtain ⟨⟨b, r⟩, hb, hp⟩ := Option.map_eq_some_iff.1 h
      obtain ⟨rfl, rfl⟩ := Prod.mk.inj hp
      simp [ih hb]

/-- The text without the first occurrence of `key`, whose two sides close up. -/
def eraseFirst (key t : Text) : Text :=
  match cut? key t with
  | some (before, rest) => before ++ rest
  | none => t

/-- What follows the last `mark`; the whole text if there is none. -/
def afterLast (mark : Char) (t : Text) : Text :=
  (t.reverse.takeWhile (· ≠ mark)).reverse

/-! ## Order -/

/-- The order of texts by code points: the first difference decides, and a text comes after what
it begins with. -/
def le : Text → Text → Bool
  | [], _ => true
  | _ :: _, [] => false
  | a :: s, b :: t => if a = b then le s t else a.toNat.blt b.toNat

/-! ## Numbers -/

def ofNat (n : Nat) : Text := Nat.toDigits 10 n

def ofInt : Int → Text
  | .ofNat n => ofNat n
  | .negSucc n => '-' :: ofNat (n + 1)

/-- The last `width` hexadecimal digits of a number, in lower case and padded with zeros. -/
def hex : (width : Nat) → Nat → Text
  | 0, _ => []
  | width + 1, n => hex width (n / 16) ++ [Nat.digitChar (n % 16)]

/-- A hexadecimal text of a given width has that width. -/
theorem length_hex (width n : Nat) : (hex width n).length = width := by
  induction width generalizing n with
  | zero => rfl
  | succ width ih => simp [hex, ih]

/-- A hexadecimal text consists of the sixteen digits. -/
theorem exists_of_mem_hex {c : Char} {width n : Nat} (h : c ∈ hex width n) :
    ∃ k < 16, c = Nat.digitChar k := by
  induction width generalizing n with
  | zero => cases h
  | succ width ih =>
    rcases List.mem_append.1 h with hfront | hlast
    · exact ih hfront
    · exact ⟨n % 16, Nat.mod_lt n (by decide), List.mem_singleton.1 hlast⟩

end Text

end ImportLint
