import ImportLint.Proofs.Text.Lines
import ImportLint.Toml.Lexeme
import Mathlib.Algebra.Ring.Nat

/-!
# Writing and reading strings

A string is written between quotes, with quotes, backslashes and control characters by their codes and
all else as it is. It is read back in front of whatever follows it (`basic?_writeChars`).
-/

namespace ImportLint

namespace Toml

open Text

variable {c d : Char} {digits s t : Text} {k : Nat} {upper : Bool}

/-! ## Hexadecimal digits -/

/-- One more digit makes the value sixteen times as large and adds its own. -/
theorem hexValue?_concat (h : hexValue? [d] = some k) :
    hexValue? (digits ++ [d]) = (hexValue? digits).map fun n => 16 * n + k := by
  rw [hexValue?, List.foldl_append, ← hexValue?, List.foldl_cons, List.foldl_nil]
  rw [hexValue?, List.foldl_cons, List.foldl_nil, Option.bind_some] at h
  cases hexValue? digits with
  | none => rfl
  | some n =>
      rw [Option.bind_some, Option.map_some]
      split_ifs at h ⊢ with hdigit hlower hupper
      · simp only [Option.some.injEq] at h ⊢
        omega
      · simp only [Option.some.injEq] at h ⊢
        omega
      · simp only [Option.some.injEq] at h ⊢
        omega

/-- Hexadecimal digits in any form in which each of them has its value have the value of the number. -/
theorem hexValue?_map_hex {form : Char → Char}
    (hform : ∀ k < 16, hexValue? [form (Nat.digitChar k)] = some k) (width n : Nat) :
    hexValue? ((hex width n).map form) = some (n % 16 ^ width) := by
  induction width generalizing n with
  | zero => simp [hex, hexValue?, Nat.mod_one]
  | succ width ih =>
      have hsplit : n % 16 ^ (width + 1) = 16 * (n / 16 % 16 ^ width) + n % 16 := by
        rw [Nat.pow_succ', Nat.mod_mul, Nat.add_comm]
      rw [hex, List.map_append, List.map_singleton,
        hexValue?_concat (hform (n % 16) (Nat.mod_lt n (by decide))), ih, Option.map_some, hsplit]

theorem hexValue?_hex (width n : Nat) : hexValue? (hex width n) = some (n % 16 ^ width) := by
  have hform : ∀ k < 16, hexValue? [id (Nat.digitChar k)] = some k := by decide
  simpa using hexValue?_map_hex hform width n

/-! ## Writing -/

def isCoded (c : Char) : Bool := c == '"' || c == '\\' || c.toNat ≤ 0x1F || c.toNat == 0x7F

/-- The four digits of a code, in upper or lower case. -/
def codeDigits (upper : Bool) (c : Char) : Text :=
  (hex 4 c.toNat).map fun digit => if upper then digit.toUpper else digit

def writeChar (upper : Bool) (c : Char) : Text :=
  if isCoded c then '\\' :: 'u' :: codeDigits upper c else [c]

def writeString (upper : Bool) (t : Text) : Text := '"' :: t.flatMap (writeChar upper) ++ ['"']

/-! ## Reading back -/

theorem length_codeDigits (upper : Bool) (c : Char) : (codeDigits upper c).length = 4 := by
  rw [codeDigits, List.length_map, length_hex]

theorem hexValue?_codeDigits (upper : Bool) (hc : c.toNat < 0x10000) :
    hexValue? (codeDigits upper c) = some c.toNat := by
  have hform : ∀ k < 16, hexValue? [if upper then (Nat.digitChar k).toUpper else Nat.digitChar k] =
      some k := by
    cases upper <;> decide
  have hfour : c.toNat < 16 ^ 4 := hc
  rw [codeDigits, hexValue?_map_hex hform, Nat.mod_eq_of_lt hfour]

theorem codedChar?_append (hlength : digits.length = 4) (hvalue : hexValue? digits = some c.toNat)
    (rest : Text) : codedChar? 4 (digits ++ rest) = some c := by
  have hlong : ¬ (digits ++ rest).length < 4 := by
    rw [List.length_append]
    omega
  have htake : (digits ++ rest).take 4 = digits := by rw [← hlength, List.take_left]
  have hvalid : c.toNat.isValidChar := c.valid
  rw [codedChar?, if_neg hlong, htake, hvalue, Option.bind_some, if_pos (by simpa using hvalid),
    Char.ofNat_toNat]

theorem basicFrom?_skip (multiline : Bool) (s t : Text) :
    basicFrom? multiline s.length (s ++ t) = basicFrom? multiline 0 t := by
  induction s with
  | nil => rfl
  | cons c s ih => rw [List.length_cons, List.cons_append, basicFrom?, ih]

theorem escape?_append (hlength : digits.length = 4) (hvalue : hexValue? digits = some c.toNat)
    (rest : Text) : escape? false ('u' :: digits ++ rest) = some ([c], 5) := by
  rw [List.cons_append, escape?]
  simp [codedChar?_append hlength hvalue]

/-- A character is read off the front of what stands in a string. -/
theorem basicFrom?_writeChar (upper : Bool) (c : Char) (rest : Text) :
    basicFrom? false 0 (writeChar upper c ++ rest) =
      (basicFrom? false 0 rest).map fun (s, rest) => (c :: s, rest) := by
  rw [writeChar]
  split
  · next hcoded =>
    -- All characters that are coded have codes of two digits, so four are enough.
    have hsmall : c.toNat < 0x10000 := by
      simp only [isCoded, Bool.or_eq_true, beq_iff_eq, decide_eq_true_eq] at hcoded
      rcases hcoded with ((rfl | rfl) | hcontrol) | hdelete
      · decide
      · decide
      · omega
      · omega
    have hlength := length_codeDigits upper c
    have hescape := escape?_append hlength (hexValue?_codeDigits upper hsmall) rest
    -- The reader counts the letter and the digits of the code, and goes on behind them.
    have hskip : basicFrom? false 5 ('u' :: codeDigits upper c ++ rest) = basicFrom? false 0 rest := by
      have hfive : 5 = ('u' :: codeDigits upper c).length := by rw [List.length_cons, hlength]
      rw [hfive, basicFrom?_skip]
    rw [List.cons_append, basicFrom?.eq_def]
    simp only [if_neg (by decide : ¬ '\\' = '"'), if_true, hescape, hskip]
    rfl
  · next hplain =>
    simp only [isCoded, Bool.or_eq_true, not_or, beq_iff_eq, decide_eq_true_eq] at hplain
    rcases hplain with ⟨⟨⟨hquote, hbackslash⟩, hcontrol⟩, hdelete⟩
    have hnone : isControl c = false := by
      simp only [isControl, Bool.or_eq_false_iff, Bool.and_eq_false_iff, decide_eq_false_iff_not,
        beq_eq_false_iff_ne]
      exact ⟨Or.inl (by omega), hdelete⟩
    rw [List.singleton_append, basicFrom?.eq_def]
    simp only [if_neg hquote, if_neg hbackslash, hnone, Bool.false_and, Bool.false_eq_true, if_false]

theorem basic?_writeChars (upper : Bool) (t rest : Text) :
    basic? (t.flatMap (writeChar upper) ++ '"' :: rest) = some (t, rest) := by
  induction t with
  | nil => rfl
  | cons c t ih =>
      rw [basic?] at ih ⊢
      rw [List.flatMap_cons, List.append_assoc, basicFrom?_writeChar, ih]
      rfl

/-- What is written between the quotes never starts with a quote. -/
theorem head?_writeChars_ne_quote (upper : Bool) (t : Text) :
    (t.flatMap (writeChar upper)).head? ≠ some '"' := by
  cases t with
  | nil => simp
  | cons c t =>
      rw [List.flatMap_cons, writeChar]
      split
      · simp
      · next hplain =>
        simp only [isCoded, Bool.or_eq_true, not_or, beq_iff_eq] at hplain
        simpa using hplain.1.1.1

/-- Control characters are not written as they are. -/
theorem notMem_writeString (hc : c.toNat ≤ 0x1F) (upper : Bool) (t : Text) :
    c ∉ writeString upper t := by
  have hquote : c ≠ '"' := by
    rintro rfl
    exact absurd hc (by decide)
  have hchars : c ∉ t.flatMap (writeChar upper) := by
    intro hm
    rcases List.mem_flatMap.1 hm with ⟨d, -, hd⟩
    rw [writeChar] at hd
    split at hd
    · have hdigit : ∀ k < 16, 0x1F < (if upper then (Nat.digitChar k).toUpper
          else Nat.digitChar k).toNat := by
        cases upper <;> decide
      rcases List.mem_cons.1 hd with rfl | hd
      · exact absurd hc (by decide)
      · rcases List.mem_cons.1 hd with rfl | hd
        · exact absurd hc (by decide)
        · rcases List.mem_map.1 hd with ⟨digit, hmem, rfl⟩
          rcases exists_of_mem_hex hmem with ⟨k, hk, rfl⟩
          exact Nat.not_le.2 (hdigit k hk) hc
    · next hplain =>
      rw [List.mem_singleton.1 hd] at hc
      simp [isCoded, hc] at hplain
  simp [writeString, hquote, hchars]

end Toml

end ImportLint
