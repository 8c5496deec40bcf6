import ImportLint.Text.Utf8

/-!
# UTF-8 with stray bytes

The bytes of a character are read as that character, whatever follows them
(`units_encodeChar_append`), and so a text is read back from its bytes (`decode?_encode`). Some
bytes neither begin nor continue any character. They may stand between characters in any number, and
reading overlooks them (`decodeLossy_of_littered`).
-/

namespace ImportLint

namespace Utf8

variable {a b c d : UInt8} {x : Char} {t : Text} {bytes : List UInt8}

/-! ## Forms of one to four bytes -/

theorem units_of_single (h : single? a = some x) (rest : List UInt8) :
    units (a :: rest) = some x :: units rest := by
  cases rest with
  | nil => simp only [units, h]
  | cons b rest =>
      rw [units.eq_def]
      simp only [h]

theorem units_of_pair (ha : single? a = none) (h : pair? a b = some x) (rest : List UInt8) :
    units (a :: b :: rest) = some x :: units rest := by
  rw [units.eq_def]
  simp only [ha, h]

theorem units_of_triple (ha : single? a = none) (hb : pair? a b = none)
    (h : triple? a b c = some x) (rest : List UInt8) :
    units (a :: b :: c :: rest) = some x :: units rest := by
  rw [units.eq_def]
  simp only [ha, hb, h]

theorem units_of_quad (ha : single? a = none) (hb : pair? a b = none) (hc : triple? a b c = none)
    (h : quad? a b c d = some x) (rest : List UInt8) :
    units (a :: b :: c :: d :: rest) = some x :: units rest := by
  rw [units.eq_def]
  simp only [ha, hb, hc, h]

/-- A byte that begins no form is passed over by itself. -/
theorem units_of_none (ha : single? a = none) (hpair : ∀ b, pair? a b = none)
    (htriple : ∀ b c, triple? a b c = none) (hquad : ∀ b c d, quad? a b c d = none)
    (rest : List UInt8) : units (a :: rest) = none :: units rest := by
  match rest with
  | [] => simp only [units, ha]
  | [b] => simp only [units, ha, hpair]
  | [b, c] => simp only [units, ha, hpair, htriple]
  | b :: c :: d :: rest =>
      rw [units.eq_def]
      simp only [ha, hpair, htriple, hquad]

theorem single?_eq_none (h : 0x80 ≤ a.toNat) : single? a = none := by
  have hlarge : ¬ a < 0x80 := by
    rw [UInt8.lt_iff_toNat_lt]
    exact Nat.not_lt.2 h
  simp [single?, hlarge]

theorem pair?_eq_none (h : a.toNat < 0xC2 ∨ 0xDF < a.toNat) (b : UInt8) : pair? a b = none := by
  simp only [pair?, Bool.and_eq_true, decide_eq_true_eq, UInt8.le_iff_toNat_le, ite_eq_right_iff]
  rintro ⟨⟨hlow, hhigh⟩, -⟩
  have hlow : 0xC2 ≤ a.toNat := hlow
  have hhigh : a.toNat ≤ 0xDF := hhigh
  omega

theorem triple?_eq_none (h : a.toNat < 0xE0 ∨ 0xEF < a.toNat) (b c : UInt8) :
    triple? a b c = none := by
  simp only [triple?, Bool.and_eq_true, decide_eq_true_eq, UInt8.le_iff_toNat_le, ite_eq_right_iff]
  rintro ⟨⟨⟨⟨⟨hlow, hhigh⟩, -⟩, -⟩, -⟩, -⟩
  have hlow : 0xE0 ≤ a.toNat := hlow
  have hhigh : a.toNat ≤ 0xEF := hhigh
  omega

theorem quad?_eq_none (h : a.toNat < 0xF0 ∨ 0xF4 < a.toNat) (b c d : UInt8) :
    quad? a b c d = none := by
  simp only [quad?, Bool.and_eq_true, decide_eq_true_eq, UInt8.le_iff_toNat_le, ite_eq_right_iff]
  rintro ⟨⟨⟨⟨⟨⟨hlow, hhigh⟩, -⟩, -⟩, -⟩, -⟩, -⟩
  have hlow : 0xF0 ≤ a.toNat := hlow
  have hhigh : a.toNat ≤ 0xF4 := hhigh
  omega

/-! ## The bytes of a character -/

theorem toNat_ofNat {n : Nat} (h : n < 256) : (UInt8.ofNat n).toNat = n := by
  simpa using h

/-- A continuing byte with the given six bits. -/
theorem isTail_ofNat {n : Nat} (h : n < 64) : isTail (UInt8.ofNat (n + 128)) = true := by
  simp only [isTail, Bool.and_eq_true, decide_eq_true_eq, UInt8.le_iff_toNat_le,
    toNat_ofNat (n := n + 128) (by omega)]
  have hlow : (0x80 : UInt8).toNat = 128 := rfl
  have hhigh : (0xBF : UInt8).toNat = 191 := rfl
  omega

theorem extend_ofNat {n : Nat} (high : Nat) (h : n < 64) :
    extend high (UInt8.ofNat (n + 128)) = high * 64 + n := by
  have hbyte : (UInt8.ofNat (n + 128)).toNat = n + 128 := toNat_ofNat (by omega)
  unfold extend
  rw [hbyte]
  omega

theorem toNat_lt (x : Char) : x.toNat < 0xD800 ∨ 0xDFFF < x.toNat ∧ x.toNat < 0x110000 := x.valid

theorem single?_ofNat (h : x.toNat ≤ 127) : single? (UInt8.ofNat x.toNat) = some x := by
  have hsmall : UInt8.ofNat x.toNat < 0x80 := by
    rw [UInt8.lt_iff_toNat_lt, toNat_ofNat (by omega)]
    exact Nat.lt_succ_of_le h
  rw [single?, if_pos hsmall, toNat_ofNat (by omega), Char.ofNat_toNat]

theorem pair?_ofNat (hlow : 127 < x.toNat) (hhigh : x.toNat ≤ 2047) :
    pair? (UInt8.ofNat (x.toNat / 64 % 32 + 192)) (UInt8.ofNat (x.toNat % 64 + 128)) = some x := by
  have htail : x.toNat % 64 < 64 := Nat.mod_lt _ (by decide)
  have hlead : (UInt8.ofNat (x.toNat / 64 % 32 + 192)).toNat = x.toNat / 64 + 192 := by
    rw [toNat_ofNat (by omega)]
    omega
  have hvalue : (x.toNat / 64 + 192 - 0xC0) * 64 + x.toNat % 64 = x.toNat := by omega
  have hform : (0xC2 ≤ UInt8.ofNat (x.toNat / 64 % 32 + 192) &&
      UInt8.ofNat (x.toNat / 64 % 32 + 192) ≤ 0xDF &&
        isTail (UInt8.ofNat (x.toNat % 64 + 128))) = true := by
    simp only [Bool.and_eq_true, decide_eq_true_eq, UInt8.le_iff_toNat_le, hlead, isTail_ofNat htail,
      and_true]
    exact ⟨by change 194 ≤ _; omega, by change _ ≤ 223; omega⟩
  rw [pair?, if_pos hform, extend_ofNat _ htail, hlead, hvalue, Char.ofNat_toNat]

theorem triple?_ofNat (hlow : 2047 < x.toNat) (hhigh : x.toNat ≤ 65535) :
    triple? (UInt8.ofNat (x.toNat / 4096 % 16 + 224)) (UInt8.ofNat (x.toNat / 64 % 64 + 128))
      (UInt8.ofNat (x.toNat % 64 + 128)) = some x := by
  have hmiddle : x.toNat / 64 % 64 < 64 := Nat.mod_lt _ (by decide)
  have htail : x.toNat % 64 < 64 := Nat.mod_lt _ (by decide)
  have hlead : (UInt8.ofNat (x.toNat / 4096 % 16 + 224)).toNat = x.toNat / 4096 + 224 := by
    rw [toNat_ofNat (by omega)]
    omega
  have hvalue : ((x.toNat / 4096 + 224 - 0xE0) * 64 + x.toNat / 64 % 64) * 64 + x.toNat % 64 =
      x.toNat := by omega
  simp only [triple?, extend_ofNat _ hmiddle, extend_ofNat _ htail, hlead, hvalue,
    isTail_ofNat hmiddle, isTail_ofNat htail, Bool.and_true, Char.ofNat_toNat]
  refine if_pos ?_
  simp only [Bool.and_eq_true, decide_eq_true_eq, UInt8.le_iff_toNat_le, hlead,
    Bool.not_eq_true', Bool.and_eq_false_iff, decide_eq_false_iff_not]
  have hvalid := toNat_lt x
  exact ⟨⟨⟨by change 224 ≤ _; omega, by change _ ≤ 239; omega⟩, by omega⟩, by omega⟩

theorem quad?_ofNat (hlow : 65535 < x.toNat) :
    quad? (UInt8.ofNat (x.toNat / 262144 % 8 + 240)) (UInt8.ofNat (x.toNat / 4096 % 64 + 128))
      (UInt8.ofNat (x.toNat / 64 % 64 + 128)) (UInt8.ofNat (x.toNat % 64 + 128)) = some x := by
  have hvalid := toNat_lt x
  have hsecond : x.toNat / 4096 % 64 < 64 := Nat.mod_lt _ (by decide)
  have hthird : x.toNat / 64 % 64 < 64 := Nat.mod_lt _ (by decide)
  have htail : x.toNat % 64 < 64 := Nat.mod_lt _ (by decide)
  have hlead : (UInt8.ofNat (x.toNat / 262144 % 8 + 240)).toNat = x.toNat / 262144 + 240 := by
    rw [toNat_ofNat (by omega)]
    omega
  have hvalue : (((x.toNat / 262144 + 240 - 0xF0) * 64 + x.toNat / 4096 % 64) * 64 +
      x.toNat / 64 % 64) * 64 + x.toNat % 64 = x.toNat := by omega
  simp only [quad?, extend_ofNat _ hsecond, extend_ofNat _ hthird, extend_ofNat _ htail, hlead,
    hvalue, isTail_ofNat hsecond, isTail_ofNat hthird, isTail_ofNat htail, Bool.and_true,
    Char.ofNat_toNat]
  refine if_pos ?_
  simp only [Bool.and_eq_true, decide_eq_true_eq, UInt8.le_iff_toNat_le, hlead]
  exact ⟨⟨⟨by change 240 ≤ _; omega, by change _ ≤ 244; omega⟩, by omega⟩, by omega⟩

/-- The bytes of a character are read as that character, whatever follows. -/
theorem units_encodeChar_append (x : Char) (rest : List UInt8) :
    units (String.utf8EncodeChar x ++ rest) = some x :: units rest := by
  have hval : x.val.toNat = x.toNat := rfl
  simp only [String.utf8EncodeChar, hval]
  have hvalid := toNat_lt x
  split
  · next h => exact units_of_single (single?_ofNat h) rest
  · next h1 =>
    -- The lead of a longer form is large enough to begin no shorter one.
    split
    · next h =>
      refine units_of_pair (single?_eq_none ?_) (pair?_ofNat (by omega) h) rest
      rw [toNat_ofNat (by omega)]
      omega
    · next h2 =>
      split
      · next h =>
        have hlead : (UInt8.ofNat (x.toNat / 4096 % 16 + 224)).toNat = x.toNat / 4096 % 16 + 224 :=
          toNat_ofNat (by omega)
        exact units_of_triple (single?_eq_none (by omega)) (pair?_eq_none (by omega) _)
          (triple?_ofNat (by omega) h) rest
      · next h3 =>
        have hlead : (UInt8.ofNat (x.toNat / 262144 % 8 + 240)).toNat =
            x.toNat / 262144 % 8 + 240 := toNat_ofNat (by omega)
        exact units_of_quad (single?_eq_none (by omega)) (pair?_eq_none (by omega) _)
          (triple?_eq_none (by omega) _ _) (quad?_ofNat (by omega)) rest

/-- The bytes of a text are read as that text. -/
theorem decode?_encode (t : Text) : decode? (encode t) = some t := by
  induction t with
  | nil => rfl
  | cons x t ih =>
      rw [decode?] at ih ⊢
      rw [encode, List.flatMap_cons, units_encodeChar_append, List.mapM_cons, ← encode, ih]
      rfl

/-! ## Stray bytes -/

/-- Whether a byte occurs in no character: it would begin an overlong form or lie beyond the last
code point. -/
def isStray (a : UInt8) : Bool := a == 0xC0 || a == 0xC1 || 0xF5 ≤ a

/-- The bytes are those of the text's characters in order, with any number of stray bytes before,
between and after them. -/
inductive Littered : Text → List UInt8 → Prop
  | nil : Littered [] []
  | stray {a : UInt8} {t : Text} {bytes : List UInt8} :
      isStray a = true → Littered t bytes → Littered t (a :: bytes)
  | char {t : Text} {bytes : List UInt8} (x : Char) :
      Littered t bytes → Littered (x :: t) (String.utf8EncodeChar x ++ bytes)

theorem units_stray (h : isStray a = true) (rest : List UInt8) :
    units (a :: rest) = none :: units rest := by
  have hcases : a.toNat = 0xC0 ∨ a.toNat = 0xC1 ∨ 0xF5 ≤ a.toNat := by
    simp only [isStray, Bool.or_eq_true, beq_iff_eq, decide_eq_true_eq, UInt8.le_iff_toNat_le] at h
    rcases h with (rfl | rfl) | h
    · exact Or.inl rfl
    · exact Or.inr (Or.inl rfl)
    · exact Or.inr (Or.inr h)
  exact units_of_none (single?_eq_none (by omega)) (pair?_eq_none (by omega))
    (triple?_eq_none (by omega)) (quad?_eq_none (by omega)) rest

/-- Reading overlooks stray bytes. -/
theorem decodeLossy_of_littered (h : Littered t bytes) : decodeLossy bytes = t := by
  induction h with
  | nil => rfl
  | stray hstray _ ih =>
      rw [decodeLossy] at ih ⊢
      rw [units_stray hstray, List.filterMap_cons_none rfl, ih]
  | char x _ ih =>
      rw [decodeLossy] at ih ⊢
      have hread : id (some x) = some x := rfl
      rw [units_encodeChar_append, List.filterMap_cons_some hread, ih]

end Utf8

end ImportLint
