import ImportLint.Proofs.Json.Grammar
import ImportLint.Proofs.Text.Lines

/-!
# Reading JSON

A reader of JSON texts, part by part like the grammar. Every reader takes what it reads off the
front of a text and gives back the rest.

The main statement is `read_of_isTextOf`: whatever value the grammar gives to a text, the reader
finds it. As a function gives one answer, a text has at most one value (`isTextOf_unique`).

A reader takes as much as it can, so it agrees with the grammar only if the rest does not go on with
more of the same. For numbers that is a condition on what follows (`Delimited`); it holds wherever
the grammar lets a value end.
-/

namespace ImportLint

namespace Json

open Text

variable {s t rest inner digits : Text} {c : Char} {fuel : Nat}

/-! ## White space -/

def skipSpace (t : Text) : Text := t.dropWhile isSpace

def SpaceFree (t : Text) : Prop := ∀ c, t.head? = some c → isSpace c = false

theorem skipSpace_append (hs : Spaces s) (ht : SpaceFree t) : skipSpace (s ++ t) = t := by
  rw [skipSpace, List.dropWhile_append_of_pos hs]
  cases t with
  | nil => rfl
  | cons c t => rw [List.dropWhile_cons_of_neg (by simp [ht c rfl])]

/-- Reads something with the white space around it. -/
def padded {α : Type} (read : Text → Option (α × Text)) (t : Text) : Option (α × Text) :=
  (read (skipSpace t)).map fun (x, rest) => (x, skipSpace rest)

theorem padded_append {α : Type} {read : Text → Option (α × Text)} {x : α} {left right : Text}
    (hleft : Spaces left) (hright : Spaces right) (hfront : SpaceFree (s ++ right ++ rest))
    (hrest : SpaceFree rest) (h : read (s ++ right ++ rest) = some (x, right ++ rest)) :
    padded read (left ++ s ++ right ++ rest) = some (x, rest) := by
  have hskip : skipSpace (left ++ (s ++ right ++ rest)) = s ++ right ++ rest :=
    skipSpace_append hleft hfront
  simp only [List.append_assoc] at hskip h ⊢
  simp only [padded, hskip, h, Option.map_some, skipSpace_append hright hrest]

/-! ## Strings -/

def readUnit : Text → Option (Nat × Text)
  | '\\' :: 'u' :: t =>
    if t.length < 4 then none else (Toml.hexValue? (t.take 4)).map fun unit => (unit, t.drop 4)
  | _ => none

/-- The character of a unit, where the first unit of a pair needs the second one behind it. -/
def charOf (unit : Nat) (rest : Text) : Option (Char × Text) :=
  if isHighSurrogate unit then
    match readUnit rest with
    | some (low, rest) =>
      if isLowSurrogate low then some (Char.ofNat (combine unit low), rest) else none
    | none => none
  else if unit.isValidChar then some (Char.ofNat unit, rest)
  else none

def readChar (t : Text) : Option (Char × Text) :=
  match readUnit t with
  | some (unit, rest) => charOf unit rest
  | none =>
    match t with
    | '\\' :: letter :: rest => (shortEscapes.lookup letter).map fun c => (c, rest)
    | c :: rest => if 0x20 ≤ c.toNat && c != '"' && c != '\\' then some (c, rest) else none
    | [] => none

/-- Reads characters up to the closing quote, at most `fuel` of them. -/
def readChars : (fuel : Nat) → Text → Option (Text × Text)
  | 0, _ => none
  | _ + 1, '"' :: rest => some ([], rest)
  | fuel + 1, t =>
    match readChar t with
    | some (c, rest) => (readChars fuel rest).map fun (cs, rest) => (c :: cs, rest)
    | none => none

def readString (fuel : Nat) : Text → Option (Text × Text)
  | '"' :: rest => readChars fuel rest
  | _ => none

theorem readUnit_append {unit : Nat} (h : SpellsUnit s unit) (rest : Text) :
    readUnit (s ++ rest) = some (unit, rest) := by
  rcases h with ⟨digits, rfl, hlength, hvalue⟩
  have henough : ¬ (digits ++ rest).length < 4 := by
    rw [List.length_append]
    omega
  simp only [List.cons_append, readUnit, if_neg henough, List.take_left' hlength,
    List.drop_left' hlength, hvalue, Option.map_some]

theorem readUnit_of_ne {letter : Char} (h : letter ≠ 'u') (rest : Text) :
    readUnit ('\\' :: letter :: rest) = none := by
  simp [readUnit, h]

theorem isHighSurrogate_toNat (c : Char) : isHighSurrogate c.toNat = false := by
  have hvalid : c.toNat < 0xD800 ∨ 0xDFFF < c.toNat ∧ c.toNat < 0x110000 := c.valid
  rw [Bool.eq_false_iff]
  intro h
  simp only [isHighSurrogate, Bool.and_eq_true, decide_eq_true_eq] at h
  omega

theorem readChar_append (h : SpellsChar s c) (rest : Text) :
    readChar (s ++ rest) = some (c, rest) := by
  cases h with
  | plain hprintable hquote hbackslash =>
      have hunit : readUnit (c :: rest) = none := by simp [readUnit, hbackslash]
      simp [readChar, hunit, hprintable, hquote, hbackslash]
  | @short letter _ hmem =>
      -- Each of the letters is found in the table, and none of them announces a unit.
      have hletter : letter ≠ 'u' ∧ shortEscapes.lookup letter = some c := by
        simp only [shortEscapes, List.mem_cons, Prod.mk.injEq, List.not_mem_nil, or_false] at hmem
        rcases hmem with ⟨rfl, rfl⟩ | ⟨rfl, rfl⟩ | ⟨rfl, rfl⟩ | ⟨rfl, rfl⟩ | ⟨rfl, rfl⟩ |
          ⟨rfl, rfl⟩ | ⟨rfl, rfl⟩ | ⟨rfl, rfl⟩ <;> decide
      simp only [List.cons_append, List.nil_append, readChar, readUnit_of_ne hletter.1, hletter.2,
        Option.map_some]
  | unit hunit =>
      have hvalid : c.toNat.isValidChar := c.valid
      simp [readChar, readUnit_append hunit, charOf, isHighSurrogate_toNat, hvalid,
        Char.ofNat_toNat]
  | pair hhigh hlow hishigh hislow hcode =>
      rw [List.append_assoc]
      simp [readChar, readUnit_append hhigh, charOf, hishigh, readUnit_append hlow, hislow, ← hcode,
        Char.ofNat_toNat]

example : readChar "\\ud83d\\ude00!".toList = some ('😀', ['!']) := by
  decide

/-- A spelled character does not start with the closing quote. -/
theorem SpellsChar.exists_cons (h : SpellsChar s c) : ∃ d u, s = d :: u ∧ d ≠ '"' := by
  have hunit : ∀ {u : Text} {n : Nat}, SpellsUnit u n → ∃ v, u = '\\' :: v := by
    rintro u n ⟨digits, rfl, -, -⟩
    exact ⟨'u' :: digits, rfl⟩
  cases h with
  | plain _ hquote _ => exact ⟨c, [], rfl, hquote⟩
  | short _ => exact ⟨'\\', _, rfl, by decide⟩
  | unit hspelled =>
      rcases hunit hspelled with ⟨v, rfl⟩
      exact ⟨'\\', v, rfl, by decide⟩
  | pair hhigh _ _ _ _ =>
      rcases hunit hhigh with ⟨v, rfl⟩
      exact ⟨'\\', _, rfl, by decide⟩

theorem readChars_append (h : SpellsChars inner t) (rest : Text) :
    inner.length < fuel → readChars fuel (inner ++ '"' :: rest) = some (t, rest) := by
  induction h generalizing fuel with
  | nil =>
      intro hfuel
      cases fuel with
      | zero => cases hfuel
      | succ fuel => rfl
  | @cons s behind t c hchar _ ih =>
      intro hfuel
      rcases hchar.exists_cons with ⟨d, u, rfl, hquote⟩
      cases fuel with
      | zero => cases hfuel
      | succ fuel =>
          have hbehind : behind.length < fuel := by
            simp only [List.length_append, List.length_cons] at hfuel
            omega
          have hread := readChar_append hchar (behind ++ '"' :: rest)
          rw [List.append_assoc]
          rw [List.cons_append] at hread ⊢
          simp [readChars, hquote, hread, ih hbehind]

theorem readString_append (h : SpellsString s t) (rest : Text) (hfuel : s.length < fuel) :
    readString fuel (s ++ rest) = some (t, rest) := by
  rcases h with ⟨inner, rfl, hinner⟩
  have henough : inner.length < fuel := by
    simp only [List.length_append, List.length_cons, List.length_nil] at hfuel
    omega
  simpa [readString] using readChars_append hinner rest henough

/-! ## Numbers -/

def isDelimiter (c : Char) : Bool := isSpace c || c == ',' || c == ']' || c == '}'

/-- A text that is empty or starts with what may follow a value. -/
def Delimited (rest : Text) : Prop := ∀ c, rest.head? = some c → isDelimiter c = true

def DigitFree (rest : Text) : Prop := ∀ c, rest.head? = some c → c.isDigit = false

def readDigits (t : Text) : Option (Text × Text) :=
  match t.takeWhile Char.isDigit with
  | [] => none
  | digits => some (digits, t.dropWhile Char.isDigit)

def readWhole (t : Text) : Option (Text × Text) :=
  (readDigits t).bind fun (whole, rest) =>
    if whole.head? = some '0' ∧ whole ≠ ['0'] then none else some (whole, rest)

def readFraction : Text → Option (Text × Text)
  | '.' :: t => readDigits t
  | t => some ([], t)

def readExponent : Text → Option (Int × Text)
  | [] => some (0, [])
  | c :: t =>
    if isExponentMark c then
      match t with
      | '+' :: t => (readDigits t).map fun (digits, rest) => ((natOf digits : Int), rest)
      | '-' :: t => (readDigits t).map fun (digits, rest) => (-(natOf digits : Int), rest)
      | t => (readDigits t).map fun (digits, rest) => ((natOf digits : Int), rest)
    else some (0, c :: t)

def readUnsigned (t : Text) : Option ((Nat × Int) × Text) := do
  let (whole, t) ← readWhole t
  let (digits, t) ← readFraction t
  let (exponent, t) ← readExponent t
  return ((natOf (whole ++ digits), exponent - digits.length), t)

def readNumber : Text → Option (Value × Text)
  | '-' :: t => (readUnsigned t).map fun ((n, exponent), rest) => (.number (-n) exponent, rest)
  | t => (readUnsigned t).map fun ((n, exponent), rest) => (.number n exponent, rest)

theorem readDigits_append (h : IsDigits digits) (hrest : DigitFree rest) :
    readDigits (digits ++ rest) = some (digits, rest) := by
  rcases h with ⟨hne, hdigits⟩
  have hnone : rest.takeWhile Char.isDigit = [] ∧ rest.dropWhile Char.isDigit = rest := by
    cases rest with
    | nil => exact ⟨rfl, rfl⟩
    | cons c rest =>
        have hc : ¬ c.isDigit = true := by simp [hrest c rfl]
        exact ⟨List.takeWhile_cons_of_neg hc, List.dropWhile_cons_of_neg hc⟩
  have htake : (digits ++ rest).takeWhile Char.isDigit = digits := by
    rw [List.takeWhile_append_of_pos hdigits, hnone.1, List.append_nil]
  have hdrop : (digits ++ rest).dropWhile Char.isDigit = rest := by
    rw [List.dropWhile_append_of_pos hdigits, hnone.2]
  unfold readDigits
  rw [htake, hdrop]
  cases digits with
  | nil => exact absurd rfl hne
  | cons c digits => rfl

theorem readWhole_append {whole : Text} (h : IsWhole whole) (hrest : DigitFree rest) :
    readWhole (whole ++ rest) = some (whole, rest) := by
  have hzero : ¬ (whole.head? = some '0' ∧ whole ≠ ['0']) := by
    rintro ⟨hzero, hne⟩
    exact hne (h.2 hzero)
  simp only [readWhole, readDigits_append h.1 hrest, Option.bind_some, if_neg hzero]

/-- What may follow a value neither is a digit nor announces a fraction or an exponent. -/
theorem isDelimiter_cases (h : isDelimiter c = true) :
    c.isDigit = false ∧ c ≠ '.' ∧ isExponentMark c = false := by
  simp only [isDelimiter, isSpace, Bool.or_eq_true, beq_iff_eq] at h
  rcases h with ((((((rfl | rfl) | rfl) | rfl) | rfl) | rfl) | rfl) <;> decide

theorem isExponentMark_cases (h : isExponentMark c = true) : c.isDigit = false ∧ c ≠ '.' := by
  simp only [isExponentMark, Bool.or_eq_true, beq_iff_eq] at h
  rcases h with rfl | rfl <;> decide

/-- What may follow the fraction of a number: nothing that would continue its digits. -/
theorem SpellsExponent.head_cases {power : Text} {exponent : Int}
    (h : SpellsExponent power exponent) (hrest : Delimited rest) (hc : (power ++ rest).head? = some c) :
    c.isDigit = false ∧ c ≠ '.' := by
  cases h with
  | none =>
      have hd := isDelimiter_cases (hrest c hc)
      exact ⟨hd.1, hd.2.1⟩
  | plain hmark _ =>
      cases hc
      exact isExponentMark_cases hmark
  | plus hmark _ =>
      cases hc
      exact isExponentMark_cases hmark
  | minus hmark _ =>
      cases hc
      exact isExponentMark_cases hmark

theorem readFraction_append {fraction : Text} (h : SpellsFraction fraction digits)
    (hrest : ∀ c, rest.head? = some c → c.isDigit = false ∧ c ≠ '.') :
    readFraction (fraction ++ rest) = some (digits, rest) := by
  cases h with
  | none =>
      cases rest with
      | nil => rfl
      | cons c rest => simp [readFraction, (hrest c rfl).2]
  | some hdigits =>
      have hread := readDigits_append hdigits fun c hc => (hrest c hc).1
      simpa [readFraction] using hread

theorem digitFree_fraction_append {fraction : Text} (h : SpellsFraction fraction digits)
    (hrest : DigitFree rest) : DigitFree (fraction ++ rest) := by
  intro c hc
  cases h with
  | none => exact hrest c hc
  | some _ =>
      cases hc
      rfl

theorem readExponent_append {power : Text} {exponent : Int} (h : SpellsExponent power exponent)
    (hrest : Delimited rest) : readExponent (power ++ rest) = some (exponent, rest) := by
  have hfree : DigitFree rest := fun c hc => (isDelimiter_cases (hrest c hc)).1
  cases h with
  | none =>
      cases rest with
      | nil => rfl
      | cons c rest => simp [readExponent, (isDelimiter_cases (hrest c rfl)).2.2]
  | @plain mark digits hmark hdigits =>
      -- The first digit is no sign.
      have hread := readDigits_append hdigits hfree
      cases digits with
      | nil => exact absurd rfl hdigits.1
      | cons d digits =>
          have hd : d.isDigit = true := hdigits.2 d List.mem_cons_self
          have hplus : d ≠ '+' := by rintro rfl; exact absurd hd (by decide)
          have hminus : d ≠ '-' := by rintro rfl; exact absurd hd (by decide)
          rw [List.cons_append] at hread
          simp [readExponent, hmark, hplus, hminus, hread]
  | plus hmark hdigits => simp [readExponent, hmark, readDigits_append hdigits hfree]
  | minus hmark hdigits => simp [readExponent, hmark, readDigits_append hdigits hfree]

theorem readUnsigned_append {n : Nat} {exponent : Int} (h : SpellsUnsigned s n exponent)
    (hrest : Delimited rest) : readUnsigned (s ++ rest) = some ((n, exponent), rest) := by
  cases h with
  | @mk whole fraction digits power exponent hwhole hfraction hpower =>
      have hafter : ∀ c, (power ++ rest).head? = some c → c.isDigit = false ∧ c ≠ '.' :=
        fun c hc => hpower.head_cases hrest hc
      have hfree : DigitFree (fraction ++ (power ++ rest)) :=
        digitFree_fraction_append hfraction fun c hc => (hafter c hc).1
      have hread := readWhole_append hwhole hfree
      simp [readUnsigned, hread, readFraction_append hfraction hafter,
        readExponent_append hpower hrest]

theorem SpellsUnsigned.exists_cons {n : Nat} {exponent : Int} (h : SpellsUnsigned s n exponent) :
    ∃ c u, s = c :: u ∧ c.isDigit = true := by
  cases h with
  | @mk whole fraction digits power exponent hwhole _ _ =>
      rcases hwhole with ⟨⟨hne, hdigits⟩, -⟩
      cases whole with
      | nil => exact absurd rfl hne
      | cons c whole => exact ⟨c, _, rfl, hdigits c List.mem_cons_self⟩

def opensNumber (c : Char) : Bool := c.isDigit || c == '-'

theorem SpellsNumber.exists_cons {n exponent : Int} (h : SpellsNumber s n exponent) :
    ∃ c u, s = c :: u ∧ opensNumber c = true := by
  cases h with
  | plain hunsigned =>
      rcases hunsigned.exists_cons with ⟨c, u, rfl, hdigit⟩
      exact ⟨c, u, rfl, by simp [opensNumber, hdigit]⟩
  | minus _ => exact ⟨'-', _, rfl, rfl⟩

theorem readNumber_append {n exponent : Int} (h : SpellsNumber s n exponent)
    (hrest : Delimited rest) : readNumber (s ++ rest) = some (.number n exponent, rest) := by
  cases h with
  | plain hunsigned =>
      have hread := readUnsigned_append hunsigned hrest
      rcases hunsigned.exists_cons with ⟨c, u, rfl, hdigit⟩
      have hc : c ≠ '-' := by
        rintro rfl
        exact absurd hdigit (by decide)
      rw [List.cons_append] at hread ⊢
      simp [readNumber, hc, hread]
  | minus hunsigned => simp [readNumber, readUnsigned_append hunsigned hrest]

/-! ## Values -/

def readScalar (t : Text) : Option (Value × Text) :=
  match after? "null".toList t, after? "true".toList t, after? "false".toList t with
  | some rest, _, _ => some (.null, rest)
  | _, some rest, _ => some (.bool true, rest)
  | _, _, some rest => some (.bool false, rest)
  | _, _, _ => readNumber t

/-- Reads one or more things between commas, at most `count` of them, up to the closing bracket. -/
def separated {α : Type} (closing : Char) (read : Text → Option (α × Text)) :
    (count : Nat) → Text → Option (List α × Text)
  | 0, _ => none
  | count + 1, t =>
    match read t with
    | some (x, ',' :: rest) =>
      (separated closing read count rest).map fun (xs, rest) => (x :: xs, rest)
    | some (x, c :: rest) => if c = closing then some ([x], rest) else none
    | _ => none

/-- Reads the inside of brackets, which may be empty. -/
def bracketed {α : Type} (closing : Char) (read : Text → Option (α × Text)) (count : Nat)
    (t : Text) : Option (List α × Text) :=
  match skipSpace t with
  | [] => none
  | c :: rest => if c = closing then some ([], rest) else separated closing read count t

def readMember (readValue : Text → Option (Value × Text)) (fuel : Nat) (t : Text) :
    Option ((Text × Value) × Text) :=
  match padded (readString fuel) t with
  | some (key, ':' :: rest) => (padded readValue rest).map fun (v, rest) => ((key, v), rest)
  | _ => none

/-- Reads a value of a text of less than `fuel` characters. -/
def readValue : (fuel : Nat) → Text → Option (Value × Text)
  | 0, _ => none
  | fuel + 1, '"' :: rest => (readChars fuel rest).map fun (s, rest) => (.string s, rest)
  | fuel + 1, '[' :: rest =>
    (bracketed ']' (padded (readValue fuel)) fuel rest).map fun (vs, rest) => (.array vs, rest)
  | fuel + 1, '{' :: rest =>
    (bracketed '}' (readMember (readValue fuel) fuel) fuel rest).map fun (ms, rest) =>
      (.object ms, rest)
  | _ + 1, t => readScalar t

def read (t : Text) : Option Value :=
  match padded (readValue (t.length + 1)) t with
  | some (v, []) => some v
  | _ => none

/-! ### Brackets -/

theorem separated_last {α : Type} {closing : Char} {read : Text → Option (α × Text)} {x : α}
    (count : Nat) (hclosing : closing ≠ ',') (h : read t = some (x, closing :: rest)) :
    separated closing read (count + 1) t = some ([x], rest) := by
  simp [separated, h]

/-- One more thing before a comma. -/
theorem separated_cons {α : Type} {closing : Char} {read : Text → Option (α × Text)} {x : α}
    {xs : List α} {count : Nat} {behind : Text} (hcount : (s ++ ',' :: behind).length ≤ count)
    (h : read (s ++ ',' :: (behind ++ closing :: rest)) =
      some (x, ',' :: (behind ++ closing :: rest)))
    (ih : ∀ less, behind.length ≤ less →
      separated closing read (less + 1) (behind ++ closing :: rest) = some (xs, rest)) :
    separated closing read (count + 1) (s ++ ',' :: behind ++ closing :: rest) =
      some (x :: xs, rest) := by
  simp only [List.length_append, List.length_cons] at hcount
  obtain ⟨less, rfl⟩ : ∃ less, count = less + 1 := ⟨count - 1, by omega⟩
  have hmore := ih less (by omega)
  rw [List.append_assoc, List.cons_append, separated, h]
  simp [hmore]

theorem bracketed_empty {α : Type} {closing : Char} (read : Text → Option (α × Text)) (count : Nat)
    (hclosing : isSpace closing = false) (hs : Spaces s) (rest : Text) :
    bracketed closing read count (s ++ closing :: rest) = some ([], rest) := by
  have hfree : SpaceFree (closing :: rest) := by
    intro c hc
    cases hc
    exact hclosing
  simp [bracketed, skipSpace_append hs hfree]

theorem bracketed_of_front {α : Type} {closing : Char} {read : Text → Option (α × Text)}
    (count : Nat) (h : skipSpace t = c :: rest) (hc : c ≠ closing) :
    bracketed closing read count t = separated closing read count t := by
  simp [bracketed, h, hc]

/-! ### What a part starts with -/

def openers : List Char := ['"', '[', '{', 'n', 't', 'f']

def opensValue (c : Char) : Bool := opensNumber c || openers.contains c

theorem opensNumber_ne {d : Char} (hc : opensNumber c = true) (hd : opensNumber d = false) :
    c ≠ d := by
  rintro rfl
  rw [hc] at hd
  cases hd

theorem opensValue_cases (h : opensValue c = true) :
    isSpace c = false ∧ c ≠ ']' ∧ c ≠ '}' := by
  rcases Bool.or_eq_true_iff.1 h with hnumber | hother
  · have hspace : ¬ isSpace c = true := by
      intro hspace
      simp only [isSpace, Bool.or_eq_true, beq_iff_eq] at hspace
      rcases hspace with ((rfl | rfl) | rfl) | rfl <;> exact absurd hnumber (by decide)
    exact ⟨Bool.eq_false_iff.2 hspace, opensNumber_ne hnumber rfl, opensNumber_ne hnumber rfl⟩
  · simp only [openers, List.contains_iff_mem, List.mem_cons, List.not_mem_nil, or_false] at hother
    rcases hother with rfl | rfl | rfl | rfl | rfl | rfl <;> decide

theorem Spells.exists_cons_of_value {v : Value} (h : Spells s (.value v)) :
    ∃ c u, s = c :: u ∧ opensValue c = true := by
  cases h with
  | null => exact ⟨'n', _, rfl, rfl⟩
  | yes => exact ⟨'t', _, rfl, rfl⟩
  | no => exact ⟨'f', _, rfl, rfl⟩
  | number hnumber =>
      rcases hnumber.exists_cons with ⟨c, u, rfl, hc⟩
      exact ⟨c, u, rfl, by simp [opensValue, hc]⟩
  | string hstring =>
      rcases hstring with ⟨inner, rfl, -⟩
      exact ⟨'"', _, rfl, rfl⟩
  | emptyArray _ => exact ⟨'[', _, rfl, rfl⟩
  | array _ => exact ⟨'[', _, rfl, rfl⟩
  | emptyObject _ => exact ⟨'{', _, rfl, rfl⟩
  | object _ => exact ⟨'{', _, rfl, rfl⟩

/-- Behind its white space a part starts with a character that starts a value. -/
def HasFront (s : Text) : Prop :=
  ∃ space c u, Spaces space ∧ s = space ++ c :: u ∧ opensValue c = true

theorem HasFront.append (h : HasFront s) (t : Text) : HasFront (s ++ t) := by
  rcases h with ⟨space, c, u, hspace, rfl, hc⟩
  exact ⟨space, c, u ++ t, hspace, by simp, hc⟩

theorem HasFront.exists_skipSpace (h : HasFront s) (t : Text) :
    ∃ c u, skipSpace (s ++ t) = c :: u ∧ c ≠ ']' ∧ c ≠ '}' := by
  rcases h with ⟨space, c, u, hspace, rfl, hc⟩
  rcases opensValue_cases hc with ⟨hfree, hbracket, hbrace⟩
  refine ⟨c, u ++ t, ?_, hbracket, hbrace⟩
  rw [List.append_assoc]
  apply skipSpace_append hspace
  intro d hd
  cases hd
  exact hfree

theorem Spells.hasFront_of_element {v : Value} (h : Spells s (.element v)) : HasFront s := by
  cases h with
  | @element left _ right _ hleft hvalue _ =>
      rcases hvalue.exists_cons_of_value with ⟨c, u, rfl, hc⟩
      exact ⟨left, c, u ++ right, hleft, by simp, hc⟩

theorem Spells.hasFront_of_items {vs : List Value} (h : Spells s (.items vs)) : HasFront s := by
  cases h with
  | item helement => exact helement.hasFront_of_element
  | items helement _ => exact helement.hasFront_of_element.append _

theorem Spells.hasFront_of_member {m : Text × Value} (h : Spells s (.member m)) : HasFront s := by
  cases h with
  | @pair left _ right behind _ _ hleft hkey _ _ =>
      rcases hkey with ⟨inner, rfl, -⟩
      exact ⟨left, '"', inner ++ ['"'] ++ right ++ ':' :: behind, hleft, by simp, rfl⟩

theorem Spells.hasFront_of_members {ms : List (Text × Value)} (h : Spells s (.members ms)) :
    HasFront s := by
  cases h with
  | member hmember => exact hmember.hasFront_of_member
  | members hmember _ => exact hmember.hasFront_of_member.append _

/-! ### The reader finds what is spelled -/

/-- What follows an element in its brackets, or nothing: no white space, and nothing that would
continue a number. -/
structure Closes (rest : Text) : Prop where
  delimited : Delimited rest
  spaceFree : SpaceFree rest

theorem closes_nil : Closes [] where
  delimited := by
    intro c hc
    cases hc
  spaceFree := by
    intro c hc
    cases hc

theorem closes_cons (hc : c ∈ [',', ']', '}']) (rest : Text) : Closes (c :: rest) where
  delimited := by
    rintro d ⟨rfl⟩
    simp only [List.mem_cons, List.not_mem_nil, or_false] at hc
    rcases hc with rfl | rfl | rfl <;> rfl
  spaceFree := by
    rintro d ⟨rfl⟩
    simp only [List.mem_cons, List.not_mem_nil, or_false] at hc
    rcases hc with rfl | rfl | rfl <;> rfl

theorem Delimited.append_spaces {right : Text} (hright : Spaces right) (hrest : Delimited rest) :
    Delimited (right ++ rest) := by
  intro c hc
  cases right with
  | nil => exact hrest c hc
  | cons d right =>
      cases hc
      simp [isDelimiter, hright c List.mem_cons_self]

/-- The reader of a part takes a text off the front and finds the part, if it has fuel enough and if
what follows does not go on with the part. -/
def ReadsAs (s : Text) : Part → Prop
  | .value v => ∀ fuel rest, s.length ≤ fuel → Delimited rest →
      readValue (fuel + 1) (s ++ rest) = some (v, rest)
  | .element v => ∀ fuel rest, s.length ≤ fuel → Closes rest →
      padded (readValue (fuel + 1)) (s ++ rest) = some (v, rest)
  | .items vs => ∀ fuel count rest, s.length ≤ fuel → s.length ≤ count →
      separated ']' (padded (readValue (fuel + 1))) (count + 1) (s ++ ']' :: rest) = some (vs, rest)
  | .member m => ∀ fuel rest, s.length ≤ fuel → Closes rest →
      readMember (readValue (fuel + 1)) (fuel + 1) (s ++ rest) = some (m, rest)
  | .members ms => ∀ fuel count rest, s.length ≤ fuel → s.length ≤ count →
      separated '}' (readMember (readValue (fuel + 1)) (fuel + 1)) (count + 1) (s ++ '}' :: rest) =
        some (ms, rest)

theorem readValue_of_number {n exponent : Int} (h : SpellsNumber s n exponent)
    (hrest : Delimited rest) :
    readValue (fuel + 1) (s ++ rest) = some (.number n exponent, rest) := by
  have hread := readNumber_append h hrest
  rcases h.exists_cons with ⟨c, u, rfl, hc⟩
  -- No other value starts like a number.
  have hquote : c ≠ '"' := opensNumber_ne hc rfl
  have hbracket : c ≠ '[' := opensNumber_ne hc rfl
  have hbrace : c ≠ '{' := opensNumber_ne hc rfl
  have hn : 'n' ≠ c := (opensNumber_ne hc rfl).symm
  have ht : 't' ≠ c := (opensNumber_ne hc rfl).symm
  have hf : 'f' ≠ c := (opensNumber_ne hc rfl).symm
  have hscalar : readValue (fuel + 1) (c :: (u ++ rest)) = readScalar (c :: (u ++ rest)) := by
    simp [readValue, hquote, hbracket, hbrace]
  have hliteral : readScalar (c :: (u ++ rest)) = readNumber (c :: (u ++ rest)) := by
    simp [readScalar, after?, hn, ht, hf]
  exact hscalar.trans (hliteral.trans hread)

/-- Between two brackets there is fuel for one level more. -/
theorem exists_fuel_inside {opening closing : Char}
    (h : (opening :: s ++ [closing]).length ≤ fuel) :
    ∃ less, fuel = less + 1 ∧ s.length ≤ less := by
  simp only [List.length_append, List.length_cons, List.length_nil] at h
  exact ⟨fuel - 1, by omega, by omega⟩

theorem readsAs_array {vs : List Value} (hs : Spells s (.items vs)) (ih : ReadsAs s (.items vs)) :
    ReadsAs ('[' :: s ++ [']']) (.value (.array vs)) := by
  intro fuel rest hfuel _
  rcases exists_fuel_inside hfuel with ⟨less, rfl, hless⟩
  rcases hs.hasFront_of_items.exists_skipSpace (']' :: rest) with ⟨c, u, hskip, hc, -⟩
  have hinside := ih less less rest hless hless
  rw [← bracketed_of_front _ hskip hc] at hinside
  simp [readValue, hinside]

theorem readsAs_object {ms : List (Text × Value)} (hs : Spells s (.members ms))
    (ih : ReadsAs s (.members ms)) : ReadsAs ('{' :: s ++ ['}']) (.value (.object ms)) := by
  intro fuel rest hfuel _
  rcases exists_fuel_inside hfuel with ⟨less, rfl, hless⟩
  rcases hs.hasFront_of_members.exists_skipSpace ('}' :: rest) with ⟨c, u, hskip, -, hc⟩
  have hinside := ih less less rest hless hless
  rw [← bracketed_of_front _ hskip hc] at hinside
  simp [readValue, hinside]

theorem readsAs_element {left right : Text} {v : Value} (hleft : Spaces left)
    (hs : Spells s (.value v)) (hright : Spaces right) (ih : ReadsAs s (.value v)) :
    ReadsAs (left ++ s ++ right) (.element v) := by
  intro fuel rest hfuel hrest
  have hlength : s.length ≤ fuel := by
    simp only [List.length_append] at hfuel
    omega
  have hread := ih fuel (right ++ rest) hlength (hrest.delimited.append_spaces hright)
  have hfront : SpaceFree (s ++ right ++ rest) := by
    rcases hs.exists_cons_of_value with ⟨c, u, rfl, hc⟩
    rintro d ⟨rfl⟩
    exact (opensValue_cases hc).1
  rw [← List.append_assoc] at hread
  exact padded_append hleft hright hfront hrest.spaceFree hread

theorem readsAs_pair {left key right t : Text} {v : Value} (hleft : Spaces left)
    (hkey : SpellsString key t) (hright : Spaces right) (ih : ReadsAs s (.element v)) :
    ReadsAs (left ++ key ++ right ++ ':' :: s) (.member (t, v)) := by
  intro fuel rest hfuel hrest
  simp only [List.length_append, List.length_cons] at hfuel
  have hcolon : SpaceFree (':' :: (s ++ rest)) := by
    rintro c ⟨rfl⟩
    rfl
  have hfuel : key.length < fuel + 1 := by omega
  have hread := readString_append hkey (right ++ ':' :: (s ++ rest)) hfuel
  have hfront : SpaceFree (key ++ right ++ ':' :: (s ++ rest)) := by
    rcases hkey with ⟨inner, rfl, -⟩
    rintro c ⟨rfl⟩
    rfl
  rw [← List.append_assoc] at hread
  have hpadded := padded_append hleft hright hfront hcolon hread
  have hvalue := ih fuel rest (by omega) hrest
  have hassoc : left ++ key ++ right ++ ':' :: s ++ rest =
      left ++ key ++ right ++ ':' :: (s ++ rest) := by simp
  rw [readMember, hassoc, hpadded]
  simp [hvalue]

/-- Whatever part of a text the grammar sees, the reader of such parts finds it. -/
theorem Spells.readsAs {part : Part} (h : Spells s part) : ReadsAs s part := by
  induction h with
  | null => exact fun _ _ _ _ => rfl
  | yes => exact fun _ _ _ _ => rfl
  | no => exact fun _ _ _ _ => rfl
  | number hnumber => exact fun _ _ _ hrest => readValue_of_number hnumber hrest
  | string hstring =>
      intro fuel rest hfuel _
      rcases hstring with ⟨inner, rfl, hinner⟩
      rcases exists_fuel_inside hfuel with ⟨less, rfl, hless⟩
      simp [readValue, readChars_append hinner rest (Nat.lt_succ_of_le hless)]
  | emptyArray hspace =>
      intro fuel rest _ _
      have hnone := bracketed_empty (padded (readValue fuel)) fuel
        (rfl : isSpace ']' = false) hspace rest
      simp [readValue, hnone]
  | array hs ih => exact readsAs_array hs ih
  | emptyObject hspace =>
      intro fuel rest _ _
      have hnone := bracketed_empty (readMember (readValue fuel) fuel) fuel
        (rfl : isSpace '}' = false) hspace rest
      simp [readValue, hnone]
  | object hs ih => exact readsAs_object hs ih
  | element hleft hs hright ih => exact readsAs_element hleft hs hright ih
  | item _ ih =>
      intro fuel count rest hfuel _
      exact separated_last count (by decide) (ih fuel _ hfuel (closes_cons (by decide) rest))
  | @items s behind v vs _ _ ih ihs =>
      intro fuel count rest hfuel hcount
      simp only [List.length_append, List.length_cons] at hfuel
      refine separated_cons hcount (ih fuel _ (by omega) (closes_cons (by decide) _)) ?_
      intro less hless
      exact ihs fuel less rest (by omega) hless
  | pair hleft hkey hright _ ih => exact readsAs_pair hleft hkey hright ih
  | member _ ih =>
      intro fuel count rest hfuel _
      exact separated_last count (by decide) (ih fuel _ hfuel (closes_cons (by decide) rest))
  | @members s behind m ms _ _ ih ihs =>
      intro fuel count rest hfuel hcount
      simp only [List.length_append, List.length_cons] at hfuel
      refine separated_cons hcount (ih fuel _ (by omega) (closes_cons (by decide) _)) ?_
      intro less hless
      exact ihs fuel less rest (by omega) hless

/-- The reader finds the value of every JSON text. -/
theorem read_of_isTextOf {v : Value} (h : IsTextOf t v) : read t = some v := by
  have hread : padded (readValue (t.length + 1)) (t ++ []) = some (v, []) :=
    Spells.readsAs h t.length [] (Nat.le_refl _) closes_nil
  rw [List.append_nil] at hread
  simp [read, hread]

example :
    read "[ 1.50e-2,\t\"a\\/\",\x7b\"k\":null\x7d]\n".toList =
      some (.array [.number 150 (-4), .string "a/".toList, .object [("k".toList, .null)]]) := by
  cbv

/-- A text says one thing at most. -/
theorem isTextOf_unique {v w : Value} (hv : IsTextOf t v) (hw : IsTextOf t w) : v = w := by
  have hsame : some v = some w := (read_of_isTextOf hv).symm.trans (read_of_isTextOf hw)
  exact Option.some.inj hsame

end Json

end ImportLint
