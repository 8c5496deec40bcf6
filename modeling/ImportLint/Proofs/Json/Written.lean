import ImportLint.Proofs.Json.Grammar
import ImportLint.Proofs.Toml.Strings
import Mathlib.Data.List.Forall2

/-!
# What is written is JSON

The writer lays a value out with one item a line and escapes all that is not plain ASCII. Its text
is one of the spellings of the value (`isTextOf_write`), and it is ASCII throughout
(`isAscii_write`).

Each escape is one of the three that the grammar has: a letter, a unit, or a pair of units for a
character beyond the basic plane. The line breaks and the indentation of the layout are white space
around elements and members.
-/

namespace ImportLint

namespace Json

open Text

variable {s : Text} {c : Char} {n depth : Nat}

/-! ## The value that is written -/

mutual

def value : Json → Value
  | text t => .string t
  | int n => .number n 0
  | array items => .array (values items)
  | object fields => .object (members fields)

def values : List Json → List Value
  | [] => []
  | item :: rest => value item :: values rest

def members : List (Text × Json) → List (Text × Value)
  | [] => []
  | (key, item) :: rest => (key, value item) :: members rest

end

theorem values_eq_map (items : List Json) : values items = items.map value := by
  induction items with
  | nil => rfl
  | cons item rest ih => rw [values, ih, List.map_cons]

theorem members_eq_map (fields : List (Text × Json)) :
    members fields = fields.map fun (key, item) => (key, value item) := by
  induction fields with
  | nil => rfl
  | cons field rest ih => rw [members, ih, List.map_cons]

theorem writeItems_eq_map (depth : Nat) (items : List Json) :
    writeItems depth items = items.map (writeAt depth) := by
  induction items with
  | nil => rfl
  | cons item rest ih => rw [writeItems, ih, List.map_cons]

theorem writeFields_eq_map (depth : Nat) (fields : List (Text × Json)) :
    writeFields depth fields = fields.map fun (key, item) =>
      writeText key ++ ": ".toList ++ writeAt depth item := by
  induction fields with
  | nil => rfl
  | cons field rest ih => rw [writeFields, ih, List.map_cons]

/-- To prove something of every value, prove it of texts and numbers, and of lists and objects of
values for which it is known. -/
theorem part_induction {motive : Json → Prop} (text : ∀ t, motive (.text t))
    (int : ∀ n, motive (.int n))
    (array : ∀ items, (∀ item ∈ items, motive item) → motive (.array items))
    (object : ∀ fields, (∀ field ∈ fields, motive field.2) → motive (.object fields))
    (json : Json) :
    motive json := by
  match json with
  | .text t => exact text t
  | .int n => exact int n
  | .array items =>
      refine array items ?_
      intro item hitem
      exact part_induction text int array object item
  | .object fields =>
      refine object fields ?_
      intro field hfield
      exact part_induction text int array object field.2
termination_by sizeOf json
decreasing_by
  · have := List.sizeOf_lt_of_mem hitem
    simp only [Json.array.sizeOf_spec]
    omega
  · have hfield := List.sizeOf_lt_of_mem hfield
    rcases field with ⟨key, item⟩
    simp only [Json.object.sizeOf_spec, Prod.mk.sizeOf_spec] at hfield ⊢
    omega

/-! ## Strings -/

theorem spellsUnit_unitEscape (h : n < 0x10000) : SpellsUnit (unitEscape n) n := by
  refine ⟨hex 4 n, rfl, length_hex 4 n, ?_⟩
  have hfour : n < 16 ^ 4 := h
  rw [Toml.hexValue?_hex, Nat.mod_eq_of_lt hfour]

/-- A character beyond the basic plane is the one that its two units combine to. -/
theorem spellsChar_pair (h : 0x10000 ≤ c.toNat) :
    SpellsChar (unitEscape (0xD800 + (c.toNat - 0x10000) / 0x400) ++
      unitEscape (0xDC00 + (c.toNat - 0x10000) % 0x400)) c := by
  have hvalid : c.toNat < 0xD800 ∨ 0xDFFF < c.toNat ∧ c.toNat < 0x110000 := c.valid
  have hcode : c.toNat = combine (0xD800 + (c.toNat - 0x10000) / 0x400)
      (0xDC00 + (c.toNat - 0x10000) % 0x400) := by
    unfold combine
    omega
  refine .pair (spellsUnit_unitEscape (by omega)) (spellsUnit_unitEscape (by omega)) ?_ ?_ hcode
  · simp only [isHighSurrogate, Bool.and_eq_true, decide_eq_true_eq]
    omega
  · simp only [isLowSurrogate, Bool.and_eq_true, decide_eq_true_eq]
    omega

/-- The four ways in which a character is written: by a letter, as itself, by its unit, or by its
two units. -/
theorem escapeChar_cases (c : Char) :
    (∃ letter, (letter, c) ∈ shortEscapes ∧ escapeChar c = ['\\', letter]) ∨
      (0x20 ≤ c.toNat ∧ c.toNat < 0x7F ∧ c ≠ '"' ∧ c ≠ '\\' ∧ escapeChar c = [c]) ∨
      (c.toNat < 0x10000 ∧ escapeChar c = unitEscape c.toNat) ∨
      (0x10000 ≤ c.toNat ∧ escapeChar c =
        unitEscape (0xD800 + (c.toNat - 0x10000) / 0x400) ++
          unitEscape (0xDC00 + (c.toNat - 0x10000) % 0x400)) := by
  by_cases hshort : c ∈ ['"', '\\', '\n', '\r', '\t', '\x0c', '\x08']
  · refine Or.inl ?_
    simp only [List.mem_cons, List.not_mem_nil, or_false] at hshort
    rcases hshort with rfl | rfl | rfl | rfl | rfl | rfl | rfl
    · exact ⟨'"', by decide, rfl⟩
    · exact ⟨'\\', by decide, rfl⟩
    · exact ⟨'n', by decide, rfl⟩
    · exact ⟨'r', by decide, rfl⟩
    · exact ⟨'t', by decide, rfl⟩
    · exact ⟨'f', by decide, rfl⟩
    · exact ⟨'b', by decide, rfl⟩
  · refine Or.inr ?_
    simp only [List.mem_cons, List.not_mem_nil, or_false, not_or] at hshort
    rcases hshort with ⟨hquote, hbackslash, hn, hr, ht, hf, hb⟩
    -- The code points of the last two are asked for by number.
    have hf : c.toNat ≠ 0x0C := fun h => hf (Char.toNat_inj.1 h)
    have hb : c.toNat ≠ 0x08 := fun h => hb (Char.toNat_inj.1 h)
    simp only [escapeChar, if_neg hquote, if_neg hbackslash, if_neg hn, if_neg hr, if_neg ht,
      if_neg hf, if_neg hb]
    split
    · next h =>
      simp only [Bool.and_eq_true, decide_eq_true_eq] at h
      exact Or.inl ⟨h.1, h.2, hquote, hbackslash, rfl⟩
    · split
      · next h => exact Or.inr (Or.inl ⟨h, rfl⟩)
      · next h => exact Or.inr (Or.inr ⟨Nat.le_of_not_lt h, rfl⟩)

theorem spellsChar_escapeChar (c : Char) : SpellsChar (escapeChar c) c := by
  rcases escapeChar_cases c with ⟨letter, hletter, heq⟩ | ⟨hlow, -, hquote, hbackslash, heq⟩ |
    ⟨hunit, heq⟩ | ⟨hbeyond, heq⟩
  · rw [heq]
    exact .short hletter
  · rw [heq]
    exact .plain hlow hquote hbackslash
  · rw [heq]
    exact .unit (spellsUnit_unitEscape hunit)
  · rw [heq]
    exact spellsChar_pair hbeyond

theorem spellsString_writeText (t : Text) : SpellsString (writeText t) t := by
  refine ⟨t.flatMap escapeChar, rfl, ?_⟩
  induction t with
  | nil => exact .nil
  | cons c t ih => exact .cons (spellsChar_escapeChar c) ih

/-! ## Numbers -/

/-- The digits of a number other than zero do not start with zero. -/
theorem eq_zero_of_head?_toDigits (n : Nat) : (Nat.toDigits 10 n).head? = some '0' → n = 0 := by
  induction n using Nat.strongRecOn with
  | ind n ih =>
      intro h
      by_cases hn : n < 10
      · rw [Nat.toDigits_of_lt_base hn] at h
        have hdigit : Nat.digitChar n = '0' := by simpa using h
        have hall : ∀ k < 10, Nat.digitChar k = '0' → k = 0 := by decide
        exact hall n hn hdigit
      · rw [Nat.toDigits_of_base_le (by decide) (by omega),
          List.head?_append_of_ne_nil _ Nat.toDigits_ne_nil] at h
        have hzero := ih (n / 10) (by omega) h
        omega

theorem isWhole_ofNat (n : Nat) : IsWhole (ofNat n) := by
  refine ⟨⟨Nat.toDigits_ne_nil, ?_⟩, ?_⟩
  · intro c hc
    exact Nat.isDigit_of_mem_toDigits (by decide) (by decide) hc
  · intro hzero
    rw [eq_zero_of_head?_toDigits n hzero]
    rfl

theorem spellsUnsigned_ofNat (n : Nat) : SpellsUnsigned (ofNat n) n 0 := by
  have hvalue : natOf (ofNat n) = n := Nat.ofDigitChars_ten_toDigits
  have hspelled := SpellsUnsigned.mk (isWhole_ofNat n) .none .none
  simpa [hvalue] using hspelled

theorem spellsNumber_ofInt (n : Int) : SpellsNumber (ofInt n) n 0 := by
  cases n with
  | ofNat n => exact .plain (spellsUnsigned_ofNat n)
  | negSucc n => exact .minus (spellsUnsigned_ofNat (n + 1))

/-! ## Layout -/

theorem spaces_newline (depth : Nat) : Spaces (newline depth) := by
  intro c hc
  rcases List.mem_cons.1 hc with rfl | hc
  · rfl
  · rw [List.eq_of_mem_replicate hc]
    rfl

theorem spaces_nil : Spaces [] := by
  intro c hc
  cases hc

/-- Parts that are joined by commas and the space in front of each are the inside of brackets. It
does not matter whether the parts are items or members, as long as a single one and one more in
front of others are such an inside. -/
theorem spells_join {α : Type} {single : α → Part} {several : List α → Part}
    (hone : ∀ {s x}, Spells s (single x) → Spells s (several [x]))
    (hmore : ∀ {s t x xs}, Spells s (single x) → Spells t (several xs) →
      Spells (s ++ ',' :: t) (several (x :: xs)))
    {left right : Text} (hright : Spaces right) {parts : List Text} {xs : List α}
    (h : List.Forall₂ (fun s x => ∀ behind, Spaces behind → Spells (left ++ s ++ behind) (single x))
      parts xs) :
    parts ≠ [] → Spells (left ++ join (',' :: left) parts ++ right) (several xs) := by
  induction h with
  | nil =>
      intro hne
      exact absurd rfl hne
  | @cons s x parts xs hs htail ih =>
      intro _
      cases htail with
      | nil => simpa [join] using hone (hs right hright)
      | @cons next _ others _ _ _ =>
          have hfirst := hs [] spaces_nil
          have hothers := ih (List.cons_ne_nil next others)
          have hboth := hmore hfirst hothers
          have hlayout : left ++ s ++ [] ++ ',' ::
              (left ++ join (',' :: left) (next :: others) ++ right) =
                left ++ join (',' :: left) (s :: next :: others) ++ right := by
            simp [join, List.intercalate_cons_cons]
          rwa [hlayout] at hboth

theorem block_of_ne_nil {opening closing : Char} {parts : List Text} (h : parts ≠ []) :
    block depth opening closing parts =
      opening :: (newline (depth + 1) ++ join (',' :: newline (depth + 1)) parts ++
        newline depth) ++ [closing] := by
  cases parts with
  | nil => exact absurd rfl h
  | cons s parts => rfl

/-- The line of a field: the blank behind the colon belongs to the value. -/
theorem spells_field {key : Text} {v : Value} (hs : Spells s (.value v)) {left right : Text}
    (hleft : Spaces left) (hright : Spaces right) :
    Spells (left ++ (writeText key ++ ": ".toList ++ s) ++ right) (.member (key, v)) := by
  have hblank : Spaces [' '] := by
    intro c hc
    rw [List.mem_singleton.1 hc]
    rfl
  have hmember :=
    Spells.pair hleft (spellsString_writeText key) spaces_nil (.element hblank hs hright)
  simpa using hmember

theorem spells_writeAt (json : Json) :
    ∀ depth, Spells (writeAt depth json) (.value json.value) := by
  induction json using part_induction with
  | text t =>
      intro depth
      exact .string (spellsString_writeText t)
  | int n =>
      intro depth
      exact .number (spellsNumber_ofInt n)
  | array items ih =>
      intro depth
      rw [writeAt, value, values_eq_map, writeItems_eq_map]
      by_cases hne : items = []
      · subst hne
        exact .emptyArray spaces_nil
      · rw [block_of_ne_nil (by simpa using hne)]
        refine .array (spells_join .item .items (spaces_newline depth) ?_ (by simpa using hne))
        rw [List.forall₂_map_left_iff, List.forall₂_map_right_iff, List.forall₂_same]
        intro item hitem behind hbehind
        exact .element (spaces_newline (depth + 1)) (ih item hitem (depth + 1)) hbehind
  | object fields ih =>
      intro depth
      rw [writeAt, value, members_eq_map, writeFields_eq_map]
      by_cases hne : fields = []
      · subst hne
        exact .emptyObject spaces_nil
      · rw [block_of_ne_nil (by simpa using hne)]
        refine .object (spells_join .member .members (spaces_newline depth) ?_ (by simpa using hne))
        rw [List.forall₂_map_left_iff, List.forall₂_map_right_iff, List.forall₂_same]
        intro field hfield behind hbehind
        exact spells_field (ih field hfield (depth + 1)) (spaces_newline (depth + 1)) hbehind

/-- What is written is JSON and says the value. -/
theorem isTextOf_write (json : Json) : IsTextOf json.write json.value := by
  have hpadded := Spells.element spaces_nil (spells_writeAt json 0) spaces_nil
  simpa [IsTextOf, write] using hpadded

/-! ## ASCII -/

theorem notMem_hex (hc : 128 ≤ c.toNat) (width n : Nat) : c ∉ hex width n := by
  have hdigit : ∀ k < 16, (Nat.digitChar k).toNat < 128 := by decide
  intro hm
  rcases exists_of_mem_hex hm with ⟨k, hk, rfl⟩
  exact Nat.not_le.2 (hdigit k hk) hc

theorem notMem_unitEscape (hc : 128 ≤ c.toNat) (n : Nat) : c ∉ unitEscape n := by
  intro hm
  rcases List.mem_cons.1 hm with rfl | hm
  · exact absurd hc (by decide)
  · rcases List.mem_cons.1 hm with rfl | hm
    · exact absurd hc (by decide)
    · exact notMem_hex hc 4 n hm

theorem notMem_escapeChar (hc : 128 ≤ c.toNat) (d : Char) : c ∉ escapeChar d := by
  rcases escapeChar_cases d with ⟨letter, hletter, heq⟩ | ⟨-, hhigh, -, -, heq⟩ | ⟨-, heq⟩ |
    ⟨-, heq⟩
  · have hlow : ∀ escape ∈ shortEscapes, escape.1.toNat < 128 := by decide
    have hletter := hlow (letter, d) hletter
    rw [heq]
    intro hm
    rcases List.mem_pair.1 hm with rfl | rfl
    · exact absurd hc (by decide)
    · exact absurd hletter (Nat.not_lt.2 hc)
  · rw [heq, List.mem_singleton]
    rintro rfl
    omega
  · rw [heq]
    exact notMem_unitEscape hc _
  · rw [heq, List.mem_append, not_or]
    exact ⟨notMem_unitEscape hc _, notMem_unitEscape hc _⟩

theorem notMem_writeText (hc : 128 ≤ c.toNat) (t : Text) : c ∉ writeText t := by
  have hquote : c ≠ '"' := by
    rintro rfl
    exact absurd hc (by decide)
  have hinner : c ∉ t.flatMap escapeChar := by
    intro hm
    rcases List.mem_flatMap.1 hm with ⟨d, -, hd⟩
    exact notMem_escapeChar hc d hd
  simp [writeText, hquote, hinner]

theorem notMem_ofInt (hc : 128 ≤ c.toNat) (n : Int) : c ∉ ofInt n := by
  have hdigits : ∀ k, c ∉ ofNat k := by
    intro k hm
    have hdigit := Nat.isDigit_of_mem_toDigits (by decide) (by decide) hm
    simp only [Char.isDigit, Bool.and_eq_true, decide_eq_true_eq, ge_iff_le,
      UInt32.le_iff_toNat_le] at hdigit
    have hlow : c.toNat ≤ 57 := hdigit.2
    omega
  cases n with
  | ofNat n => exact hdigits n
  | negSucc n =>
      have hsign : c ≠ '-' := by
        rintro rfl
        exact absurd hc (by decide)
      simp [ofInt, hsign, hdigits]

/-- Brackets, commas and line breaks are ASCII, so a block is if its parts are. -/
theorem notMem_block (hc : 128 ≤ c.toNat) {opening closing : Char} (hopening : opening.toNat < 128)
    (hclosing : closing.toNat < 128) {parts : List Text} (hparts : ∀ part ∈ parts, c ∉ part) :
    c ∉ block depth opening closing parts := by
  have hne : ∀ d : Char, d.toNat < 128 → c ≠ d := by
    rintro d hd rfl
    omega
  have hspace : ∀ k, c ∉ newline k := by
    intro k
    simp [newline, hne]
  cases parts with
  | nil => simp [block, hne, hopening, hclosing]
  | cons part parts =>
      have hjoin : c ∉ join (',' :: newline (depth + 1)) (part :: parts) :=
        notMem_join (by simp [hne, hspace]) hparts
      simp [block, hne, hopening, hclosing, hspace, hjoin]

theorem notMem_writeAt (hc : 128 ≤ c.toNat) (json : Json) : ∀ depth, c ∉ writeAt depth json := by
  induction json using part_induction with
  | text t =>
      intro depth
      exact notMem_writeText hc t
  | int n =>
      intro depth
      exact notMem_ofInt hc n
  | array items ih =>
      intro depth
      rw [writeAt, writeItems_eq_map]
      apply notMem_block hc (by decide) (by decide)
      intro part hpart
      rcases List.mem_map.1 hpart with ⟨item, hitem, rfl⟩
      exact ih item hitem (depth + 1)
  | object fields ih =>
      intro depth
      rw [writeAt, writeFields_eq_map]
      apply notMem_block hc (by decide) (by decide)
      intro part hpart
      rcases List.mem_map.1 hpart with ⟨⟨key, item⟩, hfield, rfl⟩
      have hcolon : c ∉ ": ".toList := by
        intro hm
        rcases List.mem_pair.1 hm with rfl | rfl <;> exact absurd hc (by decide)
      have hvalue : c ∉ writeAt (depth + 1) item := ih (key, item) hfield (depth + 1)
      simp only [List.mem_append, not_or]
      exact ⟨⟨notMem_writeText hc key, hcolon⟩, hvalue⟩

/-- What is written is plain ASCII. -/
theorem isAscii_write {json : Json} (h : c ∈ json.write) : c.toNat < 128 := by
  by_contra hc
  exact notMem_writeAt (Nat.le_of_not_lt hc) json 0 h

end Json

end ImportLint
