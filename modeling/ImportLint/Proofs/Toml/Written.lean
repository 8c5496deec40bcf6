import ImportLint.Proofs.Toml.Strings
import ImportLint.Toml.Document

/-!
# Writing and reading lines

Two kinds of lines are written: a header with a bare key in brackets, and a bare key with an array of
strings. In front of any text, the first opens the table and the second puts the strings under the key
(`statement_writeHeader`, `statement_writeEntry`).
-/

namespace ImportLint

namespace Toml

open Text

variable {c d e : Char} {key rest s t : Text} {upper : Bool} {fuel : Nat} {item : Value}

/-! ## Arrays of strings -/

theorem value_writeString (upper : Bool) (t : Text) (hfuel : 0 < fuel)
    (hrest : rest.head? ≠ some '"') :
    value fuel (writeString upper t ++ rest) = .ok (.text t, rest) := by
  obtain ⟨fuel, rfl⟩ := Nat.exists_eq_add_one.2 hfuel
  have hopen : writeString upper t ++ rest = '"' :: (t.flatMap (writeChar upper) ++ '"' :: rest) := by
    simp [writeString]
  rw [hopen, value, basic?_writeChars]
  · rfl
  · -- Three quotes in a row would be the quotes of an empty string and one more behind them.
    intro more hmore
    have hfirst := head?_writeChars_ne_quote upper t
    cases hchars : t.flatMap (writeChar upper) with
    | nil =>
        rw [hchars, List.nil_append, List.cons.injEq] at hmore
        exact hrest (by rw [hmore.2, List.head?_cons])
    | cons c chars =>
        rw [hchars, List.cons_append, List.cons.injEq] at hmore
        exact hfirst (by rw [hchars, hmore.1, List.head?_cons])

theorem skipFiller?_cons (hspace : isSpaceOrBreak c = false) (hcomment : c ≠ '#')
    (t : Text) : skipFiller? false (c :: t) = some (c :: t) := by
  simp [skipFiller?, hspace, hcomment]

/-- The last item of an array. -/
theorem items_last (hs : s.head? ≠ some ']') (h : value fuel s = .ok (item, ']' :: rest)) :
    items (fuel + 1) s = .ok ([item], rest) := by
  rw [items, h]
  · rfl
  · rintro more rfl
    exact hs rfl

/-- An item with more of them behind it. -/
theorem items_cons (hs : s.head? ≠ some ']')
    (h : value fuel s = .ok (item, ',' :: ' ' :: '"' :: rest)) :
    items (fuel + 1) s =
      (items fuel ('"' :: rest)).map fun (more, rest) => (item :: more, rest) := by
  rw [items, h]
  · rfl
  · rintro more rfl
    exact hs rfl

def writeArray (upper : Bool) (ts : List Text) : Text :=
  '[' :: join ", ".toList (ts.map (writeString upper)) ++ [']']

/-- Strings in a row start with the quote of the first one. -/
theorem exists_joinStrings_eq_cons (upper : Bool) (t : Text) (ts : List Text) :
    ∃ more, join ", ".toList ((t :: ts).map (writeString upper)) = '"' :: more :=
  ⟨_, List.intercalate_cons_cons_left⟩

theorem items_joinStrings (upper : Bool) (ts : List Text) (rest : Text) (hfuel : ts.length < fuel) :
    items fuel (join ", ".toList (ts.map (writeString upper)) ++ ']' :: rest) =
      .ok (ts.map .text, rest) := by
  -- Each item takes one unit of fuel, and one more is left for what ends the array.
  induction ts generalizing fuel with
  | nil =>
      obtain ⟨fuel, rfl⟩ := Nat.exists_eq_add_one.2 hfuel
      rfl
  | cons t ts ih =>
      obtain ⟨fuel, rfl⟩ := Nat.exists_eq_add_one.2 (Nat.zero_lt_of_lt hfuel)
      have hfuel : ts.length < fuel := Nat.lt_of_succ_lt_succ hfuel
      have hstart : ∀ behind, (writeString upper t ++ behind).head? ≠ some ']' := by
        simp [writeString]
      have hvalue : ∀ behind : Text, behind.head? ≠ some '"' →
          value fuel (writeString upper t ++ behind) = .ok (.text t, behind) :=
        fun behind => value_writeString upper t (Nat.zero_lt_of_lt hfuel)
      cases ts with
      | nil => simpa [join] using items_last (hstart _) (hvalue (']' :: rest) (by simp))
      | cons next ts =>
          have hjoin : join ", ".toList ((t :: next :: ts).map (writeString upper)) =
              writeString upper t ++ ',' :: ' ' ::
                join ", ".toList ((next :: ts).map (writeString upper)) :=
            join_cons_cons ..
          -- The blank behind the comma is skipped up to the quote of the next item.
          rcases exists_joinStrings_eq_cons upper next ts with ⟨more, hmore⟩
          have hitems := items_cons (hstart _)
            (hvalue (',' :: ' ' :: '"' :: (more ++ ']' :: rest)) (by simp))
          rw [← List.cons_append, ← hmore, ih hfuel] at hitems
          rw [hjoin, List.append_assoc, List.cons_append, List.cons_append, hitems]
          rfl

theorem value_writeArray (upper : Bool) (ts : List Text) (rest : Text) (hfuel : ts.length < fuel) :
    value (fuel + 1) (writeArray upper ts ++ rest) = .ok (.array (ts.map .text), rest) := by
  -- Behind the bracket comes a quote or the other bracket, so nothing is skipped.
  have hskip : skipFiller? false (join ", ".toList (ts.map (writeString upper)) ++ ']' :: rest) =
      some (join ", ".toList (ts.map (writeString upper)) ++ ']' :: rest) := by
    cases ts with
    | nil => exact skipFiller?_cons (by decide) (by decide) rest
    | cons t ts =>
        rcases exists_joinStrings_eq_cons upper t ts with ⟨more, hmore⟩
        rw [hmore]
        exact skipFiller?_cons (by decide) (by decide) _
  rw [writeArray, List.append_assoc, List.singleton_append, List.cons_append, value, hskip]
  simp only [items_joinStrings upper ts rest hfuel, Except.map]

theorem length_le_length_writeArray (upper : Bool) (ts : List Text) :
    ts.length ≤ (writeArray upper ts).length := by
  have hseparator : ", ".toList ≠ [] := by decide
  have hjoin := length_le_length_join hseparator (ts.map (writeString upper))
  rw [List.length_map] at hjoin
  simp only [writeArray, List.length_append, List.length_cons]
  omega

/-! ## Bare keys -/

def isBareKey (key : Text) : Bool := !key.isEmpty && key.all isBare

theorem exists_of_isBareKey (h : isBareKey key = true) :
    ∃ c more, key = c :: more ∧ isBare c = true := by
  cases key with
  | nil => cases h
  | cons c more =>
      simp only [isBareKey, List.all_cons, Bool.and_eq_true] at h
      exact ⟨c, more, rfl, h.2.1⟩

theorem isSpaceOrBreak_of_isBare (h : isBare c = true) : isSpaceOrBreak c = false := by
  simp only [isSpaceOrBreak, isSpace, Bool.or_eq_false_iff, beq_eq_false_iff_ne]
  refine ⟨⟨?_, ?_⟩, ?_⟩
  all_goals
    rintro rfl
    exact absurd h (by decide)

/-- What starts with a bare key starts with none of the marks. -/
theorem append_ne_of_isBareKey (hkey : isBareKey key = true) (hd : isBare d = false) (s t : Text) :
    key ++ s ≠ d :: t := by
  rcases exists_of_isBareKey hkey with ⟨c, more, rfl, hc⟩
  intro h
  rw [(List.cons.inj h).1, hd] at hc
  cases hc

theorem skipSpaces_cons (h : isSpaceOrBreak c = false) (t : Text) :
    skipSpaces (c :: t) = c :: t := by
  simp only [isSpaceOrBreak, Bool.or_eq_false_iff] at h
  exact List.dropWhile_cons_of_neg (by simp [h.1])

theorem keyPart?_bare (hkey : isBareKey key = true) (hd : isBare d = false) (rest : Text) :
    keyPart? (key ++ d :: rest) = some (key, d :: rest) := by
  have hall : ∀ c ∈ key, isBare c = true := by
    simp only [isBareKey, Bool.and_eq_true, List.all_eq_true] at hkey
    exact hkey.2
  have htake : (key ++ d :: rest).takeWhile isBare = key := by
    rw [List.takeWhile_append_of_pos hall, List.takeWhile_cons_of_neg (by simp [hd]), List.append_nil]
  have hdrop : (key ++ d :: rest).dropWhile isBare = d :: rest := by
    rw [List.dropWhile_append_of_pos hall, List.dropWhile_cons_of_neg (by simp [hd])]
  have hne : key ≠ [] := by
    rintro rfl
    cases hkey
  rw [keyPart?, htake, hdrop]
  · rw [if_neg (by simpa using hne)]
  · exact append_ne_of_isBareKey hkey (by decide) _
  · exact append_ne_of_isBareKey hkey (by decide) _

theorem key?_bare (hkey : isBareKey key = true) (hd : isBare d = false)
    (hskip : skipSpaces (d :: rest) = e :: t) (he : e ≠ '.') :
    key? (key ++ d :: rest).length (key ++ d :: rest) = some ([key], e :: t) := by
  have hfuel : (key ++ d :: rest).length = (key ++ rest).length + 1 := by
    rw [List.length_append, List.length_append, List.length_cons, Nat.add_assoc]
  rw [hfuel, key?, keyPart?_bare hkey hd]
  simp only [hskip]
  split
  · next h => exact absurd (List.cons.inj h).1 he
  · rfl

/-! ## Lines -/

def writeEntry (upper : Bool) (entry : Text × List Text) : Text :=
  entry.1 ++ " = ".toList ++ writeArray upper entry.2

/-- Control characters stand nowhere in an entry. -/
theorem notMem_writeEntry {entry : Text × List Text} (hc : c.toNat ≤ 0x1F) (hkey : c ∉ entry.1) :
    c ∉ writeEntry upper entry := by
  have hmark : ∀ marks : Text, (marks.all fun mark => 0x1F < mark.toNat) = true → c ∉ marks := by
    intro marks hmarks hmem
    exact Nat.not_le.2 (of_decide_eq_true (List.all_eq_true.1 hmarks c hmem)) hc
  have hstrings : c ∉ join ", ".toList (entry.2.map (writeString upper)) := by
    refine notMem_join (hmark _ (by decide)) ?_
    intro s hs
    rcases List.mem_map.1 hs with ⟨t, -, rfl⟩
    exact notMem_writeString hc upper t
  rw [writeEntry, writeArray, ← List.singleton_append, List.append_assoc, List.append_assoc]
  simp only [List.mem_append, not_or]
  exact ⟨hkey, hmark _ (by decide), hmark _ (by decide), hstrings, hmark _ (by decide)⟩

def writeHeader (key : Text) : Text := '[' :: key ++ [']']

theorem statement_writeEntry (hkey : isBareKey key = true) (upper : Bool) (ts : List Text)
    (doc : Document) (rest : Text) :
    doc.statement (writeEntry upper (key, ts) ++ rest) =
      orMalformed ((doc.assign? [key] (.array (ts.map .text))).map fun doc => (doc, rest)) := by
  have hentry : writeEntry upper (key, ts) ++ rest =
      key ++ ' ' :: '=' :: ' ' :: (writeArray upper ts ++ rest) := by
    simp [writeEntry]
  have hequals : keyEquals? (key ++ ' ' :: '=' :: ' ' :: (writeArray upper ts ++ rest)) =
      some ([key], writeArray upper ts ++ rest) := by
    rw [keyEquals?, key?_bare hkey (by decide) rfl (by decide)]
    rfl
  -- An array is longer than it has strings, so the fuel that a statement has is enough for it.
  have hvalue : value (2 * (writeArray upper ts ++ rest).length + 2) (writeArray upper ts ++ rest) =
      .ok (.array (ts.map .text), rest) := by
    have hlength := length_le_length_writeArray upper ts
    refine value_writeArray upper ts rest ?_
    rw [List.length_append]
    omega
  rw [hentry, Document.statement, hequals]
  · simp only [hvalue]
  · exact append_ne_of_isBareKey hkey (by decide) _
  · intro more
    exact append_ne_of_isBareKey hkey (by decide) _ _
  · exact append_ne_of_isBareKey hkey (by decide) _

theorem statement_writeHeader (hkey : isBareKey key = true) (doc : Document) (rest : Text) :
    doc.statement (writeHeader key ++ rest) =
      orMalformed ((doc.settle.openTable? [key]).map fun doc => (doc, rest)) := by
  have hheader : writeHeader key ++ rest = '[' :: (key ++ ']' :: rest) := by simp [writeHeader]
  have hname : key? (key ++ ']' :: rest).length (key ++ ']' :: rest) = some ([key], ']' :: rest) :=
    key?_bare hkey (by decide) rfl (by decide)
  have hskip : skipSpaces (key ++ ']' :: rest) = key ++ ']' :: rest := by
    rcases exists_of_isBareKey hkey with ⟨c, more, rfl, hc⟩
    exact skipSpaces_cons (isSpaceOrBreak_of_isBare hc) _
  rw [hheader, Document.statement, hskip, hname]
  · rfl
  · intro more h
    exact append_ne_of_isBareKey hkey (by decide) _ _ h

end Toml

end ImportLint
