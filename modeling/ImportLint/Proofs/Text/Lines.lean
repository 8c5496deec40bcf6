import ImportLint.Text.Fields
import Mathlib.Data.List.Infix

/-!
# Texts line by line

A text is either one line or a line, a line feed and another text. Most of what the library searches
for stands on one line, so a search of a text is a search of its lines. This module has

* the induction over the pieces between marks, `piece_induction`,
* what follows the last mark,
* `lines` and its inverse, the joining of lines,
* first occurrences of a key, and that those of a key without line feeds are found in one line,
* `hits`, the search for a place where a test holds, which a line feed cuts in two.
-/

namespace ImportLint

namespace Text

variable {s t key line : Text}

/-! ## Pieces between marks -/

/-- To prove something of every text, prove it of a text without the mark, and of such a text put in
front of a mark and of a text for which it is known. -/
theorem piece_induction (mark : Char) {motive : Text → Prop}
    (last : ∀ piece, mark ∉ piece → motive piece)
    (cons : ∀ piece rest, mark ∉ piece → motive rest → motive (piece ++ mark :: rest)) (t : Text) :
    motive t := by
  by_cases h : mark ∈ t
  · obtain ⟨piece, rest, heq, hpiece⟩ := List.eq_append_cons_of_mem h
    have hshorter : rest.length < t.length := by
      rw [heq, List.length_append, List.length_cons]
      omega
    rw [heq]
    exact cons piece rest hpiece (piece_induction mark last cons rest)
  · exact last t h
termination_by t.length

theorem notMem_of_mem_splitOn {mark : Char} {piece : Text} :
    piece ∈ t.splitOn mark → mark ∉ piece := by
  induction t using piece_induction mark with
  | last only h =>
      intro hp
      rw [List.splitOn_eq_singleton h, List.mem_singleton] at hp
      exact hp ▸ h
  | cons first rest h ih =>
      intro hp
      rw [List.splitOn_append_cons_self_of_not_mem h] at hp
      rcases List.mem_cons.1 hp with rfl | hp
      · exact h
      · exact ih hp

/-- Every piece is a stretch of the text that starts at its start or behind a mark, and that ends at
its end or before a mark. -/
theorem exists_of_mem_splitOn {mark : Char} {piece : Text} :
    piece ∈ t.splitOn mark →
      ∃ left right, t = left ++ piece ++ right ∧ (left = [] ∨ ∃ front, left = front ++ [mark]) ∧
        (right = [] ∨ ∃ rest, right = mark :: rest) := by
  induction t using piece_induction mark with
  | last only h =>
      intro hp
      rw [List.splitOn_eq_singleton h, List.mem_singleton] at hp
      exact ⟨[], [], by simp [hp], Or.inl rfl, Or.inl rfl⟩
  | cons first rest h ih =>
      intro hp
      rw [List.splitOn_append_cons_self_of_not_mem h] at hp
      rcases List.mem_cons.1 hp with rfl | hp
      · exact ⟨[], mark :: rest, rfl, Or.inl rfl, Or.inr ⟨rest, rfl⟩⟩
      · rcases ih hp with ⟨left, right, heq, hleft, hright⟩
        refine ⟨first ++ mark :: left, right, by simp [heq], Or.inr ?_, hright⟩
        rcases hleft with rfl | ⟨front, rfl⟩
        · exact ⟨first, rfl⟩
        · exact ⟨first ++ mark :: front, by simp⟩

theorem infix_of_mem_splitOn {mark : Char} {piece : Text} (h : piece ∈ t.splitOn mark) :
    piece <:+: t := by
  rcases exists_of_mem_splitOn h with ⟨left, right, rfl, -, -⟩
  exact List.infix_append left piece right

theorem exists_splitOn_append {mark : Char} {piece right : Text} (h : mark ∉ piece)
    (hright : right = [] ∨ ∃ rest, right = mark :: rest) :
    ∃ more, (piece ++ right).splitOn mark = piece :: more := by
  rcases hright with rfl | ⟨rest, rfl⟩
  · exact ⟨[], by simp [List.splitOn_eq_singleton h]⟩
  · exact ⟨rest.splitOn mark, List.splitOn_append_cons_self_of_not_mem h rest⟩

theorem takeWhile_append_mark (mark : Char) (s t : Text) :
    (s ++ mark :: t).takeWhile (· ≠ mark) = s.takeWhile (· ≠ mark) := by
  induction s with
  | nil => simp
  | cons c s ih =>
      by_cases hc : c = mark
      · simp [hc]
      · simpa [hc] using ih

theorem takeWhile_stretch {mark : Char} {piece rest : Text} (hpiece : mark ∉ piece)
    (hrest : rest = [] ∨ ∃ r, rest = mark :: r) :
    (piece ++ rest).takeWhile (· ≠ mark) = piece := by
  have hfree : ∀ c ∈ piece, decide (c ≠ mark) = true := by
    intro c hc
    simpa using fun h : c = mark => hpiece (h ▸ hc)
  rw [List.takeWhile_append_of_pos hfree]
  rcases hrest with rfl | ⟨r, rfl⟩
  · simp
  · simp

theorem dropWhile_append_mark {mark : Char} (hs : mark ∉ s) (t : Text) :
    (s ++ mark :: t).dropWhile (· ≠ mark) = mark :: t := by
  have hskip : ∀ c ∈ s, decide (c ≠ mark) = true := by
    intro c hc
    simpa using fun h : c = mark => hs (h ▸ hc)
  rw [List.dropWhile_append_of_pos hskip]
  simp

/-! ## After the last mark -/

theorem afterLast_suffix (mark : Char) (t : Text) : afterLast mark t <:+ t := by
  have h : t.reverse.takeWhile (· ≠ mark) <+: t.reverse := List.takeWhile_prefix _
  rw [← List.reverse_suffix, List.reverse_reverse] at h
  exact h

theorem notMem_afterLast (mark : Char) (t : Text) : mark ∉ afterLast mark t := by
  intro hm
  have hfree := List.all_eq_true.1 List.all_takeWhile mark (List.mem_reverse.1 hm)
  simp at hfree

theorem afterLast_of_notMem {mark : Char} (h : mark ∉ t) : afterLast mark t = t := by
  have hfree : mark ∉ t.reverse := fun hm => h (List.mem_reverse.1 hm)
  have hall := takeWhile_stretch hfree (Or.inl rfl)
  rw [List.append_nil] at hall
  rw [afterLast, hall, List.reverse_reverse]

theorem afterLast_append_mark (mark : Char) (s t : Text) :
    afterLast mark (s ++ mark :: t) = afterLast mark t := by
  have hrev : (s ++ mark :: t).reverse = t.reverse ++ mark :: s.reverse := by simp
  rw [afterLast, hrev, takeWhile_append_mark, ← afterLast]

/-! ## Lines -/

theorem lines_append_newline (s t : Text) : lines (s ++ '\n' :: t) = lines s ++ lines t :=
  List.splitOn_append_cons_self s t

theorem lines_of_notMem (h : '\n' ∉ line) : lines line = [line] :=
  List.splitOn_eq_singleton h

theorem lines_cons_line (h : '\n' ∉ line) (t : Text) :
    lines (line ++ '\n' :: t) = line :: lines t :=
  List.splitOn_append_cons_self_of_not_mem h t

theorem newline_notMem_of_mem_lines (h : line ∈ lines t) : '\n' ∉ line :=
  notMem_of_mem_splitOn h

theorem join_cons_cons (separator first next : Text) (rest : List Text) :
    join separator (first :: next :: rest) = first ++ (separator ++ join separator (next :: rest)) := by
  simp [join, List.intercalate_cons_cons]

/-- The separators alone make the joined text almost as long as the list is. -/
theorem length_le_length_join {separator : Text} (hne : separator ≠ []) (parts : List Text) :
    parts.length ≤ (join separator parts).length + 1 := by
  induction parts with
  | nil => exact Nat.zero_le _
  | cons first rest ih =>
      cases rest with
      | nil => simp
      | cons next rest =>
          have hseparator : 0 < separator.length := List.length_pos_iff.2 hne
          rw [join_cons_cons, List.length_append, List.length_append, List.length_cons]
          omega

theorem notMem_join {c : Char} {separator : Text} (hsep : c ∉ separator) {ls : List Text} :
    (∀ l ∈ ls, c ∉ l) → c ∉ join separator ls := by
  induction ls with
  | nil =>
      intro _
      exact List.not_mem_nil
  | cons first rest ih =>
      intro h
      have hfirst : c ∉ first := h first List.mem_cons_self
      have hrest := ih fun l hl => h l (List.mem_cons_of_mem first hl)
      cases rest with
      | nil => simpa [join] using hfirst
      | cons next others => simpa [join, hfirst, hsep] using hrest

theorem lines_join {ls : List Text} (hne : ls ≠ []) (h : ∀ line ∈ ls, '\n' ∉ line) :
    lines (join ['\n'] ls) = ls :=
  List.splitOn_intercalate '\n' h hne

/-- A text is known by its lines. -/
theorem lines_injective : Function.Injective lines := by
  intro s t h
  have joined : ∀ u : Text, join ['\n'] (lines u) = u := fun u => List.intercalate_splitOn '\n'
  rw [← joined s, ← joined t, h]

/-! ## First occurrences -/

theorem after?_eq_none_iff {lead : Text} : after? lead t = none ↔ ¬ lead <+: t := by
  rw [Option.eq_none_iff_forall_ne_some]
  constructor
  · rintro h ⟨rest, rfl⟩
    exact h rest (after?_eq_some_iff.2 rfl)
  · intro h rest hrest
    exact h ⟨rest, (after?_eq_some_iff.1 hrest).symm⟩

theorem cut?_eq_none_iff : cut? key t = none ↔ ¬ key <:+: t := by
  induction t with
  | nil =>
      rw [cut?, Option.map_eq_none_iff, after?_eq_none_iff]
      simp
  | cons c t ih =>
      rw [List.infix_cons_iff, not_or, ← ih, ← after?_eq_none_iff, cut?]
      cases h : after? key (c :: t) with
      | none => simp
      | some rest => simp

theorem length_le_of_cut?_eq_some {before rest before' rest' : Text} :
    cut? key t = some (before, rest) → t = before' ++ key ++ rest' →
      before.length ≤ before'.length := by
  induction t generalizing before before' with
  | nil =>
      intro hcut _
      have hnil := List.append_eq_nil_iff.1 (eq_of_cut?_eq_some hcut).symm
      simp [(List.append_eq_nil_iff.1 hnil.1).1]
  | cons c t ih =>
      intro hcut heq
      rw [cut?] at hcut
      split at hcut
      · obtain ⟨rfl, -⟩ := Prod.mk.inj (Option.some.inj hcut)
        exact Nat.zero_le _
      · next hhere =>
        obtain ⟨⟨b, r⟩, hlater, hpair⟩ := Option.map_eq_some_iff.1 hcut
        obtain ⟨rfl, rfl⟩ := Prod.mk.inj hpair
        -- The key is not at the front, so an occurrence is one of the tail.
        cases before' with
        | nil =>
            have hfront : key <+: c :: t := ⟨rest', heq.symm⟩
            exact absurd hfront (after?_eq_none_iff.1 hhere)
        | cons d before' =>
            have hle := ih hlater (List.cons.inj heq).2
            simpa using hle

/-- A text is cut around the occurrence that starts first. -/
theorem cut?_eq_some_iff {before rest : Text} :
    cut? key t = some (before, rest) ↔
      t = before ++ key ++ rest ∧
        ∀ before' rest', t = before' ++ key ++ rest' → before.length ≤ before'.length := by
  constructor
  · intro hcut
    exact ⟨eq_of_cut?_eq_some hcut, fun _ _ => length_le_of_cut?_eq_some hcut⟩
  · rintro ⟨heq, hfirst⟩
    cases hcut : cut? key t with
    | none => exact absurd ⟨before, rest, heq.symm⟩ (cut?_eq_none_iff.1 hcut)
    | some sides =>
        rcases sides with ⟨b, r⟩
        have hother := eq_of_cut?_eq_some hcut
        have hlength : b.length = before.length :=
          Nat.le_antisymm (length_le_of_cut?_eq_some hcut heq) (hfirst b r hother)
        have hsame : b ++ (key ++ r) = before ++ (key ++ rest) := by
          simpa using hother.symm.trans heq
        rcases List.append_inj hsame hlength with ⟨rfl, hbehind⟩
        rw [List.append_cancel_left hbehind]

/-- A key that starts with a mark is found no earlier than the first mark. -/
theorem cut?_mark_append {mark : Char} {before : Text} (h : mark ∉ before) (key rest : Text) :
    cut? (mark :: key) (before ++ mark :: key ++ rest) = some (before, rest) := by
  refine cut?_eq_some_iff.2 ⟨rfl, ?_⟩
  intro before' rest' heq
  by_contra hshort
  -- An earlier occurrence would put the mark inside `before`.
  have hthere : (before ++ mark :: key ++ rest)[before'.length]? = some mark := by
    rw [heq]
    simp
  rw [List.append_assoc, List.getElem?_append_left (Nat.lt_of_not_le hshort)] at hthere
  exact h (List.mem_of_getElem? hthere)

theorem eraseFirst_of_not_occurs (h : ¬ key <:+: t) : eraseFirst key t = t := by
  rw [eraseFirst, cut?_eq_none_iff.2 h]

theorem eraseFirst_self (key : Text) : eraseFirst key key = [] := by
  have hself : after? key key = some [] := after?_eq_some_iff.2 (List.append_nil key).symm
  cases key with
  | nil => rfl
  | cons c key => simp [eraseFirst, cut?, hself]

theorem eraseFirst_sublist (key t : Text) : (eraseFirst key t).Sublist t := by
  rw [eraseFirst]
  split
  · next before rest h =>
    rw [eq_of_cut?_eq_some h, List.append_assoc]
    exact (List.sublist_append_right key rest).append_left before
  · exact List.Sublist.refl t

/-- A key without a mark is read off a text only before the first mark. -/
theorem prefix_append_mark_iff {mark : Char} (hkey : mark ∉ key) :
    key <+: s ++ mark :: t ↔ key <+: s := by
  induction key generalizing s with
  | nil => simp
  | cons p key ih =>
      rcases not_or.1 (List.mem_cons.not.1 hkey) with ⟨hp, hkey⟩
      cases s with
      | nil => simp [List.cons_prefix_cons, Ne.symm hp]
      | cons c s => simp [List.cons_prefix_cons, ih hkey]

/-- A first occurrence stays the first when text is added behind it. -/
theorem cut?_append_of_eq_some {before rest : Text} :
    cut? key s = some (before, rest) → cut? key (s ++ t) = some (before, rest ++ t) := by
  induction s generalizing before with
  | nil =>
      intro h
      obtain ⟨hbefore, rfl⟩ := List.append_eq_nil_iff.1 (eq_of_cut?_eq_some h).symm
      obtain ⟨rfl, rfl⟩ := List.append_eq_nil_iff.1 hbefore
      cases t with
      | nil => rfl
      | cons c t => rfl
  | cons c s ih =>
      intro h
      rw [cut?] at h
      rw [List.cons_append, cut?]
      cases hs : after? key (c :: s) with
      | some r =>
          rw [hs] at h
          obtain ⟨rfl, rfl⟩ := Prod.mk.inj (Option.some.inj h)
          have hst : after? key (c :: (s ++ t)) = some (r ++ t) := by
            rw [after?_eq_some_iff, ← List.cons_append, after?_eq_some_iff.1 hs, List.append_assoc]
          simp only [hst]
      | none =>
          rw [hs] at h
          obtain ⟨⟨b, r⟩, hb, hp⟩ := Option.map_eq_some_iff.1 h
          obtain ⟨rfl, rfl⟩ := Prod.mk.inj hp
          -- An earlier occurrence would end earlier too, so it would not reach into `t`.
          have hlen : key.length ≤ (c :: s).length := by
            have := congrArg List.length (eq_of_cut?_eq_some hb)
            simp only [List.length_append, List.length_cons] at this ⊢
            omega
          have hst : after? key (c :: (s ++ t)) = none := by
            rw [after?_eq_none_iff] at hs ⊢
            intro hpre
            exact hs (List.prefix_of_prefix_length_le hpre (List.prefix_append (c :: s) t) hlen)
          simp only [hst, ih hb, Option.map_some]

/-- A key without line feeds that is not found before a line feed is looked for behind it. -/
theorem cut?_append_newline_of_eq_none (hkey : '\n' ∉ key) :
    cut? key s = none →
      cut? key (s ++ '\n' :: t) =
        (cut? key t).map fun (before, rest) => (s ++ '\n' :: before, rest) := by
  induction s with
  | nil =>
      intro h
      -- The key does not start at the line feed: it would have to be empty, and thus found in `[]`.
      have hpre : ¬ key <+: [] ++ '\n' :: t := by
        rw [prefix_append_mark_iff hkey]
        exact fun hnil => cut?_eq_none_iff.1 h hnil.isInfix
      have hnone : after? key ('\n' :: t) = none := after?_eq_none_iff.2 hpre
      simp only [List.nil_append, cut?, hnone]
  | cons c s ih =>
      intro h
      rw [cut?_eq_none_iff, List.infix_cons_iff, not_or] at h
      have hnone : after? key (c :: (s ++ '\n' :: t)) = none := by
        rw [after?_eq_none_iff, ← List.cons_append, prefix_append_mark_iff hkey]
        exact h.1
      simp only [List.cons_append, cut?, hnone, ih (cut?_eq_none_iff.2 h.2), Option.map_map]
      rfl

theorem eraseFirst_append_of_occurs (h : key <:+: s) (t : Text) :
    eraseFirst key (s ++ t) = eraseFirst key s ++ t := by
  cases hcut : cut? key s with
  | none => exact absurd h (cut?_eq_none_iff.1 hcut)
  | some sides =>
      obtain ⟨before, rest⟩ := sides
      simp only [eraseFirst, hcut, cut?_append_of_eq_some hcut, List.append_assoc]

theorem eraseFirst_append_newline (hkey : '\n' ∉ key) (h : ¬ key <:+: s) (t : Text) :
    eraseFirst key (s ++ '\n' :: t) = s ++ '\n' :: eraseFirst key t := by
  have hcut := cut?_append_newline_of_eq_none (t := t) hkey (cut?_eq_none_iff.2 h)
  cases ht : cut? key t with
  | none => simp only [eraseFirst, hcut, ht, Option.map_none]
  | some sides =>
      obtain ⟨before, rest⟩ := sides
      simp only [eraseFirst, hcut, ht, Option.map_some, List.append_assoc, List.cons_append]

/-- The lines after the first occurrence of `key` is taken away from the first line that has it. -/
def eraseInLines (key : Text) : List Text → List Text
  | [] => []
  | line :: rest =>
      if occurs key line then eraseFirst key line :: rest else line :: eraseInLines key rest

/-- Taking a key without line feeds away changes one line. -/
theorem lines_eraseFirst (hkey : '\n' ∉ key) (t : Text) :
    lines (eraseFirst key t) = eraseInLines key (lines t) := by
  induction t using piece_induction '\n' with
  | last line h =>
      have hfree : '\n' ∉ eraseFirst key line := fun hm => h ((eraseFirst_sublist key line).mem hm)
      rw [lines_of_notMem h, lines_of_notMem hfree, eraseInLines]
      split
      · rfl
      · next hno =>
        rw [eraseFirst_of_not_occurs (fun hin => hno (occurs_iff.2 hin))]
        rfl
  | cons line rest h ih =>
      have hfree : '\n' ∉ eraseFirst key line := fun hm => h ((eraseFirst_sublist key line).mem hm)
      rw [lines_cons_line h, eraseInLines]
      split
      · next hyes =>
        rw [eraseFirst_append_of_occurs (occurs_iff.1 hyes), lines_cons_line hfree]
      · next hno =>
        have hnot : ¬ key <:+: line := fun hin => hno (occurs_iff.2 hin)
        rw [eraseFirst_append_newline hkey hnot, lines_cons_line h, ih]

/-! ## Searching on both sides of a line feed -/

def hits (test : Text → Bool) : Text → Bool
  | [] => test []
  | c :: t => test (c :: t) || hits test t

theorem hits_iff {test : Text → Bool} :
    hits test t = true ↔ ∃ rest, rest <:+ t ∧ test rest = true := by
  induction t with
  | nil => simp [hits]
  | cons c t ih =>
      rw [hits, Bool.or_eq_true, ih]
      constructor
      · rintro (hhere | ⟨rest, hrest, htest⟩)
        · exact ⟨c :: t, List.suffix_rfl, hhere⟩
        · exact ⟨rest, hrest.trans (List.suffix_cons c t), htest⟩
      · rintro ⟨rest, hrest, htest⟩
        rcases List.suffix_cons_iff.1 hrest with rfl | hlater
        · exact Or.inl htest
        · exact Or.inr ⟨rest, hlater, htest⟩

/-- A test that does not look past a line feed, and that needs something to look at. -/
structure OnLine (test : Text → Bool) : Prop where
  stops : ∀ s t, test (s ++ '\n' :: t) = test s
  nil : test [] = false

theorem hits_append_newline {test : Text → Bool} (h : OnLine test) (s t : Text) :
    hits test (s ++ '\n' :: t) = (hits test s || hits test t) := by
  induction s with
  | nil =>
      -- At the line feed itself the test has nothing to look at.
      have hfirst : test ('\n' :: t) = false := (h.stops [] t).trans h.nil
      simp only [List.nil_append, hits, hfirst, h.nil]
  | cons c s ih =>
      have hfirst : test (c :: (s ++ '\n' :: t)) = test (c :: s) := h.stops (c :: s) t
      simp only [List.cons_append, hits, hfirst, ih, Bool.or_assoc]

theorem occurs_eq_hits (key t : Text) : occurs key t = hits key.isPrefixOf t := by
  induction t with
  | nil => cases key <;> rfl
  | cons c t ih => rw [occurs, hits, ih]

theorem onLine_isPrefixOf (hkey : '\n' ∉ key) (hne : key ≠ []) : OnLine key.isPrefixOf where
  stops := by
    intro s t
    rw [Bool.eq_iff_iff, List.isPrefixOf_iff_prefix, List.isPrefixOf_iff_prefix]
    exact prefix_append_mark_iff hkey
  nil := by
    cases key with
    | nil => exact absurd rfl hne
    | cons p key => rfl

end Text

end ImportLint
