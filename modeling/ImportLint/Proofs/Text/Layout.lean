import ImportLint.Proofs.Text.Lines

/-!
# The layout of a text

Two texts with the same non-empty lines differ only in where empty lines stand. To compare what a
scanner that crosses lines makes of them, both are brought to one shape: `squeeze` leaves one line
feed of every run of line feeds, and it commutes with all that such a scanner does.

* `splitOn_squeeze`, `dropWhile_squeeze`, `after?_squeeze`: cutting, skipping and reading a lead.
* `squeeze_stacked`: squeezing lines that each end with a line feed drops the empty ones.
-/

namespace ImportLint

namespace Text

variable {s t key line : Text} {c : Char}

/-! ## Squeezing -/

/-- The text with one line feed in place of every run of line feeds. -/
def squeeze : Text → Text
  | [] => []
  | c :: t => if c = '\n' ∧ t.head? = some '\n' then squeeze t else c :: squeeze t

theorem squeeze_cons_of_ne (hc : c ≠ '\n') (t : Text) : squeeze (c :: t) = c :: squeeze t := by
  simp [squeeze, hc]

theorem squeeze_newline_newline (t : Text) :
    squeeze ('\n' :: '\n' :: t) = squeeze ('\n' :: t) := by
  simp [squeeze]

/-- A line feed in front stays in front. -/
theorem exists_squeeze_newline (t : Text) : ∃ u, squeeze ('\n' :: t) = '\n' :: u := by
  induction t with
  | nil => exact ⟨[], rfl⟩
  | cons c t ih =>
      by_cases hc : c = '\n'
      · subst hc
        rcases ih with ⟨u, hu⟩
        exact ⟨u, by rw [squeeze_newline_newline, hu]⟩
      · exact ⟨squeeze (c :: t), by simp [squeeze, hc]⟩

theorem squeeze_sublist (t : Text) : (squeeze t).Sublist t := by
  induction t with
  | nil => exact List.Sublist.refl []
  | cons c t ih =>
      by_cases h : c = '\n' ∧ t.head? = some '\n'
      · simpa [squeeze, h] using ih.cons c
      · simpa [squeeze, h] using ih.cons_cons c

theorem squeeze_append_cons (hc : c ≠ '\n') (s t : Text) :
    squeeze (s ++ c :: t) = squeeze s ++ c :: squeeze t := by
  induction s with
  | nil => exact squeeze_cons_of_ne hc t
  | cons d s ih =>
      -- The character after `d` is the same on both sides, or it is `c` and no line feed.
      have hnext : (s ++ c :: t).head? = some '\n' ↔ s.head? = some '\n' := by
        cases s with
        | nil => simpa using hc
        | cons e s => simp
      by_cases h : d = '\n' ∧ s.head? = some '\n'
      · simp only [List.cons_append, squeeze, hnext, if_pos h, ih]
      · simp only [List.cons_append, squeeze, hnext, if_neg h, ih]

theorem squeeze_append (hs : '\n' ∉ s) (t : Text) : squeeze (s ++ t) = s ++ squeeze t := by
  induction s with
  | nil => rfl
  | cons c s ih =>
      rcases not_or.1 (List.mem_cons.not.1 hs) with ⟨hc, hs⟩
      rw [List.cons_append, squeeze_cons_of_ne (Ne.symm hc), ih hs, List.cons_append]

/-! ## What commutes with squeezing -/

theorem splitOn_squeeze (hc : c ≠ '\n') (t : Text) :
    (squeeze t).splitOn c = (t.splitOn c).map squeeze := by
  induction t using piece_induction c with
  | last piece h =>
      have hfree : c ∉ squeeze piece := fun hm => h ((squeeze_sublist piece).mem hm)
      simp [List.splitOn_eq_singleton h, List.splitOn_eq_singleton hfree]
  | cons piece rest h ih =>
      have hfree : c ∉ squeeze piece := fun hm => h ((squeeze_sublist piece).mem hm)
      simp [squeeze_append_cons hc, List.splitOn_append_cons_self_of_not_mem h,
        List.splitOn_append_cons_self_of_not_mem hfree, ih]

theorem dropWhile_squeeze (p : Char → Bool) (t : Text) :
    (squeeze t).dropWhile p = squeeze (t.dropWhile p) := by
  induction t with
  | nil => rfl
  | cons c t ih =>
      by_cases h : c = '\n' ∧ t.head? = some '\n'
      · -- Of two line feeds the first is dropped; the test treats both alike.
        rcases h with ⟨rfl, hnext⟩
        obtain ⟨u, rfl⟩ : ∃ u, t = '\n' :: u := ⟨t.tail, (List.cons_head?_tail hnext).symm⟩
        by_cases hp : p '\n' = true
        · simpa [squeeze_newline_newline, hp] using ih
        · rw [squeeze_newline_newline, ih]
          simp [hp, squeeze_newline_newline]
      · by_cases hp : p c = true
        · simpa [squeeze, h, hp] using ih
        · simp [squeeze, h, hp]

theorem after?_squeeze {lead : Text} (hlead : '\n' ∉ lead) (t : Text) :
    after? lead (squeeze t) = (after? lead t).map squeeze := by
  induction lead generalizing t with
  | nil => rfl
  | cons p lead ih =>
      rcases not_or.1 (List.mem_cons.not.1 hlead) with ⟨hp, hlead⟩
      have hp : p ≠ '\n' := Ne.symm hp
      cases t with
      | nil => rfl
      | cons c t =>
          -- The lead has no line feed, so at one it fails before and after squeezing.
          by_cases hc : c = '\n'
          · subst hc
            rcases exists_squeeze_newline t with ⟨u, hu⟩
            simp [hu, after?, hp]
          · rw [squeeze_cons_of_ne hc]
            by_cases hpc : p = c
            · simp [after?, hpc, ih hlead]
            · simp [after?, hpc]

theorem isPrefixOf_squeeze (hkey : '\n' ∉ key) (t : Text) :
    key.isPrefixOf (squeeze t) = key.isPrefixOf t := by
  have hread : ∀ u, key.isPrefixOf u = (after? key u).isSome := by
    intro u
    cases h : after? key u with
    | none =>
        have hnot : ¬ key <+: u := after?_eq_none_iff.1 h
        simpa [← List.isPrefixOf_iff_prefix] using hnot
    | some rest =>
        have hpre : key <+: u := ⟨rest, (after?_eq_some_iff.1 h).symm⟩
        simpa [← List.isPrefixOf_iff_prefix] using hpre
  simp [hread, after?_squeeze hkey]

theorem items_squeeze (t : Text) : items (squeeze t) = (items t).map squeeze := by
  have htrim : ∀ u, trimLeft (squeeze u) = squeeze (trimLeft u) := dropWhile_squeeze isBlank
  have hcut : (squeeze t).splitOn ',' = (t.splitOn ',').map squeeze :=
    splitOn_squeeze (by decide) t
  unfold items
  rw [hcut]
  cases t.splitOn ',' with
  | nil => rfl
  | cons first rest => simp [htrim]

/-! ## Non-empty lines -/

def nonEmptyLines (t : Text) : List Text := (lines t).filter fun line => !line.isEmpty

def stacked (ls : List Text) : Text := '\n' :: ls.flatMap (· ++ ['\n'])

theorem stacked_lines (t : Text) : stacked (lines t) = '\n' :: (t ++ ['\n']) := by
  induction t using piece_induction '\n' with
  | last line h => simp [stacked, lines_of_notMem h]
  | cons line rest h ih =>
      have hrest : (lines rest).flatMap (· ++ ['\n']) = rest ++ ['\n'] := by
        simpa [stacked] using ih
      simp [stacked, lines_cons_line h, hrest]

theorem squeeze_stacked {ls : List Text} :
    (∀ line ∈ ls, '\n' ∉ line) →
      squeeze (stacked ls) = stacked (ls.filter fun line => !line.isEmpty) := by
  induction ls with
  | nil =>
      intro _
      rfl
  | cons line ls ih =>
      intro h
      have hline : '\n' ∉ line := h line List.mem_cons_self
      have ih := ih fun l hl => h l (List.mem_cons_of_mem line hl)
      cases line with
      | nil =>
          -- The line feed of an empty line follows another one.
          have htop : stacked ([] :: ls) = '\n' :: stacked ls := by simp [stacked]
          rw [htop, stacked, squeeze_newline_newline, ← stacked, ih]
          simp
      | cons c line =>
          have hc : c ≠ '\n' := fun hc => hline (hc ▸ List.mem_cons_self)
          have htop : stacked ((c :: line) :: ls) = '\n' :: ((c :: line) ++ stacked ls) := by
            simp [stacked]
          have hfirst : squeeze ('\n' :: ((c :: line) ++ stacked ls)) =
              '\n' :: squeeze ((c :: line) ++ stacked ls) := by
            simp [squeeze, hc]
          rw [htop, hfirst, squeeze_append hline, ih]
          simp [stacked]

/-- The squeezed text between two line feeds depends on the non-empty lines alone. -/
theorem squeeze_framed (t : Text) :
    squeeze ('\n' :: (t ++ ['\n'])) = stacked (nonEmptyLines t) := by
  rw [← stacked_lines]
  exact squeeze_stacked fun line hline => newline_notMem_of_mem_lines hline

end Text

end ImportLint
