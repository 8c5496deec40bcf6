import ImportLint.Proofs.Import.Lines
import Mathlib.Algebra.Ring.Nat

/-!
# What the scan takes out of a file and what it leaves

The scan for imports takes whole lines and nothing else (`scan_takes_import_lines`). What it leaves
is less simple, because an import takes away the first occurrence of its text, which may stand in a
line above it, in a comment for instance. `removal_keeps_lines` says what holds of every file:

* no line break is lost, and every import takes away as many characters as it has;
* lines below the last import stay as they are;
* import lines end up empty and all other lines whole in exactly those files in which no import is
  repeated inside a line above it that is no import.

The reason is that an import line is there to be found when its turn comes. So the text is taken
from it or from a line above it, and never from a line below (`infix_withoutEach`).
-/

namespace ImportLint

namespace Import

open Text

variable {t key line : Text}

/-! ## Taking whole lines -/

/-- The scan finds the lines that start with the keyword and end with a semicolon, in order and with
repetitions. Their clauses are what stands between the two, and every text without a line feed is
the clause of some import. -/
theorem scan_takes_import_lines (t : Text) :
    statements t = (lines t).filter isImportLine ∧
      clauses t = ((lines t).filter isImportLine).map (fun line => (line.drop 4).dropLast) ∧
      ∀ clause, (∃ t, clause ∈ clauses t) ↔ '\n' ∉ clause := by
  refine ⟨statements_eq_importLines t, clauses_eq_map_importLines t, ?_⟩
  intro clause
  constructor
  · rintro ⟨t, hclause⟩
    rw [clauses_eq_map_importLines] at hclause
    rcases List.mem_map.1 hclause with ⟨line, hline, rfl⟩
    -- A clause is a part of its line.
    have hpart : (clauseOf line).Sublist line :=
      (List.dropLast_sublist _).trans (List.drop_sublist _ line)
    exact fun hm => newline_notMem_of_mem_importLines hline (hpart.mem hm)
  · intro hfree
    -- The text is the clause of the one line that says it.
    have hline : '\n' ∉ statement clause := by simp [statement, keyword, hfree]
    refine ⟨statement clause, ?_⟩
    rw [clauses_eq_map_importLines, importLines_of_notMem hline, isImportLine_statement]
    simp [clauseOf_statement]

example : clauses "use A;b;\r;\nuse ;\n use C;\nuse D".toList = ["A;b;\r".toList, []] := by
  decide

/-! ## Counting lines -/

theorem length_lines (t : Text) : (lines t).length = t.count '\n' + 1 := by
  induction t using piece_induction '\n' with
  | last line h => rw [lines_of_notMem h, List.count_eq_zero.2 h, List.length_singleton]
  | cons line rest h ih =>
      rw [lines_cons_line h, List.length_cons, ih, List.count_append, List.count_eq_zero.2 h,
        List.count_cons_self, Nat.zero_add]

theorem length_eraseInLines (key : Text) (ls : List Text) :
    (eraseInLines key ls).length = ls.length := by
  induction ls with
  | nil => rfl
  | cons line rest ih =>
      rw [eraseInLines]
      split
      · rfl
      · rw [List.length_cons, List.length_cons, ih]

theorem length_readLine (done : List Text) (line : Text) :
    (readLine done line).length = done.length + 1 := by
  rw [readLine]
  split
  · rw [length_eraseInLines, List.length_append, List.length_singleton]
  · rw [List.length_append, List.length_singleton]

theorem length_foldl_readLine (done todo : List Text) :
    (todo.foldl readLine done).length = done.length + todo.length := by
  induction todo generalizing done with
  | nil => rfl
  | cons line todo ih =>
      rw [List.foldl_cons, ih, length_readLine, List.length_cons]
      omega

theorem count_newline_remaining (t : Text) : (remaining t).count '\n' = t.count '\n' := by
  have hleft := length_lines (remaining t)
  have hright := length_lines t
  rw [lines_remaining, length_foldl_readLine, List.length_nil] at hleft
  omega

/-! ## Removals that take effect -/

/-- A text after each of the keys, in turn, has been taken away once. -/
def withoutEach (keys : List Text) (t : Text) : Text :=
  keys.foldl (fun rest key => eraseFirst key rest) t

theorem remaining_eq_withoutEach (t : Text) : remaining t = withoutEach (statements t) t := rfl

theorem length_eraseFirst (h : key <:+: t) :
    (eraseFirst key t).length + key.length = t.length := by
  cases hcut : cut? key t with
  | none => exact absurd h (cut?_eq_none_iff.1 hcut)
  | some sides =>
      rcases sides with ⟨before, rest⟩
      have hsides := congrArg List.length (eq_of_cut?_eq_some hcut)
      simp only [List.length_append] at hsides
      simp only [eraseFirst, hcut, List.length_append]
      omega

/-- If every key is there to be found when its turn comes, the text loses all their characters. -/
theorem length_withoutEach {keys : List Text} :
    (∀ before key after, keys = before ++ key :: after → key <:+: withoutEach before t) →
      (withoutEach keys t).length + (keys.map List.length).sum = t.length := by
  induction keys generalizing t with
  | nil =>
      intro _
      rfl
  | cons first keys ih =>
      intro h
      have hfirst : (eraseFirst first t).length + first.length = t.length :=
        length_eraseFirst (h [] first keys rfl)
      have hlater := ih (t := eraseFirst first t) fun before key after hsplit =>
        h (first :: before) key after (by rw [hsplit, List.cons_append])
      have hrun : withoutEach (first :: keys) t = withoutEach keys (eraseFirst first t) := rfl
      rw [hrun, List.map_cons, List.sum_cons]
      omega

/-- An import line stands in the text when its turn comes: those above it have taken from themselves
or from lines above them. -/
theorem infix_withoutEach {before after : List Text}
    (h : statements t = before ++ line :: after) : line <:+: withoutEach before t := by
  -- The lines of the text are cut at this import, so that the imports above it are `before`.
  rw [statements_eq_importLines, importLines] at h
  rcases List.filter_eq_append_iff.1 h with ⟨above, below, hcut, habove, hbelow⟩
  rcases List.filter_eq_cons_iff.1 hbelow with ⟨between, rest, rfl, hbetween, himport, -⟩
  have hfree : ∀ key ∈ before, '\n' ∉ key := by
    intro key hkey
    have hline : key ∈ lines t := by
      rw [hcut]
      exact List.mem_append_left _ (List.mem_of_mem_filter (habove ▸ hkey))
    exact newline_notMem_of_mem_lines hline
  have hlines : lines (withoutEach before t) =
      above.foldl readLine [] ++ (between ++ line :: rest) := by
    calc
      lines (withoutEach before t)
          = before.foldl (fun ls key => eraseInLines key ls) (lines t) :=
            lines_foldl_eraseFirst before t hfree
      _ = above.foldl readLine [] ++ (between ++ line :: rest) := by
            rw [hcut, ← habove]
            simpa using foldl_eraseInLines [] above (between ++ line :: rest)
  have hthere : line ∈ lines (withoutEach before t) := by simp [hlines]
  exact infix_of_mem_splitOn hthere

/-! ## Lines that stay -/

theorem drop_lines_remaining {i : Nat}
    (h : ∀ line ∈ (lines t).drop i, isImportLine line = false) :
    (lines (remaining t)).drop i = (lines t).drop i := by
  have hread : lines (remaining t) = ((lines t).take i).foldl readLine [] ++ (lines t).drop i := by
    calc
      lines (remaining t)
          = ((lines t).take i ++ (lines t).drop i).foldl readLine [] := by
            rw [List.take_append_drop, lines_remaining]
      _ = ((lines t).take i).foldl readLine [] ++ (lines t).drop i := by
            rw [List.foldl_append]
            exact foldl_readLine_of_others _ h
  have hlength : (((lines t).take i).foldl readLine []).length = ((lines t).take i).length := by
    rw [length_foldl_readLine, List.length_nil, Nat.zero_add]
  rw [hread]
  by_cases hi : i ≤ (lines t).length
  · rw [List.drop_left' (hlength.trans (List.length_take_of_le hi))]
  · -- There is no line with this number.
    rw [List.drop_eq_nil_of_le (by omega : (lines t).length ≤ i), List.append_nil]
    exact List.drop_eq_nil_of_le (by rw [hlength]; exact List.length_take_le i _)

/-- The pass over the lines empties every import in its place only if no import finds its text in a
line above that is no import. The induction is on the last line: an import that took its text from
above would be left whole at the end. -/
theorem unshadowed_of_foldl_readLine {ls : List Text} :
    ls.foldl readLine [] = ls.map blankImport →
      ls.Pairwise fun above line =>
        isImportLine line = true → isImportLine above = false → ¬ line <:+: above := by
  induction ls using List.reverseRecOn with
  | nil =>
      intro _
      exact List.Pairwise.nil
  | append_singleton ls line ih =>
      intro h
      rw [List.foldl_append, List.map_append, List.foldl_cons, List.foldl_nil, List.map_singleton,
        readLine] at h
      by_cases himport : isImportLine line = true
      · rw [if_pos himport, blankImport, if_pos himport] at h
        have hnone : ∀ above ∈ ls.foldl readLine [], ¬ line <:+: above := by
          intro above habove hin
          rw [eraseInLines_append [line] ⟨above, habove, occurs_iff.2 hin⟩] at h
          have hlast : [line] = [[]] := List.append_inj_right' h rfl
          rw [List.singleton_inj.1 hlast, isImportLine_nil] at himport
          cases himport
        rw [eraseInLines_of_forall [line] hnone] at h
        have hdone : ls.foldl readLine [] = ls.map blankImport := by
          refine List.append_inj_left h ?_
          rw [length_foldl_readLine, List.length_map, List.length_nil, Nat.zero_add]
        refine List.pairwise_append.2 ⟨ih hdone, List.pairwise_singleton _ _, ?_⟩
        intro above habove last hlast _ hother
        rw [List.mem_singleton.1 hlast]
        apply hnone
        rw [hdone]
        exact List.mem_map.2 ⟨above, habove, by simp [blankImport, hother]⟩
      · rw [if_neg himport] at h
        have hdone : ls.foldl readLine [] = ls.map blankImport := List.append_inj_left' h rfl
        refine List.pairwise_append.2 ⟨ih hdone, List.pairwise_singleton _ _, ?_⟩
        intro above _ last hlast hlastImport
        rw [List.mem_singleton.1 hlast] at hlastImport
        exact absurd hlastImport himport

def blanked (t : Text) : Text := join ['\n'] ((lines t).map blankImport)

theorem lines_blanked (t : Text) : lines (blanked t) = (lines t).map blankImport := by
  apply lines_join
  · have hne : lines t ≠ [] := List.splitOn_ne_nil '\n' t
    simpa using hne
  · intro line hline
    rcases List.mem_map.1 hline with ⟨whole, hwhole, rfl⟩
    rw [blankImport]
    split
    · exact List.not_mem_nil
    · exact newline_notMem_of_mem_lines hwhole

theorem remaining_eq_blanked_iff (t : Text) : remaining t = blanked t ↔ Unshadowed t := by
  rw [← lines_injective.eq_iff, lines_blanked]
  constructor
  · intro h
    rw [lines_remaining] at h
    exact unshadowed_of_foldl_readLine h
  · exact lines_remaining_of_unshadowed

/-- What the removal of imports does to every file. Line breaks are kept, and every import takes its
own number of characters away, because it is found when its turn comes. From a line on below which
there is no import, all lines are as before. The file is left with empty lines in place of its
imports and no other change if and only if no line above an import, itself no import, contains it.
-/
theorem removal_keeps_lines (t : Text) :
    (remaining t).count '\n' = t.count '\n' ∧
      (remaining t).length + ((statements t).map List.length).sum = t.length ∧
      (∀ before line after, statements t = before ++ line :: after →
        line <:+: withoutEach before t) ∧
      (∀ i, (∀ line ∈ (lines t).drop i, isImportLine line = false) →
        (lines (remaining t)).drop i = (lines t).drop i) ∧
      (remaining t = blanked t ↔ Unshadowed t) := by
  refine ⟨count_newline_remaining t, ?_, ?_, ?_, remaining_eq_blanked_iff t⟩
  · rw [remaining_eq_withoutEach]
    apply length_withoutEach
    intro before line after hsplit
    exact infix_withoutEach hsplit
  · intro before line after hsplit
    exact infix_withoutEach hsplit
  · intro i hothers
    exact drop_lines_remaining hothers

example :
    remaining "// use A;\nuse A;\nuse B;\nnew A".toList = "// \nuse A;\n\nnew A".toList := by
  decide

end Import

end ImportLint
