import ImportLint.Import.Scan
import ImportLint.Proofs.Text.Lines

/-!
# Import lines and what remains

The scanner of imports and the removal of their text are described line by line.

* `statements_eq_importLines`: the scanner finds the lines that start with the keyword and end with
  a semicolon, and no others.
* `lines_remaining`: removing every import at its first occurrence is the same as reading the lines
  from top to bottom, where an import line takes one occurrence away from what was read so far,
  itself included. What stands below an import is therefore never touched by it.
* `lines_remaining_of_unshadowed`: if no line above an import repeats it, the import lines become
  empty and all other lines stay as they are.
-/

namespace ImportLint

namespace Import

open Text

variable {s t line rest : Text}

/-! ## Import lines -/

def isImportLine (line : Text) : Bool := keyword.isPrefixOf line && line.getLast? == some ';'

def clauseOf (line : Text) : Text := (line.drop keyword.length).dropLast

def importLines (t : Text) : List Text := (lines t).filter isImportLine

def otherLines (t : Text) : List Text := (lines t).filter fun line => !isImportLine line

theorem isImportLine_iff : isImportLine line = true ↔ ∃ clause, line = statement clause := by
  rw [isImportLine, Bool.and_eq_true, List.isPrefixOf_iff_prefix, beq_iff_eq]
  constructor
  · rintro ⟨⟨body, rfl⟩, hlast⟩
    -- The keyword does not end with a semicolon, so something follows it.
    rcases List.eq_nil_or_concat body with rfl | ⟨clause, last, rfl⟩
    · exact absurd hlast (by decide)
    · rw [List.concat_eq_append, ← List.append_assoc, List.getLast?_concat] at hlast
      obtain rfl := Option.some.inj hlast
      exact ⟨clause, by rw [statement, List.concat_eq_append, List.append_assoc]⟩
  · rintro ⟨clause, rfl⟩
    rw [statement]
    exact ⟨⟨clause ++ [';'], by rw [List.append_assoc]⟩, List.getLast?_concat⟩

theorem isImportLine_statement (clause : Text) : isImportLine (statement clause) = true :=
  isImportLine_iff.2 ⟨clause, rfl⟩

theorem clauseOf_statement (clause : Text) : clauseOf (statement clause) = clause := by
  rw [clauseOf, statement, List.append_assoc, List.drop_left, List.dropLast_concat]

theorem statement_clauseOf (h : isImportLine line = true) : statement (clauseOf line) = line := by
  obtain ⟨clause, rfl⟩ := isImportLine_iff.1 h
  rw [clauseOf_statement]

theorem isImportLine_nil : isImportLine [] = false := by decide

theorem importLines_of_notMem (h : '\n' ∉ line) :
    importLines line = if isImportLine line then [line] else [] := by
  rw [importLines, lines_of_notMem h, List.filter_cons, List.filter_nil]

theorem importLines_append_newline (s t : Text) :
    importLines (s ++ '\n' :: t) = importLines s ++ importLines t := by
  rw [importLines, lines_append_newline, List.filter_append, importLines, importLines]

theorem newline_notMem_of_mem_importLines (h : line ∈ importLines t) : '\n' ∉ line :=
  newline_notMem_of_mem_lines (List.mem_of_mem_filter h)

/-! ## Scanning -/

theorem atLineEnd_iff : atLineEnd rest = true ↔ rest = [] ∨ ∃ t, rest = '\n' :: t := by
  cases rest with
  | nil => simp [atLineEnd]
  | cons c t => simp [atLineEnd]

theorem clauseBody?_append (hs : '\n' ∉ s) (hrest : atLineEnd rest = true) :
    clauseBody? (s ++ rest) = if s.getLast? = some ';' then some s.dropLast else none := by
  induction s with
  | nil =>
      -- The line ends without a semicolon.
      rcases atLineEnd_iff.1 hrest with rfl | ⟨t, rfl⟩
      · rfl
      · rfl
  | cons c s ih =>
      rw [List.mem_cons, not_or] at hs
      have hc : c ≠ '\n' := Ne.symm hs.1
      have ih := ih hs.2
      cases s with
      | nil =>
          rw [List.nil_append] at ih
          by_cases hsemi : c = ';'
          · simp [clauseBody?, hsemi, hrest]
          · simp [clauseBody?, hc, hsemi, ih]
      | cons d s =>
          -- A semicolon in the middle of the line does not end the clause.
          have hd : (d == '\n') = false := by
            simpa using fun h : d = '\n' => hs.2 (h ▸ List.mem_cons_self)
          have hmid : clauseBody? (c :: d :: s ++ rest) =
              (clauseBody? (d :: s ++ rest)).map (c :: ·) := by
            rw [List.cons_append, clauseBody?, if_neg hc, List.cons_append, atLineEnd, hd]
            simp
          rw [hmid, ih, List.getLast?_cons_cons, List.dropLast_cons_cons]
          split
          · rfl
          · rfl

theorem clauseAt?_append (hline : '\n' ∉ line) (hrest : atLineEnd rest = true) :
    clauseAt? (line ++ rest) = if isImportLine line then some (clauseOf line) else none := by
  by_cases hpre : keyword <+: line
  · obtain ⟨body, rfl⟩ := hpre
    have hbody : '\n' ∉ body := fun h => hline (List.mem_append_right keyword h)
    have hafter : after? keyword (keyword ++ body ++ rest) = some (body ++ rest) := by
      rw [after?_eq_some_iff, List.append_assoc]
    rw [clauseAt?, hafter, Option.bind_some, clauseBody?_append hbody hrest]
    rcases List.eq_nil_or_concat body with rfl | ⟨clause, last, rfl⟩
    · rfl
    · rw [List.concat_eq_append, List.getLast?_concat, List.dropLast_concat]
      by_cases hsemi : last = ';'
      · subst hsemi
        rw [if_pos rfl, ← List.append_assoc, ← statement, isImportLine_statement,
          clauseOf_statement, if_pos rfl]
      · have hno : isImportLine (keyword ++ (clause ++ [last])) = false := by
          simp [isImportLine, ← List.append_assoc, hsemi]
        rw [hno]
        simp [hsemi]
  · -- The keyword has no line feed, so it is not completed by the next line either.
    have hafter : after? keyword (line ++ rest) = none := by
      rw [after?_eq_none_iff]
      rcases atLineEnd_iff.1 hrest with rfl | ⟨t, rfl⟩
      · rwa [List.append_nil]
      · rwa [prefix_append_mark_iff (by decide)]
    have hno : isImportLine line = false := by
      rw [Bool.eq_false_iff]
      intro h
      rw [isImportLine, Bool.and_eq_true, List.isPrefixOf_iff_prefix] at h
      exact hpre h.1
    rw [clauseAt?, hafter, hno]
    rfl

/-- Off a line start the scanner skips to the next line. -/
theorem clausesFrom_false (hline : '\n' ∉ line) (rest : Text) :
    clausesFrom false (line ++ rest) = clausesFrom false rest := by
  induction line with
  | nil => rfl
  | cons c line ih =>
      rw [List.mem_cons, not_or] at hline
      have hc : (c == '\n') = false := beq_false_of_ne (Ne.symm hline.1)
      rw [List.cons_append, clausesFrom, hc]
      exact ih hline.2

theorem clausesFrom_true (hline : '\n' ∉ line) (hrest : atLineEnd rest = true) :
    clausesFrom true (line ++ rest) =
      (importLines line).map clauseOf ++ clausesFrom false rest := by
  have hfound : (clauseAt? (line ++ rest)).toList = (importLines line).map clauseOf := by
    rw [clauseAt?_append hline hrest, importLines_of_notMem hline]
    split
    · rfl
    · rfl
  cases line with
  | nil =>
      rw [importLines_of_notMem hline, isImportLine_nil]
      rcases atLineEnd_iff.1 hrest with rfl | ⟨t, rfl⟩
      · rfl
      · rfl
  | cons c line =>
      rw [List.mem_cons, not_or] at hline
      have hc : (c == '\n') = false := beq_false_of_ne (Ne.symm hline.1)
      rw [← hfound, List.cons_append, clausesFrom, hc, if_pos rfl,
        clausesFrom_false hline.2 rest]

/-- The scanned clauses are those of the import lines. -/
theorem clauses_eq_map_importLines (t : Text) : clauses t = (importLines t).map clauseOf := by
  induction t using piece_induction '\n' with
  | last line h =>
      have hend : atLineEnd [] = true := rfl
      have honly := clausesFrom_true h hend
      simpa [clauses, clausesFrom] using honly
  | cons line rest h ih =>
      have hnext : clausesFrom false ('\n' :: rest) = clauses rest := rfl
      rw [clauses, clausesFrom_true h rfl, hnext, ih, importLines_append_newline, List.map_append]

theorem statements_eq_importLines (t : Text) : statements t = importLines t := by
  rw [statements, clauses_eq_map_importLines, List.map_map]
  -- An import line is the statement of its clause.
  have hid : ∀ line ∈ importLines t, (statement ∘ clauseOf) line = line := by
    intro line hline
    exact statement_clauseOf (List.mem_filter.1 hline).2
  rw [List.map_congr_left hid, List.map_id']

/-! ## What remains, line by line -/

/-- One line read after `done`: an import line takes the first occurrence of itself away, be it in a
line above or in its own place. -/
def readLine (done : List Text) (line : Text) : List Text :=
  if isImportLine line then eraseInLines line (done ++ [line]) else done ++ [line]

theorem eraseInLines_append {key : Text} {done : List Text} (rest : List Text) :
    (∃ line ∈ done, occurs key line = true) →
      eraseInLines key (done ++ rest) = eraseInLines key done ++ rest := by
  induction done with
  | nil =>
      rintro ⟨line, hline, -⟩
      exact absurd hline List.not_mem_nil
  | cons first done ih =>
      rintro ⟨line, hline, hocc⟩
      by_cases hfirst : occurs key first = true
      · simp [eraseInLines, hfirst]
      · have hlater : ∃ l ∈ done, occurs key l = true := by
          rcases List.mem_cons.1 hline with rfl | hline
          · exact absurd hocc hfirst
          · exact ⟨line, hline, hocc⟩
        simp [eraseInLines, hfirst, ih hlater]

theorem eraseInLines_of_forall {key : Text} {done : List Text} (rest : List Text) :
    (∀ line ∈ done, ¬ key <:+: line) →
      eraseInLines key (done ++ rest) = done ++ eraseInLines key rest := by
  induction done with
  | nil =>
      intro _
      rfl
  | cons first done ih =>
      intro h
      have hfirst : ¬ occurs key first = true :=
        fun hocc => h first List.mem_cons_self (occurs_iff.1 hocc)
      have hdone : ∀ line ∈ done, ¬ key <:+: line :=
        fun line hline => h line (List.mem_cons_of_mem first hline)
      simp [eraseInLines, hfirst, ih hdone]

/-- The removals one after the other, each from the whole list of lines, are the single pass. The
lines still to come are not touched, because an import line finds itself if nothing above has it. -/
theorem foldl_eraseInLines (done todo rest : List Text) :
    (todo.filter isImportLine).foldl (fun ls line => eraseInLines line ls) (done ++ todo ++ rest) =
      todo.foldl readLine done ++ rest := by
  induction todo generalizing done with
  | nil => simp
  | cons line todo ih =>
      have hsplit : done ++ line :: todo ++ rest = done ++ [line] ++ (todo ++ rest) := by simp
      by_cases himport : isImportLine line = true
      · have hself : ∃ l ∈ done ++ [line], occurs line l = true :=
          ⟨line, by simp, occurs_iff.2 List.infix_rfl⟩
        have hread : readLine done line = eraseInLines line (done ++ [line]) := by
          simp [readLine, himport]
        simp only [List.filter_cons, himport, if_pos, List.foldl_cons, hread, ← ih]
        rw [hsplit, eraseInLines_append (todo ++ rest) hself, List.append_assoc]
      · have hread : readLine done line = done ++ [line] := by simp [readLine, himport]
        simp only [List.filter_cons, himport, List.foldl_cons, hread, ← ih]
        rw [hsplit, ← List.append_assoc]
        simp

theorem lines_foldl_eraseFirst (keys : List Text) (t : Text) :
    (∀ key ∈ keys, '\n' ∉ key) →
      lines (keys.foldl (fun rest key => eraseFirst key rest) t) =
        keys.foldl (fun ls key => eraseInLines key ls) (lines t) := by
  induction keys generalizing t with
  | nil =>
      intro _
      rfl
  | cons key keys ih =>
      intro h
      have hkey : '\n' ∉ key := h key List.mem_cons_self
      have hkeys : ∀ k ∈ keys, '\n' ∉ k := fun k hk => h k (List.mem_cons_of_mem key hk)
      simp only [List.foldl_cons, ih _ hkeys, lines_eraseFirst hkey]

/-- What remains of a text is found in one pass over its lines. -/
theorem lines_remaining (t : Text) : lines (remaining t) = (lines t).foldl readLine [] := by
  have hfree : ∀ line ∈ importLines t, '\n' ∉ line :=
    fun line hline => newline_notMem_of_mem_importLines hline
  calc
    lines (remaining t)
        = (importLines t).foldl (fun ls line => eraseInLines line ls) (lines t) := by
          simp only [remaining, statements_eq_importLines, lines_foldl_eraseFirst _ _ hfree]
    _ = (lines t).foldl readLine [] := by
          simpa [importLines] using foldl_eraseInLines [] (lines t) []

theorem foldl_readLine_of_others {todo : List Text} (done : List Text) :
    (∀ line ∈ todo, isImportLine line = false) → todo.foldl readLine done = done ++ todo := by
  induction todo generalizing done with
  | nil =>
      intro _
      simp
  | cons line todo ih =>
      intro h
      have hline : isImportLine line = false := h line List.mem_cons_self
      have htodo : ∀ l ∈ todo, isImportLine l = false :=
        fun l hl => h l (List.mem_cons_of_mem line hl)
      have hread : readLine done line = done ++ [line] := by simp [readLine, hline]
      simp [hread, ih _ htodo]

/-- Text without imports below a file stays below what remains of the file. -/
theorem remaining_append_newline (s : Text) (h : ∀ line ∈ lines t, isImportLine line = false) :
    remaining (s ++ '\n' :: t) = remaining s ++ '\n' :: t := by
  -- Both sides have the same lines: the pass ends with lines that take nothing away.
  apply lines_injective
  simp only [lines_remaining, lines_append_newline, List.foldl_append]
  exact foldl_readLine_of_others _ h

/-! ## Unshadowed imports -/

/-- No import of the text is repeated inside a line above it that is no import. Such a line would
lose its text in place of the import. -/
def Unshadowed (t : Text) : Prop :=
  (lines t).Pairwise fun above line =>
    isImportLine line = true → isImportLine above = false → ¬ line <:+: above

instance (t : Text) : Decidable (Unshadowed t) :=
  inferInstanceAs (Decidable ((lines t).Pairwise fun above line =>
    isImportLine line = true → isImportLine above = false → ¬ line <:+: above))

def blankImport (line : Text) : Text := if isImportLine line then [] else line

/-- The pass over the lines if no line above an import has its text: neither those read before,
`done`, nor those among the rest that are no imports. -/
theorem foldl_readLine_of_unshadowed {todo : List Text} (done : List Text) :
    (∀ above ∈ done, ∀ line ∈ todo, isImportLine line = true → ¬ line <:+: above) →
    (todo.Pairwise fun above line =>
      isImportLine line = true → isImportLine above = false → ¬ line <:+: above) →
    todo.foldl readLine done = done ++ todo.map blankImport := by
  induction todo generalizing done with
  | nil =>
      intro _ _
      simp
  | cons line todo ih =>
      intro hdone hpair
      rcases List.pairwise_cons.1 hpair with ⟨hline, hpair⟩
      -- One step: an import finds its text nowhere above and is taken away in its own place.
      have hstep : readLine done line = done ++ [blankImport line] := by
        by_cases himport : isImportLine line = true
        · have habove : ∀ above ∈ done, ¬ line <:+: above :=
            fun above ha => hdone above ha line List.mem_cons_self himport
          have hself : occurs line line = true := occurs_iff.2 List.infix_rfl
          simp [readLine, blankImport, himport, eraseInLines_of_forall [line] habove,
            eraseInLines, hself, eraseFirst_self]
        · simp [readLine, blankImport, himport]
      -- The invariant for the next step: what was just read holds no later import.
      have hnext : ∀ above ∈ done ++ [blankImport line], ∀ l ∈ todo,
          isImportLine l = true → ¬ l <:+: above := by
        intro above ha l hl himport
        rcases List.mem_append.1 ha with ha | ha
        · exact hdone above ha l (List.mem_cons_of_mem line hl) himport
        · have habove : above = blankImport line := by simpa using ha
          by_cases hfirst : isImportLine line = true
          · -- The line was an import, so nothing is left that could hold another one.
            have hempty : above = [] := by simp [habove, blankImport, hfirst]
            rw [hempty, List.infix_nil]
            rintro rfl
            exact absurd himport (by simp [isImportLine_nil])
          · have hsame : above = line := by simp [habove, blankImport, hfirst]
            rw [hsame]
            exact hline l hl himport (by simpa using hfirst)
      simp [hstep, ih _ hnext hpair]

/-- What remains of a text whose imports are unshadowed: import lines are emptied in their place. -/
theorem lines_remaining_of_unshadowed (h : Unshadowed t) :
    lines (remaining t) = (lines t).map blankImport := by
  have hnone : ∀ above ∈ ([] : List Text), ∀ line ∈ lines t,
      isImportLine line = true → ¬ line <:+: above :=
    fun above ha => absurd ha List.not_mem_nil
  simpa [lines_remaining] using foldl_readLine_of_unshadowed [] hnone h

/-- A text in which no line that is no import holds the whole of an import line. -/
def Clean (t : Text) : Prop :=
  ∀ other ∈ otherLines t, ∀ line ∈ importLines t, ¬ line <:+: other

instance (t : Text) : Decidable (Clean t) :=
  inferInstanceAs (Decidable (∀ other ∈ otherLines t, ∀ line ∈ importLines t, ¬ line <:+: other))

theorem Clean.unshadowed (h : Clean t) : Unshadowed t := by
  refine List.pairwise_of_forall_mem_list ?_
  intro above ha line hl himport hother
  exact h above (List.mem_filter.2 ⟨ha, by simp [hother]⟩) line (List.mem_filter.2 ⟨hl, himport⟩)

end Import

end ImportLint
