import ImportLint.Proofs.Check.Layout

/-!
# Grouping imports

Single imports below one namespace can be written as one group. The module compares a text with the
single imports and the same text with the group: the names brought in are the same ones in the same
order, and the code lines are the same, so the unused names agree. The prefixes of the grouped
imports are no longer counted.
-/

namespace ImportLint

open Text Import

variable {before after ms : List Text} {front : Text}

/-! ## The two texts -/

def withSingles (before after : List Text) (front : Text) (ms : List Text) : Text :=
  join ['\n'] (before ++ ms.map (fun m => statement (front ++ '\\' :: m)) ++ after)

def withGroup (before after : List Text) (front : Text) (ms : List Text) : Text :=
  join ['\n'] (before ++ [statement (groupClause front ms)] ++ after)

theorem newline_notMem_statement {clause : Text} (h : '\n' ∉ clause) : '\n' ∉ statement clause := by
  have hkeyword : '\n' ∉ keyword := by decide
  simp [statement, hkeyword, h]

theorem newline_notMem_groupClause (hfront : '\n' ∉ front) (hms : ∀ m ∈ ms, '\n' ∉ m) :
    '\n' ∉ groupClause front ms := by
  have hlist : '\n' ∉ join ", ".toList ms := notMem_join (by decide) hms
  simpa [groupClause, hfront] using hlist

/-! ## Import lines among other lines -/

/-- The import lines of a text that is made of lines around the imports of some clauses. -/
theorem importLines_around {clauses : List Text} (hbefore : ∀ line ∈ before, '\n' ∉ line)
    (hafter : ∀ line ∈ after, '\n' ∉ line) (hne : clauses ≠ [])
    (hclauses : ∀ clause ∈ clauses, '\n' ∉ clause) :
    importLines (join ['\n'] (before ++ clauses.map statement ++ after)) =
        before.filter isImportLine ++ clauses.map statement ++ after.filter isImportLine ∧
      otherLines (join ['\n'] (before ++ clauses.map statement ++ after)) =
        (before ++ after).filter fun line => !isImportLine line := by
  have hlines : lines (join ['\n'] (before ++ clauses.map statement ++ after)) =
      before ++ clauses.map statement ++ after := by
    apply lines_join
    · simp [hne]
    · intro line hline
      rcases List.mem_append.1 hline with hline | hline
      · rcases List.mem_append.1 hline with hline | hline
        · exact hbefore line hline
        · rcases List.mem_map.1 hline with ⟨clause, hmem, rfl⟩
          exact newline_notMem_statement (hclauses clause hmem)
      · exact hafter line hline
  -- The lines in the middle are all imports: one filter keeps them and the other drops them.
  have himport : ∀ line ∈ clauses.map statement, isImportLine line = true := by
    intro line hline
    rcases List.mem_map.1 hline with ⟨clause, -, rfl⟩
    exact isImportLine_statement clause
  have hkept : (clauses.map statement).filter isImportLine = clauses.map statement :=
    List.filter_eq_self.2 himport
  have hdropped : ((clauses.map statement).filter fun line => !isImportLine line) = [] := by
    refine List.filter_eq_nil_iff.2 ?_
    intro line hline
    simp [himport line hline]
  constructor
  · simp only [importLines, hlines, List.filter_append, hkept]
  · simp only [otherLines, hlines, List.filter_append, hdropped, List.append_nil]

theorem namesOn_statement (clause : Text) :
    namesOn (statement clause) = (members clause).map shortName := by
  rw [namesOn, clauseOf_statement]

/-- What makes single imports and a group two spellings of the same: texts that stand on one line,
and members that a comma list can hold. -/
structure Groupable (before after : List Text) (front : Text) (ms : List Text) : Prop where
  before_lines : ∀ line ∈ before, '\n' ∉ line
  after_lines : ∀ line ∈ after, '\n' ∉ line
  front_line : '\n' ∉ front
  front_brace : '{' ∉ front
  nonempty : ms ≠ []
  member_line : ∀ m ∈ ms, '\n' ∉ m
  member_brace : ∀ m ∈ ms, '{' ∉ m
  member_comma : ∀ m ∈ ms, ',' ∉ m
  member_trimmed : ∀ m ∈ ms, Trimmed m

namespace Groupable

theorem singles (h : Groupable before after front ms) :
    importLines (withSingles before after front ms) =
        before.filter isImportLine ++ ms.map (fun m => statement (front ++ '\\' :: m)) ++
          after.filter isImportLine ∧
      otherLines (withSingles before after front ms) =
        (before ++ after).filter fun line => !isImportLine line := by
  have hne : ms.map (fun m => front ++ '\\' :: m) ≠ [] := by simpa using h.nonempty
  have hclauses : ∀ clause ∈ ms.map (fun m => front ++ '\\' :: m), '\n' ∉ clause := by
    intro clause hclause
    rcases List.mem_map.1 hclause with ⟨m, hm, rfl⟩
    simp [h.front_line, h.member_line m hm]
  simpa [withSingles, Function.comp_def] using
    importLines_around h.before_lines h.after_lines hne hclauses

theorem group (h : Groupable before after front ms) :
    importLines (withGroup before after front ms) =
        before.filter isImportLine ++ [statement (groupClause front ms)] ++
          after.filter isImportLine ∧
      otherLines (withGroup before after front ms) =
        (before ++ after).filter fun line => !isImportLine line := by
  have hclauses : ∀ clause ∈ [groupClause front ms], '\n' ∉ clause := by
    intro clause hclause
    rw [List.mem_singleton.1 hclause]
    exact newline_notMem_groupClause h.front_line h.member_line
  simpa [withGroup] using
    importLines_around h.before_lines h.after_lines (List.cons_ne_nil _ _) hclauses

theorem codeLines_eq (h : Groupable before after front ms) :
    codeLines (withSingles before after front ms) =
      codeLines (withGroup before after front ms) := by
  rw [codeLines, codeLines, h.singles.2, h.group.2]

/-- Both texts bring in the same names in the same order. -/
theorem importedNames_eq (h : Groupable before after front ms) :
    importedNames (withSingles before after front ms) =
      importedNames (withGroup before after front ms) := by
  -- Each single import brings in the name of its member, whatever the namespace in front is.
  have hsingle : ∀ m ∈ ms, namesOn (statement (front ++ '\\' :: m)) = [shortName m] := by
    intro m hm
    have hbrace : '{' ∉ front ++ '\\' :: m := by simp [h.front_brace, h.member_brace m hm]
    rw [namesOn_statement, members_single hbrace, List.map_singleton, shortName_append_backslash]
  have hsingles : (ms.map fun m => statement (front ++ '\\' :: m)).flatMap namesOn =
      ms.map shortName := by
    rw [List.flatMap_map, List.flatMap_congr hsingle, ← List.map_eq_flatMap]
  -- The group is read back as it was written, so it brings in the same names.
  have hgroup : namesOn (statement (groupClause front ms)) = ms.map shortName := by
    have hread := members_groupClause h.front_brace h.nonempty
      fun m hm => ⟨h.member_comma m hm, h.member_trimmed m hm⟩
    rw [namesOn_statement, hread]
  rw [importedNames, importedNames, h.singles.1, h.group.1]
  simp only [List.flatMap_append, List.flatMap_singleton, hsingles, hgroup]

/-- The group takes its imports out of the count of every prefix. -/
theorem count_prefixes (h : Groupable before after front ms) (p : Text) :
    (prefixes (withGroup before after front ms)).count p +
        ms.countP (fun m => prefixOf? (front ++ '\\' :: m) == some p) =
      (prefixes (withSingles before after front ms)).count p := by
  -- Counted over import lines, both sides split at the lines around the imports in question.
  have hcount : ∀ text, (prefixes text).count p =
      (importLines text).countP fun line => prefixOf? (clauseOf line) == some p :=
    fun text => List.count_filterMap
  have hgroup : prefixOf? (groupClause front ms) = none := by
    simp [prefixOf?, isGroup_groupClause]
  have hsingles : (ms.map fun m => statement (front ++ '\\' :: m)).countP
        (fun line => prefixOf? (clauseOf line) == some p) =
      ms.countP fun m => prefixOf? (front ++ '\\' :: m) == some p := by
    simp only [List.countP_map, Function.comp_def, clauseOf_statement]
  rw [hcount, hcount, h.singles.1, h.group.1]
  simp only [List.countP_append, hsingles, List.countP_singleton, clauseOf_statement, hgroup]
  simp
  omega

end Groupable

/-! ## The findings -/

/-- Writing single imports below one namespace as a group changes no finding about unused names, and
takes exactly those imports out of the counts of prefixes. -/
theorem check_of_grouping (file : Text) (h : Groupable before after front ms)
    (hsingles : Clean (withSingles before after front ms))
    (hgroup : Clean (withGroup before after front ms)) :
    unusedImports (check file (withSingles before after front ms)) =
        unusedImports (check file (withGroup before after front ms)) ∧
      ∀ p : Text,
        (prefixes (withGroup before after front ms)).count p +
            ms.countP (fun m => prefixOf? (front ++ '\\' :: m) == some p) =
          (prefixes (withSingles before after front ms)).count p ∧
        ∀ count : Nat,
          Diagnostic.duplicate file p count ∈ check file (withGroup before after front ms) ↔
            (prefixes (withSingles before after front ms)).count p -
                ms.countP (fun m => prefixOf? (front ++ '\\' :: m) == some p) = count ∧
              1 < count := by
  constructor
  · have hnames := reportedNames_eq_of_importedNames hsingles hgroup h.codeLines_eq
      h.importedNames_eq
    rw [unusedImports_check, unusedImports_check, hnames]
  · intro p
    have hcount := h.count_prefixes p
    refine ⟨hcount, ?_⟩
    intro count
    rw [duplicate_mem_check_iff, ← hcount, Nat.add_sub_cancel]

/-- Three imports of one prefix, with an alias, a stray brace and a namespace below, are grouped.
The prefix is imported once more elsewhere and is no longer reported. -/
theorem check_of_grouping_aliases :
    let before := ["<?php".toList, "use A\\B\\D;".toList]
    let after := ["class X extends D".toList, "".toList]
    let front := "A\\B".toList
    let ms := ["C as D".toList, "E\x7d".toList, "F\\G".toList]
    Groupable before after front ms ∧
      Clean (withSingles before after front ms) ∧ Clean (withGroup before after front ms) ∧
      (prefixes (withSingles before after front ms)).count front = 4 ∧
      (unusedImports (check "f.php".toList (withGroup before after front ms))).map (·.subject) =
        ["E".toList, "G".toList] ∧
      unusedImports (check "f.php".toList (withSingles before after front ms)) =
        unusedImports (check "f.php".toList (withGroup before after front ms)) := by
  intro before after front ms
  have h : Groupable before after front ms := by
    constructor <;> decide +kernel
  have hsingles : Clean (withSingles before after front ms) := by decide +kernel
  have hgroup : Clean (withGroup before after front ms) := by decide +kernel
  exact ⟨h, hsingles, hgroup, by decide +kernel, by decide +kernel,
    (check_of_grouping "f.php".toList h hsingles hgroup).1⟩

end ImportLint
