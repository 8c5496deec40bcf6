import ImportLint.Proofs.Check.Basic

/-!
# Code added at the end

Text added below a file may close a parameter list that the file leaves open, or bring the first
`implements` clause; it never takes a use away. The imports are those of the file, and although each
of them is removed at its first occurrence, wherever that is, none of the removals reaches into the
added text. So no finding is new.
-/

namespace ImportLint

open Text Import

variable {file text rest : Text}

theorem importLines_append_of_others (text : Text)
    (h : ∀ line ∈ lines rest, isImportLine line = false) :
    importLines (text ++ '\n' :: rest) = importLines text := by
  have hnone : importLines rest = [] := by
    refine List.filter_eq_nil_iff.2 ?_
    intro line hline
    simp [h line hline]
  rw [importLines_append_newline, hnone, List.append_nil]

/-- The names reported after the text has grown are those reported before that the grown text still
does not use. -/
theorem reportedNames_append_of_others (text : Text)
    (h : ∀ line ∈ lines rest, isImportLine line = false) :
    reportedNames (text ++ '\n' :: rest) =
      (reportedNames text).filter fun name => !isUsed name (remaining text ++ '\n' :: rest) := by
  have hnames : importedNames (text ++ '\n' :: rest) = importedNames text := by
    rw [importedNames, importLines_append_of_others text h, importedNames]
  rw [reportedNames, reportedNames, hnames, remaining_append_newline text h, List.filter_filter]
  apply List.filter_congr
  intro name hmem
  have hfree : '\n' ∉ name := newline_notMem_of_mem_importedNames (List.mem_eraseDups.1 hmem)
  -- A name used before is used still, so the new test drops nothing that was reported before it.
  by_cases hused : isUsed name (remaining text) = true
  · have hstill := isUsed_append_newline hfree hused rest
    simp [hused, hstill]
  · simp [hused, Bool.and_comm]

/-- Lines that are no imports, added at the end of a file, leave the repeated prefixes as they are
and can only take unused names off the report. -/
theorem check_append_of_others (file text : Text)
    (h : ∀ line ∈ lines rest, isImportLine line = false) :
    duplicateNamespaces (check file (text ++ '\n' :: rest)) =
        duplicateNamespaces (check file text) ∧
      (unusedImports (check file (text ++ '\n' :: rest))).Sublist
        (unusedImports (check file text)) := by
  constructor
  · have hprefixes : prefixes (text ++ '\n' :: rest) = prefixes text := by
      rw [prefixes, importLines_append_of_others text h, prefixes]
    rw [duplicateNamespaces_check, duplicateNamespaces_check, hprefixes]
  · rw [unusedImports_check, unusedImports_check, reportedNames_append_of_others text h]
    exact List.filter_sublist.map _

/-- The first import is removed from the comment that repeats it, and the added lines close a
parameter list. Of two unused names one is left. -/
theorem check_append_of_others_closing :
    let text := "// use A\\B;\nuse A\\B;\nuse A\\C;\nfunction f(".toList
    let rest := "B $b,\nC $c)\n".toList
    (∀ line ∈ lines rest, isImportLine line = false) ∧
      (unusedImports (check "f.php".toList text)).map (·.subject) = ["B".toList, "C".toList] ∧
      (unusedImports (check "f.php".toList (text ++ '\n' :: rest))).map (·.subject) =
        ["B".toList] ∧
      (unusedImports (check "f.php".toList (text ++ '\n' :: rest))).Sublist
        (unusedImports (check "f.php".toList text)) := by
  intro text rest
  have h : ∀ line ∈ lines rest, isImportLine line = false := by decide +kernel
  exact ⟨h, by decide +kernel, by decide +kernel, (check_append_of_others "f.php".toList text h).2⟩

end ImportLint
