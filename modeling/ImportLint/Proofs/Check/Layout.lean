import ImportLint.Proofs.Check.Basic

/-!
# Layout and import order

The import lines of a clean text are emptied in their places, so what remains of it has the same
non-empty lines as the text without its imports (`codeLines`). No test sees empty lines. Two clean
texts with the same code lines therefore use the same names, however their imports are placed, and
what is left to compare are the two lists that are read off the import lines.
-/

namespace ImportLint

open Text Import

variable {file name s t : Text}

def codeLines (text : Text) : List Text := (otherLines text).filter fun line => !line.isEmpty

/-- Import lines made empty are no longer seen among the non-empty lines. -/
theorem filter_map_blankImport (ls : List Text) :
    (ls.map blankImport).filter (fun line => !line.isEmpty) =
      (ls.filter fun line => !isImportLine line).filter fun line => !line.isEmpty := by
  induction ls with
  | nil => rfl
  | cons line ls ih =>
      by_cases himport : isImportLine line = true
      · simpa [blankImport, himport] using ih
      · -- Such a line stays, unless it was empty from the start.
        cases line with
        | nil => simpa [blankImport, himport] using ih
        | cons c line => simpa [blankImport, himport] using ih

theorem nonEmptyLines_remaining (h : Clean t) : nonEmptyLines (remaining t) = codeLines t := by
  have hlines : lines (remaining t) = (lines t).map blankImport :=
    lines_remaining_of_unshadowed h.unshadowed
  rw [nonEmptyLines, hlines, filter_map_blankImport, codeLines, otherLines]

/-- Clean texts with the same code lines use the same names. -/
theorem isUsed_remaining_congr (hs : Clean s) (ht : Clean t) (hcode : codeLines s = codeLines t)
    (hname : '\n' ∉ name) : isUsed name (remaining s) = isUsed name (remaining t) := by
  apply isUsed_eq_of_nonEmptyLines hname
  rw [nonEmptyLines_remaining hs, nonEmptyLines_remaining ht, hcode]

/-- The names to report, if one text decides what is imported and another what is used. -/
theorem reportedNames_eq_filter (hs : Clean s) (ht : Clean t) (hcode : codeLines s = codeLines t) :
    reportedNames t =
      (importedNames t).eraseDups.filter fun name =>
        !name.isEmpty && !isUsed name (remaining s) := by
  apply List.filter_congr
  intro name hmem
  -- The tests agree on the two texts for names without line feeds, which imported names are.
  have hfree : '\n' ∉ name := newline_notMem_of_mem_importedNames (List.mem_eraseDups.1 hmem)
  rw [isUsed_remaining_congr hs ht hcode hfree]

theorem reportedNames_eq_of_importedNames (hs : Clean s) (ht : Clean t)
    (hcode : codeLines s = codeLines t) (hnames : importedNames s = importedNames t) :
    reportedNames s = reportedNames t := by
  rw [reportedNames_eq_filter hs ht hcode, reportedNames, hnames]

theorem reportedNames_perm (hs : Clean s) (ht : Clean t) (hcode : codeLines s = codeLines t)
    (himports : (importLines s).Perm (importLines t)) :
    (reportedNames s).Perm (reportedNames t) := by
  have hnames : (importedNames s).Perm (importedNames t) := himports.flatMap_right namesOn
  rw [reportedNames_eq_filter hs ht hcode, reportedNames]
  exact (eraseDups_perm hnames).filter _

theorem prefixes_perm (himports : (importLines s).Perm (importLines t)) :
    (prefixes s).Perm (prefixes t) :=
  himports.filterMap _

/-- Imports may be reordered and moved anywhere, and empty lines added or removed: the findings stay
the same, and if the imports keep their order, so do the findings. -/
theorem check_perm_of_same_code (file : Text) (hs : Clean s) (ht : Clean t)
    (himports : (importLines s).Perm (importLines t)) (hcode : codeLines s = codeLines t) :
    (check file s).Perm (check file t) ∧
      (importLines s = importLines t → check file s = check file t) := by
  constructor
  · rw [check_eq, check_eq]
    have hprefixes := (Tally.repeated_perm (prefixes_perm himports)).map fun entry =>
      (Finding.repeatedPrefix entry.1 entry.2).toDiagnostic file
    have hnames := (reportedNames_perm hs ht hcode himports).map (Diagnostic.unused file)
    exact hprefixes.append hnames
  · intro hsame
    have hprefixes : prefixes s = prefixes t := by rw [prefixes, hsame, prefixes]
    have hnames : importedNames s = importedNames t := by rw [importedNames, hsame, importedNames]
    rw [check_eq, check_eq, hprefixes, reportedNames_eq_of_importedNames hs ht hcode hnames]

/-- A file whose imports change places and whose parameter list is spread over other lines. -/
theorem check_perm_of_same_code_spread :
    let s := "use A\\B\\C;\nuse A\\B\\D;\nfunction f(C $c,\n\nE $e)\n".toList
    let t := "\nfunction f(C $c,\nuse A\\B\\D;\nE $e)\n\nuse A\\B\\C;".toList
    s ≠ t ∧ Clean s ∧ Clean t ∧ (importLines s).Perm (importLines t) ∧ codeLines s = codeLines t ∧
      (check "f.php".toList s).Perm (check "f.php".toList t) := by
  intro s t
  have hs : Clean s := by decide +kernel
  have ht : Clean t := by decide +kernel
  have himports : (importLines s).Perm (importLines t) := by decide +kernel
  have hcode : codeLines s = codeLines t := by decide +kernel
  exact ⟨by decide +kernel, hs, ht, himports, hcode,
    (check_perm_of_same_code "f.php".toList hs ht himports hcode).1⟩

end ImportLint
