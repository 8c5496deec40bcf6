import ImportLint.Proofs.Check.Duplicates
import ImportLint.Proofs.Check.Layout
import ImportLint.Proofs.Check.Unused

/-!
# Deleting what is reported

If the imports that are reported as unused are deleted, the rest of the file reads as before. None of
those that are left loses the place that used it, so one round of deletions is enough. The prefixes
of what is left are imported at most as often as before.

Groups are left out: a reported member of a group cannot be deleted with its line.
-/

namespace ImportLint

open Text Import

variable {file text : Text}

/-! ## Texts with some of their lines -/

/-- The empty line that joining no lines leaves is seen by no test that an empty line fails. -/
theorem filter_lines_join {ls : List Text} {test : Text → Bool} (hls : ∀ line ∈ ls, '\n' ∉ line)
    (htest : test [] = false) : (lines (join ['\n'] ls)).filter test = ls.filter test := by
  cases ls with
  | nil => simp [join, lines, htest]
  | cons line ls => rw [lines_join (List.cons_ne_nil line ls) hls]

/-- The text without the import lines whose clause a test takes. -/
def dropImports (test : Text → Bool) (text : Text) : Text :=
  join ['\n'] ((lines text).filter fun line => !(isImportLine line && test (clauseOf line)))

theorem filter_lines_dropImports {keep : Text → Bool} (test : Text → Bool) (text : Text)
    (hkeep : keep [] = false) :
    (lines (dropImports test text)).filter keep =
      (lines text).filter fun line => keep line && !(isImportLine line && test (clauseOf line)) := by
  have hls : ∀ line ∈ (lines text).filter fun line => !(isImportLine line && test (clauseOf line)),
      '\n' ∉ line := by
    intro line hline
    exact newline_notMem_of_mem_lines (List.mem_of_mem_filter hline)
  rw [dropImports, filter_lines_join hls hkeep, List.filter_filter]

theorem importLines_dropImports (test : Text → Bool) (text : Text) :
    importLines (dropImports test text) =
      (importLines text).filter fun line => !test (clauseOf line) := by
  rw [importLines, filter_lines_dropImports test text isImportLine_nil, importLines,
    List.filter_filter]
  refine List.filter_congr ?_
  intro line _
  cases isImportLine line <;> simp

theorem codeLines_eq_filter (text : Text) :
    codeLines text = (lines text).filter fun line => !line.isEmpty && !isImportLine line := by
  rw [codeLines, otherLines, List.filter_filter]

theorem codeLines_dropImports (test : Text → Bool) (text : Text) :
    codeLines (dropImports test text) = codeLines text := by
  rw [codeLines_eq_filter, filter_lines_dropImports test text (by decide), codeLines_eq_filter]
  refine List.filter_congr ?_
  intro line _
  cases isImportLine line <;> simp

/-- Only non-empty lines can hold an import, so the code lines and the imports tell whether a text
is clean. -/
theorem clean_of_codeLines {s t : Text} (hs : Clean s) (hcode : codeLines t = codeLines s)
    (himports : importLines t ⊆ importLines s) : Clean t := by
  intro other hother line hline hin
  have himport : isImportLine line = true := (List.mem_filter.1 hline).2
  have hne : other ≠ [] := by
    rintro rfl
    rw [List.infix_nil.1 hin] at himport
    exact absurd himport (by decide)
  have hmem : other ∈ codeLines s := by
    rw [← hcode]
    exact List.mem_filter.2 ⟨hother, by simp [hne]⟩
  exact hs other (List.mem_of_mem_filter hmem) line (himports hline) hin

theorem clean_dropImports (h : Clean text) (test : Text → Bool) : Clean (dropImports test text) := by
  refine clean_of_codeLines h (codeLines_dropImports test text) ?_
  rw [importLines_dropImports]
  exact List.filter_sublist.subset

theorem prefixCount_dropImports_le (test : Text → Bool) (text p : Text) :
    prefixCount (dropImports test text) p ≤ prefixCount text p := by
  rw [prefixCount, importLines_dropImports]
  exact List.filter_sublist.countP_le

/-! ## The unused imports deleted -/

def withoutUnused (file text : Text) : Text :=
  dropImports (fun clause =>
    ((unusedImports (check file text)).map (·.subject)).contains (shortName clause)) text

theorem reportedNames_withoutUnused (file : Text) (hclean : Clean text)
    (hsingle : ∀ line ∈ importLines text, '{' ∉ clauseOf line) :
    reportedNames (withoutUnused file text) = [] := by
  refine List.eq_nil_iff_forall_not_mem.2 ?_
  intro name hname
  rcases mem_reportedNames_iff.1 hname with ⟨hne, himported, hunused⟩
  have hfree : '\n' ∉ name := newline_notMem_of_mem_importedNames himported
  rcases List.mem_flatMap.1 himported with ⟨line, hline, hon⟩
  rw [withoutUnused, importLines_dropImports] at hline
  rcases List.mem_filter.1 hline with ⟨hline, hkept⟩
  have hshort : name = shortName (clauseOf line) := by
    simpa [namesOn, members_single (hsingle line hline)] using hon
  -- The code has not changed, so the name was unused before and its line had to go.
  have hsame : isUsed name (remaining (withoutUnused file text)) = isUsed name (remaining text) :=
    isUsed_remaining_congr (clean_dropImports hclean _) hclean (codeLines_dropImports _ text) hfree
  have hbefore : isUsed name (remaining text) = false :=
    hsame.symm.trans (isUsed_eq_false_iff.2 hunused)
  have hreported : name ∈ reportedNames text := by
    refine mem_reportedNames_iff.2 ⟨hne, ?_, isUsed_eq_false_iff.1 hbefore⟩
    exact List.mem_flatMap.2 ⟨line, hline, hon⟩
  rw [subjects_unusedImports, ← hshort] at hkept
  simp [hreported] at hkept

/-- Deleting the imports that are reported as unused leaves none to report, and of the prefixes it
leaves only such as were reported before, with counts that have not grown. -/
theorem check_withoutUnused (file : Text) (hclean : Clean text)
    (hsingle : ∀ line ∈ importLines text, '{' ∉ clauseOf line) :
    unusedImports (check file (withoutUnused file text)) = [] ∧
      ∀ d ∈ duplicateNamespaces (check file (withoutUnused file text)),
        ∃ p after before, d = Diagnostic.duplicate file p after ∧
          Diagnostic.duplicate file p before ∈ check file text ∧ after ≤ before := by
  constructor
  · rw [unusedImports_check, reportedNames_withoutUnused file hclean hsingle, List.map_nil]
  · intro d hd
    rw [duplicateNamespaces_eq_map] at hd
    rcases List.mem_map.1 hd with ⟨p, hp, rfl⟩
    have hle : prefixCount (withoutUnused file text) p ≤ prefixCount text p :=
      prefixCount_dropImports_le _ text p
    have hmany : 1 < prefixCount text p :=
      Nat.lt_of_lt_of_le (mem_reportedPrefixes_iff.1 hp) hle
    refine ⟨p, _, prefixCount text p, rfl, ?_, hle⟩
    exact duplicate_mem_check_iff.2 ⟨count_prefixes_eq text p, hmany⟩

/-- Two of four imports go, one of them because the only line that mentions its name is an import.
The prefix of the others is still reported, with one import less. -/
theorem check_withoutUnused_twice :
    let text := "use A\\B\\C;\nuse A\\B\\D;\nuse A\\B\\E;\nuse C as F;\nnew D(); E::f()".toList
    Clean text ∧ (∀ line ∈ importLines text, '{' ∉ clauseOf line) ∧
      withoutUnused "f.php".toList text =
        "use A\\B\\D;\nuse A\\B\\E;\nnew D(); E::f()".toList ∧
      unusedImports (check "f.php".toList (withoutUnused "f.php".toList text)) = [] := by
  intro text
  have hclean : Clean text := by decide +kernel
  have hsingle : ∀ line ∈ importLines text, '{' ∉ clauseOf line := by decide +kernel
  exact ⟨hclean, hsingle, by decide +kernel, (check_withoutUnused "f.php".toList hclean hsingle).1⟩

end ImportLint
