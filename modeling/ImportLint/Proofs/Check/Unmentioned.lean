import ImportLint.Proofs.Check.Unused
import ImportLint.Proofs.Usage.Mention

/-!
# Imports do not vouch for imports

The text of an import line looks like a use of its own name, and of every name that it contains. It
is not read as one, because the import lines are emptied before the tests are made. So a name that
no other line mentions is unused, however many imports mention it. The one way out is excluded by
hypothesis: a line above that repeats the text of an import would lose that text in its place, and
the import line would stay.
-/

namespace ImportLint

open Text Import

variable {text name : Text}

theorem isUsed_remaining_of_unmentioned (h : Unshadowed text) (hfree : '\n' ∉ name)
    (hne : name ≠ []) (hother : ∀ line ∈ otherLines text, ¬ name <:+: line) :
    isUsed name (remaining text) = false := by
  refine Bool.eq_false_iff.2 ?_
  intro hused
  rcases exists_line_of_infix hfree hne (infix_of_isUsed hused) with ⟨left, hleft, hin⟩
  rw [lines_remaining_of_unshadowed h] at hleft
  rcases List.mem_map.1 hleft with ⟨line, hline, rfl⟩
  by_cases himport : isImportLine line = true
  · -- Of an import nothing is left that could mention a name.
    have hempty : blankImport line = [] := by simp [blankImport, himport]
    rw [hempty] at hin
    exact hne (List.infix_nil.1 hin)
  · have hsame : blankImport line = line := by simp [blankImport, himport]
    rw [hsame] at hin
    exact hother line (List.mem_filter.2 ⟨hline, by simp [himport]⟩) hin

theorem filter_subject_eq {file : Text} {names : List Text} (hnodup : names.Nodup)
    (hmem : name ∈ names) :
    (names.map (Diagnostic.unused file)).filter (fun d => d.subject == name) =
      [Diagnostic.unused file name] := by
  have hone : names.filter (fun n => n == name) = [name] := by
    rw [List.filter_beq, List.count_eq_one_of_mem hnodup hmem, List.replicate_one]
  have hsubject : (fun d : Diagnostic => d.subject == name) ∘ Diagnostic.unused file =
      fun n => n == name := rfl
  rw [List.filter_map, hsubject, hone, List.map_singleton]

/-- A name that an import brings in and that no other line mentions is reported as unused exactly
once. -/
theorem check_reports_unmentioned_once (file : Text) (h : Unshadowed text) (hne : name ≠ [])
    (himported : ∃ line ∈ lines text, isImportLine line = true ∧ BringsIn line name)
    (hother : ∀ line ∈ otherLines text, ¬ name <:+: line) :
    (unusedImports (check file text)).filter (fun d => d.subject == name) =
      [Diagnostic.unused file name] := by
  have hmem : name ∈ importedNames text := mem_importedNames_iff.2 himported
  have hfree : '\n' ∉ name := newline_notMem_of_mem_importedNames hmem
  have hunused : isUsed name (remaining text) = false :=
    isUsed_remaining_of_unmentioned h hfree hne hother
  have hreported : name ∈ reportedNames text :=
    mem_reportedNames_iff.2 ⟨hne, hmem, isUsed_eq_false_iff.1 hunused⟩
  have hnodup : (reportedNames text).Nodup := (nodup_eraseDups (importedNames text)).filter _
  rw [unusedImports_check]
  exact filter_subject_eq hnodup hreported

/-- The name is imported three times, once below a group and once as an alias, and a longer name
that contains it is imported too. A line below the imports repeats one of them without the name. -/
theorem check_reports_unmentioned_once_repeated :
    let text :=
      "use A\\Box;\nuse B\\\x7bBox, Sandbox\x7d;\nuse C\\D as Box;\nuse E;\n// use E;\nnew E".toList
    Unshadowed text ∧
      (∃ line ∈ lines text, isImportLine line = true ∧ BringsIn line "Box".toList) ∧
      (∀ line ∈ otherLines text, ¬ "Box".toList <:+: line) ∧
      (unusedImports (check "f.php".toList text)).filter (fun d => d.subject == "Box".toList) =
        [Diagnostic.unused "f.php".toList "Box".toList] := by
  intro text
  have h : Unshadowed text := by decide +kernel
  have himported : ∃ line ∈ lines text, isImportLine line = true ∧ BringsIn line "Box".toList :=
    ⟨"use A\\Box;".toList, by decide +kernel, by decide +kernel,
      mem_namesOn_iff.1 (by decide +kernel)⟩
  have hother : ∀ line ∈ otherLines text, ¬ "Box".toList <:+: line := by decide +kernel
  exact ⟨h, himported, hother,
    check_reports_unmentioned_once "f.php".toList h (by decide) himported hother⟩

end ImportLint
