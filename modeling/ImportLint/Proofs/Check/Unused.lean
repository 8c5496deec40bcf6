import ImportLint.Proofs.Check.Basic

/-!
# Unused names are reported exactly once

A name can be lost, repeated or moved at each step from the text to the report: the scan for import
lines, the expansion of groups, the short names, the removal of repetitions and the nine tests. The
theorem of this module compares the report with the lines of the text.
-/

namespace ImportLint

open Text Import

variable {file text name : Text}

/-- Whether an import line brings a short name into the file: that of its clause, or that of a
member if the clause is a group. -/
def BringsIn (line name : Text) : Prop :=
  ∃ member, IsMember member (clauseOf line) ∧ shortName member = name

theorem mem_namesOn_iff {line : Text} : name ∈ namesOn line ↔ BringsIn line name := by
  simp only [namesOn, List.mem_map, mem_members_iff, BringsIn]

theorem mem_importedNames_iff :
    name ∈ importedNames text ↔
      ∃ line ∈ lines text, isImportLine line = true ∧ BringsIn line name := by
  constructor
  · intro h
    rcases List.mem_flatMap.1 h with ⟨line, hline, hname⟩
    rcases List.mem_filter.1 hline with ⟨hmem, himport⟩
    exact ⟨line, hmem, himport, mem_namesOn_iff.1 hname⟩
  · rintro ⟨line, hmem, himport, hname⟩
    refine List.mem_flatMap.2 ⟨line, ?_, mem_namesOn_iff.2 hname⟩
    exact List.mem_filter.2 ⟨hmem, himport⟩

theorem mem_reportedNames_iff :
    name ∈ reportedNames text ↔
      name ≠ [] ∧ name ∈ importedNames text ∧
        ∀ kind : Usage, Usage.holds name (remaining text) kind = false := by
  rw [reportedNames, List.mem_filter, List.mem_eraseDups, ← isUsed_eq_false_iff]
  constructor
  · rintro ⟨himported, h⟩
    have hparts : ¬ name = [] ∧ isUsed name (remaining text) = false := by simpa using h
    exact ⟨hparts.1, himported, hparts.2⟩
  · rintro ⟨hne, himported, hunused⟩
    exact ⟨himported, by simp [hne, hunused]⟩

theorem subjects_unusedImports (file text : Text) :
    (unusedImports (check file text)).map (·.subject) = reportedNames text := by
  rw [unusedImports_check, List.map_map]
  exact List.map_id' (reportedNames text)

/-- The reported names stand in the order in which the imports first bring them in. -/
theorem pairwise_reportedNames (text : Text) :
    (reportedNames text).Pairwise fun a b =>
      (importedNames text).idxOf a < (importedNames text).idxOf b :=
  (pairwise_idxOf_eraseDups (importedNames text)).filter _

/-- The unused names of a file are reported after the repeated prefixes, each exactly once, in the
order of first appearance: precisely the non-empty short names that an import line brings in and for
which none of the nine tests holds in what remains of the text. -/
theorem check_reports_unused_exactly_once (file text : Text) :
    check file text =
        duplicateNamespaces (check file text) ++ unusedImports (check file text) ∧
      ((unusedImports (check file text)).map (·.subject)).Nodup ∧
      (∀ name, name ∈ (unusedImports (check file text)).map (·.subject) ↔
        name ≠ [] ∧
        (∃ line ∈ lines text, isImportLine line = true ∧ BringsIn line name) ∧
        ∀ kind : Usage, Usage.holds name (remaining text) kind = false) ∧
      ((unusedImports (check file text)).map (·.subject)).Pairwise (fun a b =>
        (importedNames text).idxOf a < (importedNames text).idxOf b) ∧
      ∀ d ∈ unusedImports (check file text),
        d.message = "Unused: ".toList ++ d.subject ++ " in ".toList ++ file ∧ d.file = file := by
  refine ⟨check_eq_append file text, ?_, ?_, ?_, ?_⟩
  · rw [subjects_unusedImports]
    exact (nodup_eraseDups (importedNames text)).filter _
  · intro name
    rw [subjects_unusedImports, mem_reportedNames_iff, mem_importedNames_iff]
  · rw [subjects_unusedImports]
    exact pairwise_reportedNames text
  · intro d hd
    rw [unusedImports_check] at hd
    rcases List.mem_map.1 hd with ⟨name, -, rfl⟩
    exact ⟨rfl, rfl⟩

end ImportLint
