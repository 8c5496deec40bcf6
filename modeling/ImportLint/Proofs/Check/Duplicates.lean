import ImportLint.Proofs.Check.Basic
import ImportLint.Proofs.Import.Prefix

/-!
# Repeated prefixes are counted exactly

The counts are kept while the clauses are read, in a tally that grows with each new prefix. The
theorem of this module compares the report with a count over the import lines that keeps nothing:
`prefixCount` asks every line for one prefix.
-/

namespace ImportLint

open Text Import

variable {file text p : Text}

/-- How many import lines of a text have a prefix, repeated lines counted each time. -/
def prefixCount (text p : Text) : Nat :=
  (importLines text).countP fun line => decide (HasPrefix (clauseOf line) p)

theorem prefixOf?_beq_some (clause p : Text) :
    (prefixOf? clause == some p) = decide (HasPrefix clause p) := by
  rw [Bool.eq_iff_iff, beq_iff_eq, decide_eq_true_iff]
  exact prefixOf?_eq_some_iff

theorem count_prefixes_eq (text p : Text) : (prefixes text).count p = prefixCount text p := by
  have hcount : (prefixes text).count p =
      (importLines text).countP fun line => prefixOf? (clauseOf line) == some p :=
    List.count_filterMap
  simp only [hcount, prefixOf?_beq_some, prefixCount]

def reportedPrefixes (text : Text) : List Text :=
  (prefixes text).eraseDups.filter fun p => decide (1 < prefixCount text p)

theorem duplicateNamespaces_eq_map (file text : Text) :
    duplicateNamespaces (check file text) =
      (reportedPrefixes text).map fun p => Diagnostic.duplicate file p (prefixCount text p) := by
  have hmany : (fun entry : Text × Int => decide (1 < entry.2)) ∘
      (fun p => (p, ((prefixes text).count p : Int))) =
        fun p => decide (1 < prefixCount text p) := by
    funext p
    simp only [Function.comp_apply, count_prefixes_eq, decide_eq_decide]
    omega
  rw [duplicateNamespaces_check, Tally.repeated, Tally.ofKeys_eq, List.filter_map, hmany,
    List.map_map, reportedPrefixes]
  refine List.map_congr_left ?_
  intro p _
  rw [← count_prefixes_eq]
  rfl

theorem subjects_duplicateNamespaces (file text : Text) :
    (duplicateNamespaces (check file text)).map (·.subject) = reportedPrefixes text := by
  rw [duplicateNamespaces_eq_map, List.map_map]
  exact List.map_id' (reportedPrefixes text)

theorem mem_reportedPrefixes_iff : p ∈ reportedPrefixes text ↔ 1 < prefixCount text p := by
  rw [reportedPrefixes, List.mem_filter, List.mem_eraseDups, decide_eq_true_iff]
  constructor
  · intro h
    exact h.2
  · intro hmany
    have hpos : 0 < (prefixes text).count p := by
      rw [count_prefixes_eq]
      omega
    exact ⟨List.count_pos_iff.1 hpos, hmany⟩

theorem pairwise_reportedPrefixes (text : Text) :
    (reportedPrefixes text).Pairwise fun p q =>
      (importLines text).findIdx (fun line => decide (HasPrefix (clauseOf line) p)) <
        (importLines text).findIdx fun line => decide (HasPrefix (clauseOf line) q) := by
  refine List.Pairwise.filter _ ?_
  refine (pairwise_idxOf_eraseDups (prefixes text)).imp_of_mem ?_
  intro p q hp _ hlt
  -- Lines without a prefix stand in between, so the positions differ, but not their order.
  have hfirst := findIdx_lt_of_idxOf_filterMap_lt hlt (List.mem_eraseDups.1 hp)
  simpa only [prefixOf?_beq_some] using hfirst

/-- Lines that have no prefix may come and go. -/
theorem prefixes_eq_of_filter {s t : Text}
    (h : (importLines s).filter (fun line => decide ('{' ∉ clauseOf line ∧ '\\' ∈ clauseOf line)) =
      (importLines t).filter fun line => decide ('{' ∉ clauseOf line ∧ '\\' ∈ clauseOf line)) :
    prefixes s = prefixes t := by
  have hcounted : ∀ u : Text, prefixes u =
      ((importLines u).filter fun line =>
        decide ('{' ∉ clauseOf line ∧ '\\' ∈ clauseOf line)).filterMap
          fun line => prefixOf? (clauseOf line) := by
    intro u
    rw [List.filterMap_filter, prefixes]
    refine List.filterMap_congr ?_
    intro line _
    cases hp : prefixOf? (clauseOf line) with
    | none => simp
    | some p =>
        have hhas : HasPrefix (clauseOf line) p := prefixOf?_eq_some_iff.1 hp
        simp [hhas.1, hhas.backslash_mem]
  rw [hcounted s, hcounted t, h]

/-- The repeated prefixes of a file are reported before all else, each once, with the number of the
lines that import below it, and in the order of the first of these lines. Groups and imports of one
segment have no part in it. -/
theorem check_counts_prefixes_exactly (file text : Text) :
    check file text =
        duplicateNamespaces (check file text) ++ unusedImports (check file text) ∧
      ((duplicateNamespaces (check file text)).map (·.subject)).Nodup ∧
      (∀ p, p ∈ (duplicateNamespaces (check file text)).map (·.subject) ↔
        1 < prefixCount text p) ∧
      (∀ d ∈ duplicateNamespaces (check file text),
        d.message = "Namespace ".toList ++ d.subject ++ " appears ".toList ++
            Text.ofNat (prefixCount text d.subject) ++ " times in ".toList ++ file ∧
          d.file = file) ∧
      ((duplicateNamespaces (check file text)).map (·.subject)).Pairwise (fun p q =>
        (importLines text).findIdx (fun line => decide (HasPrefix (clauseOf line) p)) <
          (importLines text).findIdx fun line => decide (HasPrefix (clauseOf line) q)) ∧
      ∀ other : Text,
        (importLines other).filter
              (fun line => decide ('{' ∉ clauseOf line ∧ '\\' ∈ clauseOf line)) =
            (importLines text).filter
              (fun line => decide ('{' ∉ clauseOf line ∧ '\\' ∈ clauseOf line)) →
          duplicateNamespaces (check file other) = duplicateNamespaces (check file text) := by
  refine ⟨check_eq_append file text, ?_, ?_, ?_, ?_, ?_⟩
  · rw [subjects_duplicateNamespaces]
    exact (nodup_eraseDups (prefixes text)).filter _
  · intro p
    rw [subjects_duplicateNamespaces]
    exact mem_reportedPrefixes_iff
  · intro d hd
    rw [duplicateNamespaces_eq_map] at hd
    rcases List.mem_map.1 hd with ⟨p, -, rfl⟩
    exact ⟨rfl, rfl⟩
  · rw [subjects_duplicateNamespaces]
    exact pairwise_reportedPrefixes text
  · intro other hsame
    rw [duplicateNamespaces_check, duplicateNamespaces_check, prefixes_eq_of_filter hsame]

/-- A leading backslash belongs to the prefix and so does an alias after the only backslash. A group
below the same namespace and an import of one segment change nothing. -/
theorem check_counts_prefixes_exactly_mixed :
    let text := "use A\\B\\C;\nuse \\D\\E;\nuse A\\B;\nuse \\D\\F;\nuse A\\B as G;".toList
    let other := ("use H;\n".toList ++ text) ++ "\nuse A\\B\\\x7bI, J\x7d;".toList
    (duplicateNamespaces (check "f.php".toList other)).map (·.subject) =
        ["A\\B".toList, "\\D".toList] ∧
      prefixCount other "A\\B".toList = 2 ∧
      duplicateNamespaces (check "f.php".toList other) =
        duplicateNamespaces (check "f.php".toList text) := by
  intro text other
  have hexact := check_counts_prefixes_exactly "f.php".toList text
  rcases hexact with ⟨-, -, -, -, -, hsame⟩
  exact ⟨by decide +kernel, by decide +kernel, hsame other (by decide +kernel)⟩

end ImportLint
