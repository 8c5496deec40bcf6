import ImportLint.Check
import ImportLint.Proofs.Import.Group
import ImportLint.Proofs.Import.Lines
import ImportLint.Proofs.Import.ShortName
import ImportLint.Proofs.Tally
import ImportLint.Proofs.Usage.Stability

/-!
# The findings of a file by its import lines

The diagnostics of a file come from two lists that are read off its import lines from top to bottom:
`prefixes`, with one entry for every single import that has two segments, and `importedNames`, with
one entry for every import. Both keep their repetitions. What the check reports is

* of `prefixes`, each element that occurs more than once, with its count;
* of `importedNames`, each non-empty element that what remains of the text does not use.

The theorems about the check rest on these two descriptions, `duplicateNamespaces_check` and
`unusedImports_check`.
-/

namespace ImportLint

open Text Import

variable {file text name : Text}

/-! ## Diagnostics of either kind -/

def Diagnostic.duplicate (file namespacePrefix : Text) (count : Nat) : Diagnostic where
  kind := "duplicate_namespace".toList
  severity := "red".toList
  subject := namespacePrefix
  message := "Namespace ".toList ++ namespacePrefix ++ " appears ".toList ++ Text.ofNat count ++
    " times in ".toList ++ file
  file := file

def Diagnostic.unused (file name : Text) : Diagnostic where
  kind := "unused_import".toList
  severity := "red".toList
  subject := name
  message := "Unused: ".toList ++ name ++ " in ".toList ++ file
  file := file

def duplicateNamespaces (ds : List Diagnostic) : List Diagnostic :=
  ds.filter fun d => d.kind == "duplicate_namespace".toList

def unusedImports (ds : List Diagnostic) : List Diagnostic :=
  ds.filter fun d => d.kind == "unused_import".toList

theorem ofNat_injective : Function.Injective Text.ofNat := by
  intro m n h
  have hread : ∀ k : Nat, Nat.ofDigitChars 10 (Text.ofNat k) 0 = k :=
    fun k => Nat.ofDigitChars_ten_toDigits
  rw [← hread m, ← hread n, h]

theorem Diagnostic.duplicate_inj {p q : Text} {m n : Nat}
    (h : Diagnostic.duplicate file p m = Diagnostic.duplicate file q n) : p = q ∧ m = n := by
  -- Only the message has the count. With equal subjects, what stands around it cancels.
  have hsubject : p = q := congrArg Diagnostic.subject h
  have hmessage : "Namespace ".toList ++ p ++ " appears ".toList ++ Text.ofNat m ++
        " times in ".toList ++ file =
      "Namespace ".toList ++ q ++ " appears ".toList ++ Text.ofNat n ++
        " times in ".toList ++ file := congrArg Diagnostic.message h
  subst hsubject
  have hcount : Text.ofNat m = Text.ofNat n := by
    simpa only [List.append_assoc, List.append_cancel_left_eq, List.append_cancel_right_eq]
      using hmessage
  exact ⟨rfl, ofNat_injective hcount⟩

/-! ## Reading the import lines -/

/-- The short names on one import line, from left to right. -/
def namesOn (line : Text) : List Text := (members (clauseOf line)).map shortName

def importedNames (text : Text) : List Text := (importLines text).flatMap namesOn

def prefixes (text : Text) : List Text :=
  (importLines text).filterMap fun line => prefixOf? (clauseOf line)

def reportedNames (text : Text) : List Text :=
  (importedNames text).eraseDups.filter fun name =>
    !name.isEmpty && !isUsed name (remaining text)

theorem newline_notMem_of_mem_importedNames (h : name ∈ importedNames text) : '\n' ∉ name := by
  rcases List.mem_flatMap.1 h with ⟨line, hline, hname⟩
  rcases List.mem_map.1 hname with ⟨member, hmember, rfl⟩
  have hfree : '\n' ∉ line := newline_notMem_of_mem_importLines hline
  -- Name, member and clause are each made from the one before by dropping characters.
  have hclause : clauseOf line ⊆ line :=
    ((List.dropLast_sublist _).trans (List.drop_sublist _ line)).subset
  intro hmem
  have hmember : IsMember member (clauseOf line) := mem_members_iff.1 hmember
  exact hfree (hclause (hmember.subset ((shortName_sublist member).subset hmem)))

theorem shortNames_names_clauses (text : Text) :
    shortNames (names (clauses text)) =
      (importedNames text).eraseDups.filter fun name => !name.isEmpty := by
  -- Empty names go before repetitions do; the other order gives the same list.
  have hraw : (names (clauses text)).map shortName = importedNames text := by
    simp only [names, clauses_eq_map_importLines, importedNames, List.flatMap_map, List.map_flatMap]
    rfl
  rw [shortNames, hraw, filter_eraseDups]

theorem unusedNames_eq (text : Text) : unusedNames text = (reportedNames text).map .unusedName := by
  simp only [unusedNames, shortNames_names_clauses, reportedNames, List.filter_filter]
  simp only [Bool.and_comm]

theorem prefixCounts_clauses (text : Text) :
    prefixCounts (clauses text) = Tally.ofKeys (prefixes text) := by
  rw [prefixCounts, clauses_eq_map_importLines, List.filterMap_map]
  rfl

/-! ## The two parts of a check -/

/-- All that is reported, prefixes first. -/
theorem check_eq (file text : Text) :
    check file text =
      ((Tally.ofKeys (prefixes text)).repeated.map fun entry =>
        (Finding.repeatedPrefix entry.1 entry.2).toDiagnostic file) ++
      (reportedNames text).map (Diagnostic.unused file) := by
  simp only [check, findings, repeatedPrefixes, prefixCounts_clauses, unusedNames_eq,
    List.map_append, List.map_map]
  rfl

theorem kind_repeatedPrefix (file p : Text) (count : Int) :
    ((Finding.repeatedPrefix p count).toDiagnostic file).kind = "duplicate_namespace".toList := rfl

theorem kind_unused (file name : Text) :
    (Diagnostic.unused file name).kind = "unused_import".toList := rfl

theorem duplicateNamespaces_check (file text : Text) :
    duplicateNamespaces (check file text) =
      (Tally.ofKeys (prefixes text)).repeated.map fun entry =>
        (Finding.repeatedPrefix entry.1 entry.2).toDiagnostic file := by
  have hother : ("unused_import".toList == "duplicate_namespace".toList) = false := by decide
  simp only [check_eq, duplicateNamespaces, List.filter_append, List.filter_map, Function.comp_def,
    kind_repeatedPrefix, kind_unused, hother, beq_self_eq_true]
  simp

theorem unusedImports_check (file text : Text) :
    unusedImports (check file text) = (reportedNames text).map (Diagnostic.unused file) := by
  have hother : ("duplicate_namespace".toList == "unused_import".toList) = false := by decide
  simp only [check_eq, unusedImports, List.filter_append, List.filter_map, Function.comp_def,
    kind_repeatedPrefix, kind_unused, hother, beq_self_eq_true]
  simp

/-- The repeated prefixes come first, the unused names after them, and nothing else is reported. -/
theorem check_eq_append (file text : Text) :
    check file text =
      duplicateNamespaces (check file text) ++ unusedImports (check file text) := by
  rw [duplicateNamespaces_check, unusedImports_check, ← check_eq]

/-- A prefix is reported with a count just if it is imported as often, and more than once. -/
theorem duplicate_mem_check_iff {p : Text} {count : Nat} :
    Diagnostic.duplicate file p count ∈ check file text ↔
      (prefixes text).count p = count ∧ 1 < count := by
  have hwritten : ∀ (q : Text) (n : Nat),
      (Finding.repeatedPrefix q n).toDiagnostic file = Diagnostic.duplicate file q n :=
    fun q n => rfl
  constructor
  · intro h
    rw [check_eq, List.mem_append] at h
    rcases h with h | h
    · rcases List.mem_map.1 h with ⟨⟨q, n⟩, hmem, heq⟩
      rcases Tally.mem_repeated_ofKeys.1 hmem with ⟨rfl, hmany⟩
      rcases Diagnostic.duplicate_inj ((hwritten q _).symm.trans heq) with ⟨rfl, rfl⟩
      exact ⟨rfl, by exact_mod_cast hmany⟩
    · -- A diagnostic for an unused name is of the other kind.
      rcases List.mem_map.1 h with ⟨n, -, heq⟩
      have hkind : "unused_import".toList = "duplicate_namespace".toList :=
        congrArg Diagnostic.kind heq
      exact absurd hkind (by decide)
  · rintro ⟨rfl, hmany⟩
    rw [check_eq, List.mem_append]
    left
    refine List.mem_map.2 ⟨(p, ((prefixes text).count p : Int)), ?_, hwritten p _⟩
    exact Tally.mem_repeated_ofKeys.2 ⟨rfl, by exact_mod_cast hmany⟩

end ImportLint
