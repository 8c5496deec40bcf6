import ImportLint.Config
import ImportLint.Proofs.Text.LineEnd
import ImportLint.Proofs.Text.Utf8
import ImportLint.Proofs.Toml.Statements
import ImportLint.Proofs.Tree.Places

/-!
# Writing and reading a configuration

A configuration is written with one line for each key it has, in any order, either at the top of the
file or below a header. Whatever its lists hold, it is loaded as it was written, without a report
(`load_of_isWritten`). Keys above the header are hidden by it.
-/

namespace ImportLint

namespace Config

open Text Toml

variable {config : Config} {lines : List Text} {root : Table} {upper : Bool}

/-! ## Lines of a configuration -/

def entries (config : Config) : List (Text × List Text) :=
  [("include".toList, config.included), ("exclude".toList, config.excluded),
    ("extensions".toList, config.extensions)].filterMap fun (key, list) => list.map fun ts => (key, ts)

/-- Lines with one entry each, in any order, and blank lines anywhere. -/
def LaidOut (upper : Bool) (config : Config) (lines : List Text) : Prop :=
  ∃ entries : List (Text × List Text), entries.Perm config.entries ∧
    lines.filter (!·.isEmpty) = entries.map (writeEntry upper)

/-- The lines of a file in which a configuration is written. -/
inductive IsWritten (config : Config) : List Text → Prop where
  | top {upper : Bool} {lines : List Text} : LaidOut upper config lines → IsWritten config lines
  /-- Below the header. What is written above it does not count. -/
  | below {upper upper' : Bool} {other : Config} {above lines : List Text} :
      LaidOut upper' other above → LaidOut upper config lines →
        IsWritten config (above ++ "[namespaces]".toList :: lines)

/-! ## Entries -/

def keys : List Text := ["include".toList, "exclude".toList, "extensions".toList]

theorem map_fst_entries_sublist (config : Config) : (config.entries.map (·.1)).Sublist keys := by
  rcases config with ⟨included, excluded, extensions⟩
  cases included <;> cases excluded <;> cases extensions <;> simp [entries, keys]

theorem nodup_entries (config : Config) : (config.entries.map (·.1)).Nodup :=
  (map_fst_entries_sublist config).nodup (by decide)

theorem lookup_entries (config : Config) :
    config.entries.lookup "include".toList = config.included ∧
      config.entries.lookup "exclude".toList = config.excluded ∧
        config.entries.lookup "extensions".toList = config.extensions := by
  rcases config with ⟨included, excluded, extensions⟩
  cases included <;> cases excluded <;> cases extensions <;> exact ⟨rfl, rfl, rfl⟩

variable {entries : List (Text × List Text)}

theorem fst_mem_keys (h : entries.Perm config.entries) {entry : Text × List Text}
    (hentry : entry ∈ entries) : entry.1 ∈ keys :=
  (map_fst_entries_sublist config).subset (List.mem_map_of_mem (h.subset hentry))

theorem nodup_of_perm (h : entries.Perm config.entries) : (entries.map (·.1)).Nodup :=
  (h.map (·.1)).nodup_iff.2 (nodup_entries config)

theorem isBareKey_of_perm (h : entries.Perm config.entries) :
    ∀ entry ∈ entries, isBareKey entry.1 = true := by
  have hkeys : ∀ key ∈ keys, isBareKey key = true := by decide
  exact fun entry hentry => hkeys _ (fst_mem_keys h hentry)

/-! ## Tables -/

theorem listAt_tableOfEntries (path : Text) (entries : List (Text × List Text)) (key : Text) :
    listAt path (tableOfEntries entries) key = (entries.lookup key, []) := by
  rw [listAt, lookup_tableOfEntries]
  cases entries.lookup key with
  | none => rfl
  | some ts => simp only [Option.map_some, texts?_map_text]

theorem ofTable_of_perm (h : entries.Perm config.entries) (hroot : keyTable root = tableOfEntries entries)
    (path : Text) : ofTable path root = (config, []) := by
  have hlookup : ∀ key, entries.lookup key = config.entries.lookup key :=
    Entries.lookup_perm h (nodup_of_perm h)
  rcases lookup_entries config with ⟨hincluded, hexcluded, hextensions⟩
  simp only [ofTable, hroot, listAt_tableOfEntries, hlookup, hincluded, hexcluded, hextensions,
    List.append_nil]

/-! ## Reading lines -/

theorem lookup_namespaces (h : entries.Perm config.entries) :
    (tableOfEntries entries).lookup "namespaces".toList = none := by
  have hnone : entries.lookup "namespaces".toList = none := by
    rw [List.lookup_eq_none_iff]
    intro entry hentry
    have hkeys : ∀ key ∈ keys, "namespaces".toList != key := by decide
    exact hkeys _ (fst_mem_keys h hentry)
  rw [lookup_tableOfEntries, hnone, Option.map_none]

/-- Lines of a configuration fill an open table that has none of the keys. -/
theorem readsLines_of_laidOut {doc : Document} {header : List Text} {whole : Table → Table}
    (hopen : doc.Opens header whole []) (h : LaidOut upper config lines) :
    ∃ entries next, entries.Perm config.entries ∧ doc.ReadsLines lines next ∧
      next.Opens header whole (tableOfEntries entries) := by
  rcases h with ⟨entries, hperm, hlines⟩
  rcases hopen.readsLines_entries (isBareKey_of_perm hperm) (nodup_of_perm hperm)
    (fun _ _ => List.lookup_nil) upper with ⟨next, hreads, hnext⟩
  rw [← hlines] at hreads
  exact ⟨entries, next, hperm, hreads.of_filter, hnext⟩

theorem read_of_isWritten (h : config.IsWritten lines) :
    ∃ entries root, entries.Perm config.entries ∧ read (join ['\n'] lines) = .ok root ∧
      keyTable root = tableOfEntries entries := by
  cases h with
  | top h =>
      rcases readsLines_of_laidOut Document.opens_empty h with ⟨entries, doc, hperm, hreads, hdoc⟩
      refine ⟨entries, doc.root, hperm, read_of_readsLines hreads, ?_⟩
      rw [hdoc.root_eq, id, keyTable, lookup_namespaces hperm]
  | below habove h =>
      -- The entries above the header stay in the root, but they are not looked up there.
      rcases readsLines_of_laidOut Document.opens_empty habove with
        ⟨hidden, doc, hhidden, hreads, hdoc⟩
      have hnone := lookup_namespaces hhidden
      rcases hdoc.reads_header (by decide) hnone with ⟨next, hheader, hnext⟩
      rcases readsLines_of_laidOut hnext h with ⟨entries, last, hperm, hrest, hlast⟩
      refine ⟨entries, last.root, hperm, read_of_readsLines (hreads.append (.line hheader hrest)), ?_⟩
      rw [hlast.root_eq, keyTable, List.lookup_append, hnone, Option.none_or, List.lookup_cons_self]

/-! ## Loading -/

theorem notMem_of_laidOut (h : LaidOut upper config lines) : ∀ line ∈ lines, '\r' ∉ line := by
  rcases h with ⟨entries, hperm, hlines⟩
  intro line hline
  by_cases hblank : line = []
  · rw [hblank]
    exact List.not_mem_nil
  · have hmem : line ∈ lines.filter (!·.isEmpty) := by simp [hline, hblank]
    rw [hlines] at hmem
    rcases List.mem_map.1 hmem with ⟨entry, hentry, rfl⟩
    have hkeys : ∀ key ∈ keys, '\r' ∉ key := by decide
    exact notMem_writeEntry (by decide) (hkeys _ (fst_mem_keys hperm hentry))

theorem notMem_of_isWritten (h : config.IsWritten lines) : '\r' ∉ join ['\n'] lines := by
  refine notMem_join (by decide) ?_
  cases h with
  | top h => exact notMem_of_laidOut h
  | below habove h =>
      intro line hline
      rcases List.mem_append.1 hline with hline | hline
      · exact notMem_of_laidOut habove line hline
      · rcases List.mem_cons.1 hline with rfl | hline
        · decide
        · exact notMem_of_laidOut h line hline

/-- A written configuration is loaded as it was written, without a report. -/
theorem load_of_isWritten {tree : Node} {directory : Path} {lineEnd : LineEnd}
    (h : config.IsWritten lines)
    (hfile : tree.readBytes (directory.below [fileName]) =
      .ok (Utf8.encode (lineEnd.write (join ['\n'] lines)))) :
    load tree directory = .ok (config, []) := by
  rcases read_of_isWritten h with ⟨entries, root, hperm, hread, hroot⟩
  have htext : textAt tree (directory.below [fileName]) = .ok (join ['\n'] lines) := by
    simp only [textAt, hfile, Utf8.decode?_encode]
    rw [LineEnd.unifyNewlines_write lineEnd (notMem_of_isWritten h)]
  -- Where a file can be read, there is one.
  have hexists : tree.existsAt (directory.below [fileName]) = .ok true := by
    rw [Node.readBytes] at hfile
    rw [Node.existsAt]
    cases hplace : tree.locate (directory.below [fileName]) with
    | error e =>
        rw [hplace] at hfile
        cases hfile
    | ok place => rfl
  simp only [load, hexists, readFrom, htext, hread, ofTable_of_perm hperm hroot]

/-- Keys in another order than usual, strings with the marks of the format in them, and other keys above
the header. -/
theorem load_of_isWritten_below_others :
    let config : Config :=
      { included := some ["a\"#]\\,\r\n=[b".toList, []], extensions := some ["\u2028é\x7f".toList] }
    let lines := ["exclude = [\"x\"]".toList, [], "[namespaces]".toList,
      "extensions = [\"\u2028é\\u007F\"]".toList,
      "include = [\"a\\u0022#]\\u005C,\\u000D\\u000A=[b\", \"\"]".toList, []]
    let bytes := Utf8.encode (LineEnd.both.write (join ['\n'] lines))
    let tree : Node := .dir [("p".toList, .dir [(fileName, .file bytes)])]
    let directory : Path := ⟨["p".toList], false⟩
    config.IsWritten lines ∧
      tree.readBytes (directory.below [fileName]) = .ok bytes ∧
      load tree directory = .ok (config, []) := by
  intro config lines bytes tree directory
  have habove : LaidOut true { excluded := some ["x".toList] } ["exclude = [\"x\"]".toList, []] :=
    ⟨_, .refl _, by decide⟩
  have hlaid : LaidOut true config (lines.drop 3) := by
    refine ⟨config.entries.reverse, List.reverse_perm _, by decide⟩
  have hwritten : config.IsWritten lines := .below habove hlaid
  have hread : tree.readBytes (directory.below [fileName]) = .ok bytes := by decide +kernel
  exact ⟨hwritten, hread, load_of_isWritten hwritten hread⟩

end Config

end ImportLint
