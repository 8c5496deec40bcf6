import ImportLint.Analysis
import ImportLint.Proofs.Discovery.Frame
import ImportLint.Proofs.Report.Kinds
import Mathlib.Data.List.Forall2

/-!
# What a report says about the files

A report is put together from the files one by one. Each file that can be read contributes its own
findings, and the figures of the report are those of the files taken together (`Accounts`). No two
files have the same relative path, so the diagnostics of a report can be told apart by their files,
and those of one file do not depend on what stands in another (`filter_diagnostics`).
-/

namespace ImportLint

open Node

variable {tree tree' : Node} {root : Path} {files : List Place} {place : Place}
  {included excluded extensions : List Text}

/-! ## Files that can be read -/

/-- The files that an analysis below `root` looks at, in order. -/
def selectedBelow (tree : Node) (root : Path) (included excluded extensions : List Text) :
    List Place :=
  tree.collect root (Selection.ofPatterns included excluded (wantedExtensions extensions))

def textBelow? (tree : Node) (root : Path) (file : Place) : Option Text :=
  match tree.readBytes (root.below file) with
  | .ok bytes => some (sourceText bytes)
  | .error _ => none

def readBelow (tree : Node) (root : Path) (files : List Place) : List (Place × Text) :=
  files.filterMap fun file => (textBelow? tree root file).map fun text => (file, text)

def ownDiagnostics (entry : Place × Text) : List Diagnostic := check entry.1.relative entry.2

theorem file_of_mem_check {file text : Text} {d : Diagnostic} (h : d ∈ check file text) :
    d.file = file := by
  rcases List.mem_map.1 h with ⟨finding, -, rfl⟩
  rfl

theorem diagnostics?_analyzeFile (tree : Node) (root : Path) (file : Place) :
    (analyzeFile tree root file).diagnostics? =
      (textBelow? tree root file).map (check file.relative) := by
  rw [analyzeFile, textBelow?]
  cases tree.readBytes (root.below file) with
  | ok bytes => rfl
  | error error => rfl

/-- The files that were read contribute their own diagnostics, and the others nothing. -/
theorem filterMap_diagnostics? (tree : Node) (root : Path) (files : List Place) :
    (files.map (analyzeFile tree root)).filterMap (·.diagnostics?) =
      (readBelow tree root files).map ownDiagnostics := by
  rw [readBelow, List.map_filterMap, List.filterMap_map]
  refine List.filterMap_congr ?_
  intro file _
  rw [Function.comp_apply, diagnostics?_analyzeFile, Option.map_map]
  rfl

theorem readBelow_sublist (tree : Node) (root : Path) (files : List Place) :
    ((readBelow tree root files).map (·.1)).Sublist files := by
  induction files with
  | nil => exact List.Sublist.slnil
  | cons file files ih =>
      rw [readBelow, List.filterMap_cons]
      cases textBelow? tree root file with
      | none => exact ih.cons file
      | some text => exact ih.cons_cons file

/-! ## Telling files apart -/

theorem nodup_relative_selectedBelow (h : tree.WellNamed) (root : Path)
    (included excluded extensions : List Text) :
    ((selectedBelow tree root included excluded extensions).map Place.relative).Nodup := by
  have hsorted := List.pairwise_map.2 (pairwise_collect h root
    (Selection.ofPatterns included excluded (wantedExtensions extensions)))
  refine hsorted.imp ?_
  rintro first second hlt rfl
  exact List.lt_irrefl _ hlt

/-- The files with findings are those that were read and have findings of their own, because no two
files have the same path. -/
theorem length_files_with_findings (hnodup : (files.map Place.relative).Nodup) :
    (((readBelow tree root files).flatMap ownDiagnostics).map (·.file)).eraseDups.length =
      (readBelow tree root files).countP fun entry => !(ownDiagnostics entry).isEmpty := by
  have hkept : (((readBelow tree root files).filter fun entry =>
      !(ownDiagnostics entry).isEmpty).map fun entry => entry.1.relative).Nodup := by
    have hsub := (List.filter_sublist (l := readBelow tree root files)
      (p := fun entry => !(ownDiagnostics entry).isEmpty)).map fun entry => entry.1.relative
    refine hsub.nodup ?_
    have hread := ((readBelow_sublist tree root files).map Place.relative).nodup hnodup
    rwa [List.map_map] at hread
  have hperm : (((readBelow tree root files).flatMap ownDiagnostics).map (·.file)).eraseDups.Perm
      (((readBelow tree root files).filter fun entry =>
        !(ownDiagnostics entry).isEmpty).map fun entry => entry.1.relative) := by
    refine (List.perm_ext_iff_of_nodup (nodup_eraseDups _) hkept).2 ?_
    intro name
    rw [List.mem_eraseDups]
    constructor
    · intro hname
      rcases List.mem_map.1 hname with ⟨d, hd, rfl⟩
      rcases List.mem_flatMap.1 hd with ⟨entry, hentry, hd⟩
      refine List.mem_map.2 ⟨entry, List.mem_filter.2 ⟨hentry, ?_⟩, (file_of_mem_check hd).symm⟩
      simpa using List.ne_nil_of_mem hd
    · intro hname
      rcases List.mem_map.1 hname with ⟨entry, hentry, rfl⟩
      rcases List.mem_filter.1 hentry with ⟨hentry, hfound⟩
      rcases List.exists_mem_of_ne_nil (ownDiagnostics entry) (by simpa using hfound) with ⟨d, hd⟩
      exact List.mem_map.2 ⟨d, List.mem_flatMap.2 ⟨entry, hentry, hd⟩, file_of_mem_check hd⟩
  rw [hperm.length_eq, List.length_map, List.countP_eq_length_filter]

/-- All diagnostics of a file pass a test of their file, or none of them. -/
theorem filter_ownDiagnostics (test : Text → Bool) (entry : Place × Text) :
    (ownDiagnostics entry).filter (fun d => test d.file) =
      if test entry.1.relative then ownDiagnostics entry else [] := by
  have hsame : (ownDiagnostics entry).filter (fun d => test d.file) =
      (ownDiagnostics entry).filter fun _ => test entry.1.relative := by
    refine List.filter_congr ?_
    intro d hd
    rw [file_of_mem_check hd]
  rw [hsame]
  cases test entry.1.relative with
  | true => simp
  | false => simp

/-- The diagnostics whose files pass a test are those of the files that pass it. -/
theorem filter_diagnostics (test : Text → Bool) {keep : Place → Bool}
    (h : ∀ file ∈ files, test file.relative = keep file) :
    ((readBelow tree root files).flatMap ownDiagnostics).filter (fun d => test d.file) =
      (readBelow tree root (files.filter keep)).flatMap ownDiagnostics := by
  induction files with
  | nil => rfl
  | cons file files ih =>
      have hfile : test file.relative = keep file := h file (List.mem_cons_self ..)
      have ih := ih fun other hother => h other (List.mem_cons_of_mem _ hother)
      simp only [readBelow] at ih
      -- Whether the file was read and whether it is kept are independent.
      cases htext : textBelow? tree root file with
      | none =>
          cases hkeep : keep file with
          | true => simpa only [readBelow, List.filterMap_cons, htext, Option.map_none,
              List.filter_cons_of_pos hkeep] using ih
          | false =>
              have hdrop : ¬ keep file = true := by simp [hkeep]
              simpa only [readBelow, List.filterMap_cons, htext, Option.map_none,
                List.filter_cons_of_neg hdrop] using ih
      | some text =>
          have hown := filter_ownDiagnostics test (file, text)
          rw [hfile] at hown
          cases hkeep : keep file with
          | true =>
              rw [hkeep, if_pos rfl] at hown
              simp only [readBelow, List.filterMap_cons, htext, Option.map_some,
                List.flatMap_cons, List.filter_append, List.filter_cons_of_pos hkeep, hown, ih]
          | false =>
              rw [hkeep] at hown
              have hdrop : ¬ keep file = true := by simp [hkeep]
              simp only [readBelow, List.filterMap_cons, htext, Option.map_some,
                List.flatMap_cons, List.filter_append, List.filter_cons_of_neg hdrop, hown, ih,
                Bool.false_eq_true, if_false, List.nil_append]

/-! ## Reports and logs -/

/-- The log record of a file: a warning if it cannot be read, and otherwise one that tells the number
of its own findings. -/
def IsRecordOf (tree : Node) (root : Path) (file : Place) (event : Event) : Prop :=
  match tree.readBytes (root.below file) with
  | .ok bytes =>
    event.level = .debug ∧
      event = .checked file.relative (check file.relative (sourceText bytes)).length
  | .error error => event.level = .warning ∧ event = .skipped file.relative error

/-- A report and a log account for some files below `root`. -/
structure Accounts (tree : Node) (root : Path) (files : List Place) (report : Report)
    (log : List Event) : Prop where
  diagnostics : report.diagnostics = (readBelow tree root files).flatMap ownDiagnostics
  filesChecked : report.filesChecked = (readBelow tree root files).length
  summaryFilesChecked : report.summary.filesChecked = (readBelow tree root files).length
  summaryDiagnostics : report.summary.diagnostics = report.diagnostics.length
  /-- The counts by kind hold exactly the kinds that occur. -/
  byKind : ∃ tally, report.summary.byKind = some tally ∧ (tally.map (·.1)).Nodup ∧
    (∀ kind count, (kind, count) ∈ tally ↔
      0 < count ∧ ((report.diagnostics.map (·.kind)).count kind : Int) = count) ∧
    (tally.map (·.2)).sum = report.diagnostics.length
  filesWithFindings : report.summary.filesWithFindings =
    (readBelow tree root files).countP fun entry => !(ownDiagnostics entry).isEmpty
  filesWithFindings_le : report.summary.filesWithFindings ≤ report.filesChecked
  log : List.Forall₂ (IsRecordOf tree root) files log

theorem diagnostics_analyze (tree : Node) (root : Path) (now : Text)
    (included excluded extensions : List Text) :
    (analyze tree root now included excluded extensions).1.diagnostics =
      (readBelow tree root (selectedBelow tree root included excluded extensions)).flatMap
        ownDiagnostics := by
  simp only [analyze, reportOn, filterMap_diagnostics?, List.flatMap]
  rfl

theorem isRecordOf_event (tree : Node) (root : Path) (file : Place) :
    IsRecordOf tree root file (analyzeFile tree root file).event := by
  rw [IsRecordOf, analyzeFile]
  cases tree.readBytes (root.below file) with
  | ok bytes => exact ⟨rfl, rfl⟩
  | error error => exact ⟨rfl, rfl⟩

theorem accounts_analyze (h : tree.WellNamed) (root : Path) (now : Text)
    (included excluded extensions : List Text) :
    Accounts tree root (selectedBelow tree root included excluded extensions)
      (analyze tree root now included excluded extensions).1
      (analyze tree root now included excluded extensions).2 := by
  have hdiagnostics := diagnostics_analyze tree root now included excluded extensions
  have hlength : ((((selectedBelow tree root included excluded extensions).map
      (analyzeFile tree root)).filterMap (·.diagnostics?)).length : Int) =
      (readBelow tree root (selectedBelow tree root included excluded extensions)).length := by
    rw [filterMap_diagnostics?, List.length_map]
  have hfindings : (analyze tree root now included excluded extensions).1.summary.filesWithFindings =
      (readBelow tree root (selectedBelow tree root included excluded extensions)).countP
        fun entry => !(ownDiagnostics entry).isEmpty := by
    rw [← length_files_with_findings (nodup_relative_selectedBelow h root included excluded
      extensions), ← hdiagnostics]
    rfl
  refine ⟨hdiagnostics, hlength, hlength, rfl, ⟨_, rfl, nodup_keys_countByKind _, ?_, ?_⟩,
    hfindings, ?_, ?_⟩
  · intro kind count
    exact mem_countByKind_iff
  · exact sum_countByKind _
  · have hle := List.countP_le_length (p := fun entry => !(ownDiagnostics entry).isEmpty)
      (l := readBelow tree root (selectedBelow tree root included excluded extensions))
    rw [hfindings]
    exact (Int.ofNat_le.2 hle).trans_eq hlength.symm
  · refine List.forall₂_iff_get.2 ⟨by simp [analyze, selectedBelow], ?_⟩
    intro i hi hi'
    have hget : (analyze tree root now included excluded extensions).2.get ⟨i, hi'⟩ =
        (analyzeFile tree root
          ((selectedBelow tree root included excluded extensions).get ⟨i, hi⟩)).event := by
      simp [analyze, selectedBelow]
    rw [hget]
    exact isRecordOf_event tree root _

/-! ## One file changed -/

/-- Two trees have a file at a place and differ in nothing but its bytes. -/
structure SameButBytes (place : Place) (s t : Node) : Prop where
  left : ∃ bytes, s.at? place = some (file bytes)
  right : ∃ bytes, t.at? place = some (file bytes)
  same : ∀ other, other ≠ place → (s.at? other).map outline = (t.at? other).map outline

theorem SameButBytes.shape_eq (h : SameButBytes place tree tree') (other : Place) :
    (tree.at? other).map shape = (tree'.at? other).map shape := by
  by_cases heq : other = place
  · subst heq
    rcases h.left with ⟨bytes, hleft⟩
    rcases h.right with ⟨bytes', hright⟩
    rw [hleft, hright]
    rfl
  · exact shape_eq_of_outline_eq (h.same other heq)

/-- Writing other bytes into a file changes nothing else. -/
theorem sameButBytes_put {directory : Place} {name : Text} {bytes : List UInt8}
    (h : tree.at? (directory ++ [name]) = some (file bytes)) (bytes' : List UInt8) :
    SameButBytes (directory ++ [name]) tree (tree.put (directory ++ [name]) (file bytes')) := by
  rcases exists_dir_of_at?_concat h with ⟨entries, hdir⟩
  have hfree : tree.IsFree (directory ++ [name]) := by
    intro node hnode
    exact ⟨bytes, Option.some.inj (hnode.symm.trans h)⟩
  refine ⟨⟨bytes, h⟩, ⟨bytes', at?_put_self _ hdir⟩, ?_⟩
  intro other hother
  exact (outline_at?_put bytes' hdir hfree hother).symm

theorem selectedBelow_eq_of_sameButBytes (hnamed : tree.WellNamed) (hnamed' : tree'.WellNamed)
    (h : SameButBytes place tree tree') (root : Path) (included excluded extensions : List Text) :
    selectedBelow tree' root included excluded extensions =
      selectedBelow tree root included excluded extensions := by
  have hlocate := locate_eq_of_shape h.shape_eq
  refine collect_eq_of_hasFileBelow hnamed hnamed' ?_
  intro file _
  have hdir : tree.isDirAt (root.below file) = tree'.isDirAt (root.below file) :=
    isDirAt_eq_of_locate (hlocate _) fun goal _ => h.shape_eq goal
  have hfind : ((tree.find? root).bind (at? file)).map shape =
      ((tree'.find? root).bind (at? file)).map shape := by
    simp only [find?, ← hlocate root]
    cases tree.locate root with
    | error error => rfl
    | ok goal =>
        have hgoal := h.shape_eq (goal ++ file)
        rwa [at?_append, at?_append] at hgoal
  constructor
  · exact hasFileBelow_of_shape hfind hdir
  · exact hasFileBelow_of_shape hfind.symm hdir.symm

/-- The files of a list that are not the one at a place, by whatever links they lead there. -/
def otherFiles (tree : Node) (root : Path) (place : Place) (files : List Place) : List Place :=
  files.filter fun file => decide (tree.locate (root.below file) ≠ .ok place)

theorem readBelow_otherFiles (h : SameButBytes place tree tree') (root : Path)
    (files : List Place) :
    readBelow tree' root (otherFiles tree root place files) =
      readBelow tree root (otherFiles tree root place files) := by
  refine List.filterMap_congr ?_
  intro file hfile
  have helsewhere : tree.locate (root.below file) ≠ .ok place := by
    simpa using (List.mem_filter.1 hfile).2
  have hread : tree.readBytes (root.below file) = tree'.readBytes (root.below file) := by
    refine readBytes_eq_of_locate (locate_eq_of_shape h.shape_eq _) ?_
    intro goal hgoal
    refine h.same goal ?_
    rintro rfl
    exact helsewhere hgoal
  rw [textBelow?, textBelow?, hread]

/-- Being the path of another file, for the files of a list, is a question about the file. -/
theorem mem_otherFiles_iff (hnodup : (files.map Place.relative).Nodup) {file : Place}
    (hfile : file ∈ files) :
    decide (file.relative ∈ (otherFiles tree root place files).map Place.relative) =
      decide (tree.locate (root.below file) ≠ .ok place) := by
  rw [decide_eq_decide]
  constructor
  · intro hmem
    rcases List.mem_map.1 hmem with ⟨other, hother, heq⟩
    rcases List.mem_filter.1 hother with ⟨hother, helsewhere⟩
    rw [← List.inj_on_of_nodup_map hnodup hother hfile heq]
    simpa using helsewhere
  · intro helsewhere
    exact List.mem_map.2 ⟨file, List.mem_filter.2 ⟨hfile, by simpa using helsewhere⟩, rfl⟩

/-- A report and its log account for the selected files one by one. So if two trees differ in the
bytes of one file only, all other files have the same diagnostics in the same order. -/
theorem analyze_accounts_file_by_file (h : tree.WellNamed) (root : Path) (now : Text)
    (included excluded extensions : List Text) :
    Accounts tree root (selectedBelow tree root included excluded extensions)
        (analyze tree root now included excluded extensions).1
        (analyze tree root now included excluded extensions).2 ∧
      ∀ tree' place, tree'.WellNamed → SameButBytes place tree tree' →
        let others := (otherFiles tree root place
          (selectedBelow tree root included excluded extensions)).map Place.relative
        (analyze tree' root now included excluded extensions).1.diagnostics.filter
            (fun d => decide (d.file ∈ others)) =
          (analyze tree root now included excluded extensions).1.diagnostics.filter
            fun d => decide (d.file ∈ others) := by
  refine ⟨accounts_analyze h root now included excluded extensions, ?_⟩
  intro tree' place h' hsame others
  have hselected := selectedBelow_eq_of_sameButBytes h h' hsame root included excluded extensions
  have hnodup := nodup_relative_selectedBelow h root included excluded extensions
  have htest : ∀ file ∈ selectedBelow tree root included excluded extensions,
      decide (file.relative ∈ others) = decide (tree.locate (root.below file) ≠ .ok place) :=
    fun file hfile => mem_otherFiles_iff hnodup hfile
  rw [diagnostics_analyze, diagnostics_analyze, hselected,
    filter_diagnostics (fun name => decide (name ∈ others)) htest,
    filter_diagnostics (fun name => decide (name ∈ others)) htest]
  exact congrArg (List.flatMap ownDiagnostics) (readBelow_otherFiles hsame root _)

/-- Four files are selected. One of them is changed, another is a link to it, and a third cannot be
read. -/
theorem analyze_accounts_file_by_file_links :
    let used := Utf8.encode "use A\\B;\nnew B();".toList
    let unused := Utf8.encode "use A\\B;\nuse A\\C;".toList
    let entries : Entries := [("a.php".toList, .file used), ("b.php".toList, .file unused),
      ("c.php".toList, link "a.php".toList), ("d.php".toList, link "gone".toList)]
    let tree := dir [("p".toList, dir entries)]
    let tree' := tree.put (["p".toList] ++ ["a.php".toList]) (.file unused)
    let root : Path := ⟨["p".toList], false⟩
    tree.WellNamed ∧ tree'.WellNamed ∧
      SameButBytes (["p".toList] ++ ["a.php".toList]) tree tree' ∧
      (otherFiles tree root (["p".toList] ++ ["a.php".toList]) (selectedBelow tree root [] [] [])).map
        Place.relative = ["b.php".toList, "d.php".toList] ∧
      (analyze tree' root [] [] [] []).1.diagnostics.filter
          (fun d => decide (d.file ∈ ["b.php".toList, "d.php".toList])) =
        (analyze tree root [] [] [] []).1.diagnostics.filter
          fun d => decide (d.file ∈ ["b.php".toList, "d.php".toList]) := by
  intro used unused entries tree tree' root
  have hfiles : tree.IsFileTree := isFileTree_of_passes (by decide +kernel)
  have hthere : tree.at? (["p".toList] ++ ["a.php".toList]) = some (.file used) := by rfl
  have hsame := sameButBytes_put hthere unused
  have hdir : tree.at? ["p".toList] = some (dir entries) := by rfl
  have hnamed' : tree'.WellNamed := (hfiles.put hdir (by decide) unused).wellNamed
  have hplace : tree.locate root = .ok ["p".toList] := by decide +kernel
  have htop : tree.find? root = some (dir entries) := by
    rw [find?, hplace]
    rfl
  have hselected : selectedBelow tree root [] [] [] =
      [["a.php".toList], ["b.php".toList], ["c.php".toList], ["d.php".toList]] := by
    refine collect_eq_of_sorted htop ?_ ?_
    · decide +kernel
    · decide +kernel
  have hothers : (otherFiles tree root (["p".toList] ++ ["a.php".toList])
      (selectedBelow tree root [] [] [])).map Place.relative = ["b.php".toList, "d.php".toList] := by
    rw [hselected]
    decide +kernel
  have hfilter := (analyze_accounts_file_by_file hfiles.wellNamed root [] [] [] []).2 tree' _ hnamed'
    hsame
  rw [hothers] at hfilter
  exact ⟨hfiles.wellNamed, hnamed', hsame, hothers, hfilter⟩

end ImportLint
