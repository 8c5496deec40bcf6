import ImportLint.Proofs.Analysis.Accounts
import ImportLint.Proofs.Text.LineEnd
import ImportLint.Proofs.Text.Utf8

/-!
# Line ends and stray bytes

The check sees a file only after its bytes have been read as characters and its line ends have been
unified. A text can therefore be stored with any kind of line end and with stray bytes between its
characters, even inside a line end, and its findings are those of the text itself
(`sourceText_of_littered`).
-/

namespace ImportLint

/-! ## Files with any line ends -/

open Node

variable {tree : Node} {root : Path} {file : Place} {included excluded extensions : List Text}
  {s : Text} {bytes : List UInt8} {lineEnd : LineEnd}

theorem sourceText_of_littered (hs : '\r' ∉ s) (h : Utf8.Littered (lineEnd.write s) bytes) :
    sourceText bytes = s := by
  rw [sourceText, Utf8.decodeLossy_of_littered h, LineEnd.unifyNewlines_write lineEnd hs]

/-- The diagnostics of a report that name a selected file are those of the file's own check. -/
theorem filter_diagnostics_file (h : tree.WellNamed) (now : Text)
    (hfile : file ∈ selectedBelow tree root included excluded extensions)
    (hread : tree.readBytes (root.below file) = .ok bytes) :
    (analyze tree root now included excluded extensions).1.diagnostics.filter
        (fun d => d.file == file.relative) = check file.relative (sourceText bytes) := by
  have hnodup := nodup_relative_selectedBelow h root included excluded extensions
  have htest : ∀ other ∈ selectedBelow tree root included excluded extensions,
      (other.relative == file.relative) = (other == file) := by
    intro other hother
    rw [Bool.eq_iff_iff, beq_iff_eq, beq_iff_eq]
    exact ⟨List.inj_on_of_nodup_map hnodup hother hfile, congrArg Place.relative⟩
  have hself : (selectedBelow tree root included excluded extensions).filter (· == file) =
      [file] := by
    rw [List.filter_beq, List.count_eq_one_of_mem hnodup.of_map hfile, List.replicate_one]
  have htext : textBelow? tree root file = some (sourceText bytes) := by rw [textBelow?, hread]
  rw [diagnostics_analyze, filter_diagnostics (· == file.relative) htest, hself]
  simp [readBelow, htext, ownDiagnostics]

/-- A selected file that holds a text, with any one kind of line end and with stray bytes anywhere
between characters, has the diagnostics of the text. -/
theorem filter_diagnostics_of_littered (h : tree.WellNamed) (now : Text)
    (hfile : file ∈ selectedBelow tree root included excluded extensions) (hs : '\r' ∉ s)
    (lineEnd : LineEnd) (hbytes : Utf8.Littered (lineEnd.write s) bytes)
    (hread : tree.readBytes (root.below file) = .ok bytes) :
    (analyze tree root now included excluded extensions).1.diagnostics.filter
        (fun d => d.file == file.relative) = check file.relative s := by
  rw [filter_diagnostics_file h now hfile hread, sourceText_of_littered hs hbytes]

/-- A file with two lines, carriage returns and line feeds between which a stray byte stands, a letter
of two bytes, and stray bytes around it. -/
theorem filter_diagnostics_of_littered_both :
    let s := "use é;\nx".toList
    let bytes : List UInt8 :=
      [117, 115, 101, 32, 0xFF, 0xC3, 0xA9, 0xC0, 59, 13, 0xF5, 10, 120, 0xC1]
    let tree := dir [("p".toList, dir [("a.php".toList, .file bytes)])]
    let root : Path := ⟨["p".toList], false⟩
    tree.WellNamed ∧ [("a.php".toList)] ∈ selectedBelow tree root [] [] [] ∧ '\r' ∉ s ∧
      Utf8.Littered (LineEnd.both.write s) bytes ∧
      tree.readBytes (root.below ["a.php".toList]) = .ok bytes ∧
      (analyze tree root [] [] [] []).1.diagnostics.filter
          (fun d => d.file == Place.relative ["a.php".toList]) =
        check (Place.relative ["a.php".toList]) s := by
  intro s bytes tree root
  have hnamed : tree.WellNamed := (isFileTree_of_passes (by decide +kernel)).wellNamed
  have hread : tree.readBytes (root.below ["a.php".toList]) = .ok bytes := by decide +kernel
  have hplace : tree.locate root = .ok ["p".toList] := by decide +kernel
  have htop : tree.find? root = some (dir [("a.php".toList, .file bytes)]) := by
    rw [find?, hplace]
    rfl
  have hselected : selectedBelow tree root [] [] [] = [["a.php".toList]] := by
    refine collect_eq_of_sorted htop ?_ ?_
    · decide +kernel
    · decide +kernel
  have hfile : [("a.php".toList)] ∈ selectedBelow tree root [] [] [] := by simp [hselected]
  have hs : '\r' ∉ s := by decide
  have hbytes : Utf8.Littered (LineEnd.both.write s) bytes := by
    refine .char 'u' (.char 's' (.char 'e' (.char ' ' (.stray (by decide) (.char 'é' ?_)))))
    refine .stray (by decide) (.char ';' (.char '\r' (.stray (by decide) (.char '\n' ?_))))
    exact .char 'x' (.stray (by decide) .nil)
  exact ⟨hnamed, hfile, hs, hbytes, hread,
    filter_diagnostics_of_littered hnamed [] hfile hs .both hbytes hread⟩

end ImportLint
