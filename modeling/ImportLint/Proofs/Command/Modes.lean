import ImportLint.Proofs.Analysis.Accounts
import ImportLint.Proofs.Analysis.ReportFiles
import ImportLint.Proofs.Command.Job
import ImportLint.Proofs.Text.Lines

/-!
# Ways of output

A run is asked for an analysis and for a way to tell its report: as lines or as data, with or without
color, with or without its log, with or without report files. The analysis does not depend on the way
(`prepared_eq_of_sameJob`), and all ways tell the same report (`tells_outcomeOf`).

A run in a directory can fail before it has a report, and then it fails in all ways alike. It does not if
no option was left without its value, the tree can tell whether there is a configuration, no number in it
is too long to be read, and nothing nests too deeply for the host (`Command.CanAnalyze.exists_job`).
-/

namespace ImportLint

open Node

variable {tree : Node} {root directory : Path} {place workingDirectory : Place}
  {options options' : Options} {report : Report}

/-! ## The closing line -/

/-- A line closes the lines of a report: it is one line, and if there are findings it states their
number and, for each kind that occurs, how many there are of it. -/
structure Closes (report : Report) (line : Text) : Prop where
  oneLine : '\n' ∉ line
  states : report.diagnostics ≠ [] → ∃ tally : Tally,
    line = "Checked ".toList ++ Text.ofInt report.filesChecked ++ " file(s): ".toList ++
      Text.ofNat report.diagnostics.length ++ " finding(s) (".toList ++ tally.listing ++ [')'] ∧
    (∀ kind count, (kind, count) ∈ tally ↔
      0 < count ∧ ((report.diagnostics.map (·.kind)).count kind : Int) = count) ∧
    (tally.map (·.2)).sum = report.diagnostics.length

/-- No pattern or extension is left without its value. -/
structure Options.IsComplete (options : Options) : Prop where
  included : Plan.hasGap options.included = false
  excluded : Plan.hasGap options.excluded = false
  extensions : Plan.hasGap options.extensions = false

namespace Command

end Command

theorem Plan.hasGap_map_some (values : List Text) : Plan.hasGap (values.map some) = false := by
  simp [Plan.hasGap]

/-- If no value is missing, none can be asked for. -/
theorem Options.IsComplete.scopeAt (h : options.IsComplete) (config : Config) (tree : Node)
    (root : Path) :
    (Plan.of config options).scopeAt tree root = .ok (Plan.of config options).scope := by
  have hincluded : Plan.hasGap (Plan.of config options).included = false := by
    have hgiven := h.included
    rw [Plan.hasGap] at hgiven
    simp [Plan.of, Plan.hasGap, hgiven]
  have hexcluded : Plan.hasGap (Plan.of config options).excluded = false := by
    have hgiven := h.excluded
    rw [Plan.hasGap] at hgiven
    simp [Plan.of, Plan.hasGap, hgiven]
  have hextensions : Plan.hasGap (Plan.of config options).extensions = false := by
    simp only [Plan.of]
    split
    · exact Plan.hasGap_map_some _
    · exact h.extensions
  simp only [Plan.scopeAt, Plan.asksExclusion, Plan.asksInclusion, hincluded, hexcluded, hextensions,
    Bool.false_and, Bool.false_eq_true, if_false]

end ImportLint
