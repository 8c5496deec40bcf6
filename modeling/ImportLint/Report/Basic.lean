import ImportLint.Diagnostic
import ImportLint.Tally

/-!
# Reports

A report says where and when a tree was analyzed, how many files were read, and what was found.
-/

namespace ImportLint

/-- The figures of a report. A summary that was made elsewhere may lack the counts by kind. -/
structure Summary where
  filesChecked : Int
  diagnostics : Int
  byKind : Option Tally
  filesWithFindings : Int
  deriving DecidableEq, Repr

structure Report where
  root : Text
  generatedAt : Text
  filesChecked : Int
  diagnostics : List Diagnostic
  summary : Summary
  deriving DecidableEq, Repr

def countByKind (diagnostics : List Diagnostic) : Tally :=
  (Tally.ofKeys (diagnostics.map (·.kind))).sorted

end ImportLint
