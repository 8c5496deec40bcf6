import ImportLint.Json
import ImportLint.Report.Basic

/-!
# Reports as data

The JSON form of a report. In every object the keys stand in code point order.
-/

namespace ImportLint

def Diagnostic.toJson (diagnostic : Diagnostic) : Json :=
  .object [
    ("file".toList, .text diagnostic.file),
    ("kind".toList, .text diagnostic.kind),
    ("message".toList, .text diagnostic.message),
    ("severity".toList, .text diagnostic.severity),
    ("subject".toList, .text diagnostic.subject)]

def Tally.toJson (tally : Tally) : Json :=
  .object (tally.sorted.map fun (key, count) => (key, .int count))

def Summary.toJson (summary : Summary) : Json :=
  .object ((summary.byKind.map fun tally => ("by_kind".toList, Tally.toJson tally)).toList ++ [
    ("diagnostics".toList, .int summary.diagnostics),
    ("files_checked".toList, .int summary.filesChecked),
    ("files_with_findings".toList, .int summary.filesWithFindings)])

def Report.toJson (report : Report) : Json :=
  .object [
    ("diagnostics".toList, .array (report.diagnostics.map Diagnostic.toJson)),
    ("files_checked".toList, .int report.filesChecked),
    ("generated_at".toList, .text report.generatedAt),
    ("root".toList, .text report.root),
    ("summary".toList, report.summary.toJson)]

def Report.json (report : Report) : Text := report.toJson.write

end ImportLint
