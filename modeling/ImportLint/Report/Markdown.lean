import ImportLint.Report.Basic
import ImportLint.Text.Fields

/-!
# Reports as Markdown

A page with the report's figures and one list item for each diagnostic.
-/

namespace ImportLint

namespace Markdown

def figure (name value : Text) : Text := name ++ ": `".toList ++ value ++ "`".toList

def countItem : Text × Int → Text
  | (kind, count) => "- ".toList ++ kind ++ ": ".toList ++ Text.ofInt count

def findingItem (diagnostic : Diagnostic) : Text :=
  "- [".toList ++ diagnostic.kind ++ "] ".toList ++ diagnostic.message

end Markdown

open Markdown in
def Report.markdown (report : Report) : Text :=
  let header := [
    "# Namespace Report".toList,
    [],
    figure "Root".toList report.root,
    figure "Generated".toList report.generatedAt,
    figure "Files checked".toList (Text.ofInt report.filesChecked),
    figure "Findings".toList (Text.ofNat report.diagnostics.length),
    [],
    "## Summary".toList]
  let counts := (report.summary.byKind.getD []).map countItem
  let findings :=
    if report.diagnostics.isEmpty then ["- (none)".toList] else report.diagnostics.map findingItem
  Text.join ['\n'] (header ++ counts ++ [[], "## Findings".toList] ++ findings ++ [[]])

end ImportLint
