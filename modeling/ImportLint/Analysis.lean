import ImportLint.Check
import ImportLint.Discovery
import ImportLint.Event
import ImportLint.Report.Data
import ImportLint.Report.Markdown
import ImportLint.Text.Newline
import ImportLint.Text.Utf8

/-!
# Analyzing a tree

Every wanted file below a directory is read and checked by itself. Files that cannot be read are
skipped with a warning and count for nothing.
-/

namespace ImportLint

/-! ## Single files -/

/-- The text of a source file: bytes that are not UTF-8 are overlooked, line ends are unified. -/
def sourceText (bytes : List UInt8) : Text := Text.unifyNewlines (Utf8.decodeLossy bytes)

/-- What analyzing one file gives: its diagnostics, or why it could not be read. -/
abbrev FileResult := Text × Except AccessError (List Diagnostic)

def analyzeFile (tree : Node) (root : Path) (file : Place) : FileResult :=
  (file.relative, (tree.readBytes (root.below file)).map fun bytes =>
    check file.relative (sourceText bytes))

namespace FileResult

def diagnostics? : FileResult → Option (List Diagnostic)
  | (_, .ok found) => some found
  | (_, .error _) => none

def event : FileResult → Event
  | (file, .ok found) => .checked file found.length
  | (file, .error error) => .skipped file error

end FileResult

/-! ## Whole trees -/

/-- The extensions that are looked for: those given, or the standard ones if there are none. -/
def wantedExtensions (given : List Text) : List Text :=
  if given.isEmpty then Extension.standard else given.map Extension.normalize

def reportOn (root generatedAt : Text) (results : List FileResult) : Report :=
  let read := results.filterMap (·.diagnostics?)
  let diagnostics := read.flatten
  { root := root
    generatedAt := generatedAt
    filesChecked := read.length
    diagnostics := diagnostics
    summary :=
      { filesChecked := read.length
        diagnostics := diagnostics.length
        byKind := some (countByKind diagnostics)
        -- Relative paths tell files apart.
        filesWithFindings := (diagnostics.map (·.file)).eraseDups.length } }

def analyze (tree : Node) (root : Path) (generatedAt : Text)
    (included excluded extensions : List Text) : Report × List Event :=
  let selection := Selection.ofPatterns included excluded (wantedExtensions extensions)
  let results := (tree.collect root selection).map (analyzeFile tree root)
  (reportOn root.text generatedAt results, results.map (·.event))

/-! ## Report files -/

def jsonReportName : Text := "namespace_report.json".toList

def markdownReportName : Text := "namespace_report.md".toList

/-- Writes both report files into a directory. If the second one cannot be written, the first one
has been. -/
def writeReport (tree : Node) (directory : Path) (report : Report) :
    Node × Except AccessError Unit :=
  match tree.writeBytes (directory.below [jsonReportName]) (Utf8.encode report.json) with
  | .error error => (tree, .error error)
  | .ok tree =>
    match tree.writeBytes (directory.below [markdownReportName]) (Utf8.encode report.markdown) with
    | .error error => (tree, .error error)
    | .ok tree => (tree, .ok ())

end ImportLint
