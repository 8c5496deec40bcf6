import ImportLint.Report.Basic
import ImportLint.Text.Fields

/-!
# Reports on a terminal

One line for each diagnostic, in color if wanted, and one line that sums up.
-/

namespace ImportLint

/-! ## Color -/

namespace Color

def red : Text := "\x1b[91m".toList

def darkRed : Text := "\x1b[31m".toList

def reset : Text := "\x1b[0m".toList

end Color

/-- A diagnostic in color, with subject and file set apart from the rest. -/
def Diagnostic.colored (diagnostic : Diagnostic) : Text :=
  -- The file may hold the subject, so it is taken off before the message is cut.
  let closing := " in ".toList ++ diagnostic.file
  let sentence := diagnostic.message.take (diagnostic.message.length - closing.length)
  let (label, rest) := (Text.cut? (' ' :: diagnostic.subject) sentence).getD (sentence, [])
  Color.red ++ label ++ [' '] ++ Color.darkRed ++ diagnostic.subject ++ Color.red ++ rest ++
    " in ".toList ++ Color.darkRed ++ diagnostic.file ++ Color.reset

def Diagnostic.line (diagnostic : Diagnostic) (color : Bool) : Text :=
  if color then diagnostic.colored else diagnostic.message

/-! ## The closing line -/

/-- The counts by kind, as in `a=1, b=2`. -/
def Tally.listing (tally : Tally) : Text :=
  Text.join ", ".toList (tally.map fun (key, count) => key ++ '=' :: Text.ofInt count)

/-- The line that sums a report up. A report with findings needs its counts by kind for it. -/
def Report.summaryLine? (report : Report) : Option Text :=
  let checked := "Checked ".toList ++ Text.ofInt report.filesChecked ++ " file(s): ".toList
  if report.diagnostics.isEmpty then some (checked ++ "no namespace issues found.".toList)
  else
    report.summary.byKind.map fun byKind =>
      checked ++ Text.ofNat report.diagnostics.length ++ " finding(s) (".toList ++
        byKind.listing ++ [')']

end ImportLint
