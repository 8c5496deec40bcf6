import ImportLint.Text.Basic

/-!
# Help

The texts that explain the command.
-/

namespace ImportLint

namespace Help

def program : Text := "codein-namespaces".toList

def version : Text := program ++ " 0.1.0\n".toList

def ofLines (lines : List String) : Text := lines.flatMap fun line => line.toList ++ ['\n']

def usage : Text := ofLines [
  "usage: codein-namespaces [-h] [--path PATH] [--include INCLUDE]",
  "                         [--exclude EXCLUDE] [--extension EXTENSION]",
  "                         [--format \x7btext,json\x7d] [--write-report] [--no-color]",
  "                         [--verbose] [--version]"]

def details : Text := ofLines [
  "",
  "Report namespaces imported through repeated single-symbol use statements and",
  "imported names never referenced in the file.",
  "",
  "options:",
  "  -h, --help            show this help message and exit",
  "  --path PATH           Target project directory",
  "  --include INCLUDE     Glob to include (repeatable, relative to --path)",
  "  --exclude EXCLUDE     Glob to exclude (repeatable, relative to --path)",
  "  --extension EXTENSION",
  "                        File extension to check (repeatable, default .php)",
  "  --format \x7btext,json\x7d  Output format",
  "  --write-report        Write namespace_report.json and namespace_report.md",
  "                        into --path",
  "  --no-color            Disable colored output",
  "  --verbose, -v         Verbose logging",
  "  --version             show program's version number and exit"]

def full : Text := usage ++ details

end Help

end ImportLint
