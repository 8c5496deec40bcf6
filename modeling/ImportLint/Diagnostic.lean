import ImportLint.Text.Basic

/-!
# Findings and diagnostics

A finding is what the check has to say about a file's imports. A diagnostic is a finding as it is
reported: plain texts for its kind, severity, subject, message and file.
-/

namespace ImportLint

structure Diagnostic where
  kind : Text
  severity : Text
  subject : Text
  message : Text
  file : Text
  deriving DecidableEq, Repr

inductive Finding where
  | repeatedPrefix (namespacePrefix : Text) (count : Int)
  | unusedName (name : Text)
  deriving DecidableEq, Repr

namespace Finding

def kind : Finding → Text
  | repeatedPrefix .. => "duplicate_namespace".toList
  | unusedName .. => "unused_import".toList

def subject : Finding → Text
  | repeatedPrefix namespacePrefix _ => namespacePrefix
  | unusedName name => name

def message (file : Text) : Finding → Text
  | repeatedPrefix namespacePrefix count =>
    "Namespace ".toList ++ namespacePrefix ++ " appears ".toList ++ Text.ofInt count ++
      " times in ".toList ++ file
  | unusedName name => "Unused: ".toList ++ name ++ " in ".toList ++ file

def toDiagnostic (file : Text) (finding : Finding) : Diagnostic where
  kind := finding.kind
  severity := "red".toList
  subject := finding.subject
  message := finding.message file
  file := file

end Finding

end ImportLint
