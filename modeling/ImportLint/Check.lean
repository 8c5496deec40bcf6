import ImportLint.Diagnostic
import ImportLint.Import.Clause
import ImportLint.Import.Scan
import ImportLint.Import.ShortName
import ImportLint.Usage

/-!
# Checking one file

The findings of a file are first the prefixes that its single imports repeat, then the imported
names that the rest of the file does not use. A file without imports has none.
-/

namespace ImportLint

def repeatedPrefixes (text : Text) : List Finding :=
  (Import.prefixCounts (Import.clauses text)).repeated.map fun (namespacePrefix, count) =>
    .repeatedPrefix namespacePrefix count

def unusedNames (text : Text) : List Finding :=
  let rest := Import.remaining text
  ((Import.shortNames (Import.names (Import.clauses text))).filter fun name =>
    !isUsed name rest).map .unusedName

def findings (text : Text) : List Finding := repeatedPrefixes text ++ unusedNames text

def check (file text : Text) : List Diagnostic := (findings text).map (·.toDiagnostic file)

end ImportLint
