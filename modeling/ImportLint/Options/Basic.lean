import ImportLint.Text.Fields
import ImportLint.Text.Quoted

/-!
# Options

The options of the command, how they are spelled, what they set, and what can be wrong with them.
-/

namespace ImportLint

inductive Opt where
  | help
  | path
  | includeGlob
  | excludeGlob
  | extension
  | format
  | writeReport
  | noColor
  | verbose
  | version
  deriving DecidableEq, Repr

namespace Opt

def takesValue : Opt → Bool
  | path | includeGlob | excludeGlob | extension | format => true
  | help | writeReport | noColor | verbose | version => false

def spellings : List (Text × Opt) := [
  ("-h".toList, help),
  ("--help".toList, help),
  ("--path".toList, path),
  ("--include".toList, includeGlob),
  ("--exclude".toList, excludeGlob),
  ("--extension".toList, extension),
  ("--format".toList, format),
  ("--write-report".toList, writeReport),
  ("--no-color".toList, noColor),
  ("--verbose".toList, verbose),
  ("-v".toList, verbose),
  ("--version".toList, version)]

def ofSpelling? (spelling : Text) : Option Opt := spellings.lookup spelling

/-- All spellings of the option, joined by slashes, by which messages name it. -/
def label (opt : Opt) : Text :=
  Text.join ['/'] ((spellings.filter fun entry => entry.2 = opt).map (·.1))

end Opt

inductive Format where
  | text
  | json
  deriving DecidableEq, Repr

def Format.ofText? (word : Text) : Option Format :=
  if word = "text".toList then some .text else if word = "json".toList then some .json else none

/-- What the options ask for. An option may be given in a way that leaves its value out; the value
is then missing here as well, and it is an error if it turns out to be needed. -/
structure Options where
  path : Option Text := some ".".toList
  included : List (Option Text) := []
  excluded : List (Option Text) := []
  extensions : List (Option Text) := []
  format : Format := .text
  writeReport : Bool := false
  noColor : Bool := false
  verbose : Bool := false
  deriving DecidableEq, Repr

inductive Misuse where
  | valueMissing (opt : Opt)
  | valueIgnored (opt : Opt) (value : Text)
  | unknownFormat (value : Text)
  | ambiguous (argument : Text) (candidates : List Text)
  | unrecognized (arguments : List Text)
  deriving DecidableEq, Repr

def Misuse.message : Misuse → Text
  | valueMissing opt => "argument ".toList ++ opt.label ++ ": expected one argument".toList
  | valueIgnored opt value =>
    "argument ".toList ++ opt.label ++ ": ignored explicit argument ".toList ++ Text.quoted value
  | unknownFormat value =>
    "argument ".toList ++ Opt.format.label ++ ": invalid choice: ".toList ++ Text.quoted value ++
      " (choose from 'text', 'json')".toList
  | ambiguous argument candidates =>
    "ambiguous option: ".toList ++ argument ++ " could match ".toList ++
      Text.join ", ".toList candidates
  | unrecognized arguments =>
    "unrecognized arguments: ".toList ++ Text.join [' '] arguments

end ImportLint
