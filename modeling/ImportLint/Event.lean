import ImportLint.Tree.Fault

/-!
# Log records

What the tool tells about its work beside its report.
-/

namespace ImportLint

inductive ConfigFault where
  | access (error : AccessError)
  | encoding
  | document
  deriving DecidableEq, Repr

def ConfigFault.description : ConfigFault → Text
  | access error => error.message
  | encoding => "not UTF-8".toList
  | document => "not a TOML document".toList

inductive Level where
  | debug
  | warning
  deriving DecidableEq, Repr

def Level.name : Level → Text
  | debug => "DEBUG".toList
  | warning => "WARNING".toList

inductive Event where
  /-- A file was checked, with so many findings. -/
  | checked (file : Text) (findings : Nat)
  | skipped (file : Text) (error : AccessError)
  | configUnreadable (path : Text) (fault : ConfigFault)
  /-- A configuration key does not hold a list of texts. -/
  | keyIgnored (key path : Text)
  deriving DecidableEq, Repr

namespace Event

def level : Event → Level
  | checked .. => .debug
  | _ => .warning

/-- The part of the tool that reports an event. -/
def reporter : Event → Text
  | checked .. | skipped .. => "codein_namespaces.analyzer".toList
  | configUnreadable .. | keyIgnored .. => "codein_namespaces.config".toList

/-- The sentence for an event, given the words for a configuration's fault. -/
def message (reason : ConfigFault → Text) : Event → Text
  | checked file findings =>
    "Checked ".toList ++ file ++ ": ".toList ++ Text.ofNat findings ++ " finding(s)".toList
  | skipped file error => "Skipping unreadable file ".toList ++ file ++ ": ".toList ++ error.message
  | configUnreadable path fault =>
    "Ignoring unreadable config ".toList ++ path ++ ": ".toList ++ reason fault
  | keyIgnored key path =>
    "Ignoring ".toList ++ key ++ " in ".toList ++ path ++ ": expected a list of strings".toList

def line (reason : ConfigFault → Text) (event : Event) : Text :=
  event.level.name ++ ' ' :: event.reporter ++ ": ".toList ++ event.message reason

end Event

end ImportLint
