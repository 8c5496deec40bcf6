import ImportLint.Event
import ImportLint.Text.Newline
import ImportLint.Text.Utf8
import ImportLint.Toml.Document
import ImportLint.Tree.Access

/-!
# Project configuration

A project may keep lists of patterns and extensions in a TOML file at its root, at the top of the
file or in its `namespaces` table, which hides the top. A file that cannot be read, or a key that
does not hold a list of texts, is reported and otherwise taken as absent. Two things are not
tolerated: a tree that cannot tell whether there is a file, and a number in it that is too long to be
read.
-/

namespace ImportLint

structure Config where
  included : Option (List Text) := none
  excluded : Option (List Text) := none
  extensions : Option (List Text) := none
  deriving DecidableEq, Repr

namespace Config

def fileName : Text := ".codein-namespaces.toml".toList

/-- The table in which the keys are looked up. -/
def keyTable (root : Toml.Table) : Toml.Table :=
  match root.lookup "namespaces".toList with
  | none => root
  | some (.table inner) => inner
  | some _ => []

/-- The list of texts under a key, and what there is to report about the key. -/
def listAt (path : Text) (table : Toml.Table) (key : Text) : Option (List Text) × List Event :=
  match table.lookup key with
  | none => (none, [])
  | some (.array items) =>
    match Toml.texts? items with
    | some texts => (some texts, [])
    | none => (none, [.keyIgnored key path])
  | some _ => (none, [.keyIgnored key path])

def ofTable (path : Text) (root : Toml.Table) : Config × List Event :=
  let table := keyTable root
  let (included, includedEvents) := listAt path table "include".toList
  let (excluded, excludedEvents) := listAt path table "exclude".toList
  let (extensions, extensionEvents) := listAt path table "extensions".toList
  (⟨included, excluded, extensions⟩, includedEvents ++ excludedEvents ++ extensionEvents)

inductive Stop where
  /-- The tree cannot tell whether there is a configuration. -/
  | access (error : AccessError)
  | integerTooLong (digits : Nat)
  deriving DecidableEq, Repr

def textAt (tree : Node) (path : Path) : Except ConfigFault Text :=
  match tree.readBytes path with
  | .error error => .error (.access error)
  | .ok bytes =>
    match Utf8.decode? bytes with
    | none => .error .encoding
    | some text => .ok (Text.unifyNewlines text)

def readFrom (tree : Node) (path : Path) : Except Stop (Config × List Event) :=
  match textAt tree path with
  | .error fault => .ok ({}, [.configUnreadable path.text fault])
  | .ok text =>
    match Toml.read text with
    | .error .malformed => .ok ({}, [.configUnreadable path.text .document])
    -- This is no fault of the document, and it ends the run.
    | .error (.integerTooLong digits) => .error (.integerTooLong digits)
    | .ok table => .ok (ofTable path.text table)

/-- The configuration of the project in a directory. A project without the file has an empty one. -/
def load (tree : Node) (directory : Path) : Except Stop (Config × List Event) :=
  let path := directory.below [fileName]
  match tree.existsAt path with
  | .error error => .error (.access error)
  | .ok false => .ok ({}, [])
  | .ok true => readFrom tree path

end Config

end ImportLint
