import ImportLint.Tree.Path

/-!
# File trees

A file tree is a value: files with their bytes, links with the text of their targets, and
directories with named entries in the order in which they list them. A place is the list of names
that leads from the top of the tree to a node through directories only; no link is followed on the
way.
-/

namespace ImportLint

inductive Node where
  | file (bytes : List UInt8)
  | link (target : Text)
  | dir (entries : List (Text × Node))

/-- The names from the top of a tree down to a node. -/
abbrev Place := List Text

/-! ## Entries -/

abbrev Entries := List (Text × Node)

namespace Entries

/-- The entries with `node` under `name`; a new name goes to the end. -/
def put (name : Text) (node : Node) : Entries → Entries
  | [] => [(name, node)]
  | (other, old) :: rest =>
    if other = name then (other, node) :: rest else (other, old) :: put name node rest

/-- What was put under a name is found there. -/
theorem lookup_put_self (name : Text) (node : Node) (entries : Entries) :
    (put name node entries).lookup name = some node := by
  induction entries with
  | nil => simp [put]
  | cons entry rest ih =>
    obtain ⟨other, old⟩ := entry
    by_cases h : other = name
    · simp [put, h]
    · have hb : (name == other) = false := beq_false_of_ne (Ne.symm h)
      simp [put, h, List.lookup_cons, hb, ih]

/-- Putting a node under a name leaves all other names alone. -/
theorem lookup_put_of_ne {name other : Text} (h : other ≠ name) (node : Node) (entries : Entries) :
    (put name node entries).lookup other = entries.lookup other := by
  have hb : (other == name) = false := beq_false_of_ne h
  induction entries with
  | nil => simp [put, List.lookup_cons, hb]
  | cons entry rest ih =>
    obtain ⟨first, old⟩ := entry
    by_cases hf : first = name
    · simp [put, hf, List.lookup_cons, hb]
    · by_cases ho : other = first <;> simp [put, hf, List.lookup_cons, ho, ih]

end Entries

/-! ## Places -/

namespace Place

/-- The names joined by slashes, as the text of a path below some directory. -/
def relative (place : Place) : Text := Path.unsplit place

def path (place : Place) : Path where
  parts := place

end Place

namespace Node

def at? : Place → Node → Option Node
  | [], node => some node
  | name :: rest, dir entries => (entries.lookup name).bind (at? rest)
  | _ :: _, _ => none

/-- The tree with `node` at a place, whose directory must be there. -/
def put : (tree : Node) → Place → (node : Node) → Node
  | _, [], node => node
  | dir entries, [name], node => dir (Entries.put name node entries)
  | dir entries, name :: rest, node =>
    match entries.lookup name with
    | some child => dir (Entries.put name (put child rest node) entries)
    | none => dir entries
  | tree, _ :: _, _ => tree

def isDir : Node → Bool
  | dir _ => true
  | _ => false

mutual

def withoutFiles : Node → Node
  | file _ => file []
  | link target => link target
  | dir entries => dir (withoutFilesIn entries)

def withoutFilesIn : Entries → Entries
  | [] => []
  | (name, node) :: rest =>
    match withoutFiles node with
    | file _ => withoutFilesIn rest
    | node => (name, node) :: withoutFilesIn rest

end

mutual

def linkCount : Node → Nat
  | file _ => 0
  | link _ => 1
  | dir entries => linkCountIn entries

def linkCountIn : Entries → Nat
  | [] => 0
  | (_, node) :: rest => linkCount node + linkCountIn rest

end

end Node

end ImportLint
