import ImportLint.Command
import ImportLint.Instant
import Std.Time.DateTime.Timestamp

/-!
# The program

Everything is decided by `Command.run` on a file tree. The program takes a picture of the directory
that is to be analyzed, first its names and then the bytes of the files that are wanted, runs the
command on it, and carries the outcome over to the terminal and the disk.
-/

open ImportLint

namespace ImportLint

namespace Program

def placeOf (path : String) : Place := (Path.split path.toList).filter fun part => !part.isEmpty

def pathOf (place : Place) : String := String.ofList place.path.text

def withDirectory (tree : Node) (place : Place) : Node := (tree.makeDirs place).1

def danglingLink : Node := .link "missing/target".toList

/-- The tree with a link on disk at a place, and with what it leads to, without bytes. A link that
leads nowhere still does in the tree, and one that leads in a circle leads to itself. -/
def withLink (tree : Node) (place : Place) (entry : IO.FS.DirEntry) : IO Node := do
  try
    let goalKind := (← entry.path.metadata).type
    let target := (← IO.FS.realPath entry.path).toString
    let goal := placeOf target
    let tree := tree.put place (.link target.toList)
    if goalKind matches .dir then return withDirectory tree goal
    if (tree.at? goal).isSome then return tree
    return tree.plant goal (.file [])
  catch
    | .noFileOrDirectory .. => return tree.put place danglingLink
    | _ => return tree.put place (.link (place.getLast?.getD []))

/-- The tree with all that lies below a directory on disk, without bytes. -/
def withNames (tree : Node) (root : Place) : IO Node := do
  let mut tree := withDirectory tree root
  let mut waiting := [root]
  repeat
    match waiting with
    | [] => break
    | directory :: rest =>
      waiting := rest
      let listed ← try (← IO.FS.realPath (pathOf directory)).readDir catch _ => pure #[]
      for entry in listed do
        let place := directory ++ [entry.fileName.toList]
        match (← entry.path.symlinkMetadata).type with
        | .dir =>
          tree := tree.put place (.dir [])
          waiting := place :: waiting
        | .symlink => tree ← withLink tree place entry
        | _ => tree := tree.put place (.file [])
  return tree

/-- The tree with the bytes of a file on disk. One that cannot be read there leads nowhere. -/
def withBytes (tree : Node) (path : Path) : IO Node := do
  match tree.locate path with
  | .error _ => return tree
  | .ok place =>
    if ((tree.at? place).map Node.isDir).getD true then return tree
    try
      return tree.put place (.file (← IO.FS.readBinFile (pathOf place)).toList)
    catch _ => return tree.put place danglingLink

def picture (surroundings : Command.Surroundings) (options : Options) (root : Place) : IO Node := do
  let tree ← withNames (.dir []) root
  let mut tree ← withBytes tree (root.path.below [Config.fileName])
  let .ok job := Command.job tree surroundings options root.path | return tree
  for file in tree.collect job.root job.scope.selection do
    tree ← withBytes tree (job.root.below file)
  return tree

def now : IO Text := do
  let moment ← Std.Time.Timestamp.now
  return Instant.iso (moment.toNanosecondsSinceUnixEpoch.val.toNat / 1000)

def saveReports (tree : Node) (root : Place) : IO Unit := do
  for name in [jsonReportName, markdownReportName] do
    match tree.readBytes (root.path.below [name]) with
    | .error _ => pure ()
    | .ok bytes => IO.FS.writeBinFile (pathOf (root ++ [name])) ⟨bytes.toArray⟩

def present (result : Except Command.Crash Command.Outcome) : IO UInt32 := do
  match result with
  | .error crash =>
    IO.eprintln (String.ofList crash.message)
    return 1
  | .ok outcome =>
    IO.print (String.ofList outcome.output)
    IO.eprint (String.ofList outcome.errors)
    if let some message := outcome.exitMessage then IO.eprintln (String.ofList message)
    return outcome.exit.toUInt32

/-- Runs the analysis without a picture of the disk: what the options ask for is not there. -/
def analyzeNothing (surroundings : Command.Surroundings) (options : Options) : IO UInt32 :=
  present (Command.runOptions (withDirectory (.dir []) surroundings.workingDirectory)
    surroundings options).2

def analyzeOnDisk (surroundings : Command.Surroundings) (options : Options) : IO UInt32 := do
  let some path := options.path | analyzeNothing surroundings options
  try
    let directory ← IO.FS.realPath (String.ofList path)
    let root := placeOf directory.toString
    let tree ← if ← directory.isDir then picture surroundings options root else pure (.dir [])
    let (tree, result) :=
      Command.runOptions tree surroundings { options with path := some directory.toString.toList }
    if options.writeReport && result matches .ok _ then saveReports tree root
    present result
  catch _ => analyzeNothing surroundings options

end Program

end ImportLint

open Program in
def main (arguments : List String) : IO UInt32 := do
  let surroundings : Command.Surroundings :=
    { workingDirectory := placeOf (← IO.currentDir).toString
      now := ← now
      terminal := ← (← IO.getStdout).isTty
      reason := ConfigFault.description
      stops := fun _ => false }
  match Options.parse (arguments.map String.toList) with
  | .ok (.run options) => analyzeOnDisk surroundings options
  | _ => present (Command.run (.dir []) surroundings (arguments.map String.toList)).2
