import ImportLint.Extension
import ImportLint.Glob
import ImportLint.Tree.Access

/-!
# Finding source files

The files below a directory are found by walking down from it. Directories that are excluded are not
entered, and neither are links to directories. A directory whose path is too long to be followed is
passed over as well, without a word. Of the files met on the way those are kept that have a wanted
extension, match no exclusion, and match an inclusion if there are any. The result is in code point
order of the relative paths, so it does not depend on how directories list their entries.

A walk calls itself once for each level of directories. Here it always comes to its end; that a host
may not allow so many calls inside each other is left to the run as a whole, see `Command.Work`.
-/

namespace ImportLint

/-! ## Selections -/

structure Selection where
  included : List Glob
  excluded : List Glob
  extensions : List Text
  deriving DecidableEq, Repr

namespace Selection

/-- What is excluded from every selection: version control, editor and dependency directories,
caches, and the reports themselves. -/
def alwaysExcluded : List Text := [
  ".git/**".toList,
  ".idea/**".toList,
  "vendor/**".toList,
  "node_modules/**".toList,
  ".phpunit.cache/**".toList,
  ".php-cs-fixer.cache".toList,
  "namespace_report.json".toList,
  "namespace_report.md".toList]

def ofPatterns (included excluded extensions : List Text) : Selection where
  included := included.map Glob.ofText
  excluded := (alwaysExcluded ++ excluded).map Glob.ofText
  extensions := extensions

def enters (selection : Selection) (directory : Place) : Bool :=
  !Glob.anyAccepts selection.excluded (directory.relative ++ ['/'])

/-- Whether a walk from `root` goes into a directory: the path to it can be followed, and it is not
excluded. -/
def opens (selection : Selection) (root : Path) (directory : Place) : Bool :=
  !(root.below directory).isLong && selection.enters directory

def wants (selection : Selection) (file : Place) : Bool :=
  selection.extensions.contains (Text.lower (Extension.ofName (file.getLast?.getD []))) &&
    !Glob.anyAccepts selection.excluded file.relative &&
    (selection.included.isEmpty || Glob.anyAccepts selection.included file.relative)

end Selection

/-! ## Walking -/

namespace Node

mutual

/-- The files at or below a node: all that is neither a directory nor a link to one. The places are
relative to where the walk began, and a directory is entered if `enters` says so. -/
def filesAt (enters isDirLink : Place → Bool) (place : Place) : Node → List Place
  | file _ => [place]
  | link _ => if isDirLink place then [] else [place]
  | dir entries => if enters place then filesBelow enters isDirLink place entries else []

def filesBelow (enters isDirLink : Place → Bool) (place : Place) : Entries → List Place
  | [] => []
  | (name, node) :: rest =>
    filesAt enters isDirLink (place ++ [name]) node ++ filesBelow enters isDirLink place rest

end

/-- The relative places of the wanted files below the directory to which `root` leads, in order. -/
def collect (tree : Node) (root : Path) (selection : Selection) : List Place :=
  match tree.find? root with
  | some (dir entries) =>
    let isDirLink := fun place => tree.isDirAt (root.below place)
    ((filesBelow (selection.opens root) isDirLink [] entries).filter selection.wants).mergeSort
      fun a b => Text.le a.relative b.relative
  | _ => []

/-- Whether a selection takes an interest in anything that stands in the directory to which `root`
leads: a directory that a walk goes into or a file that is wanted. -/
def holdsAny (tree : Node) (root : Path) (selection : Selection) : Bool :=
  match tree.find? root with
  | some (dir entries) =>
    entries.any fun (name, node) =>
      match node with
      | file _ => selection.wants [name]
      | link _ => !tree.isDirAt (root.below [name]) && selection.wants [name]
      | dir _ => selection.opens root [name]
  | _ => false

end Node

end ImportLint
