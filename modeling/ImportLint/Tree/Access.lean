import ImportLint.Tree.Fault
import ImportLint.Tree.Node

/-!
# Following paths

A path is followed part by part. An empty part or `.` stays, `..` goes up, and a link is replaced by
its target, which starts over at the top if it is absolute. At most forty links are followed.

A path that is followed in order to write may name a file that is not there yet, as long as its
directory is.
-/

namespace ImportLint

namespace Node

/-! ## Step by step -/

inductive Halt where
  | arrived (place : Place)
  /-- A link in a directory was met, with parts of the path still to go. -/
  | linked (directory : Place) (target : Text) (rest : List Text)
  | failed (fault : Fault)
  deriving DecidableEq, Repr

inductive Purpose where
  | find
  /-- To write a file, which may have to be made. -/
  | write
  deriving DecidableEq, Repr

/-- Follows parts from a place up to their end, the first link, or a fault. -/
def descend (tree : Node) (purpose : Purpose) (place : Place) : List Text → Halt
  | [] => .arrived place
  | part :: rest =>
    match tree.at? place with
    | some (dir entries) =>
      if Path.isIdle part then descend tree purpose place rest
      else if Path.isUp part then descend tree purpose place.dropLast rest
      -- A name with a slash behind it is a directory's, and none can be written.
      else if purpose == .write && !rest.isEmpty && rest.all List.isEmpty then
        .failed .isDirectory
      else if Path.isLongName part then .failed .nameTooLong
      else
        match entries.lookup part with
        | some (link target) => .linked place target rest
        | some _ => descend tree purpose (place ++ [part]) rest
        | none =>
          if purpose == .write && rest.isEmpty then .arrived (place ++ [part])
          else .failed .notFound
    | _ => .failed .notDirectory

def linkStart (directory : Place) (target : Text) : Place :=
  if target.head? == some '/' then [] else directory

/-- Follows parts to their end through at most the given number of links. -/
def follow (tree : Node) (purpose : Purpose) :
    (links : Nat) → Place → List Text → Except Fault Place
  | 0, place, parts =>
    match descend tree purpose place parts with
    | .arrived goal => .ok goal
    | .linked .. => .error .linkLoop
    | .failed fault => .error fault
  | links + 1, place, parts =>
    match descend tree purpose place parts with
    | .arrived goal => .ok goal
    | .linked directory target rest =>
      follow tree purpose links (linkStart directory target) (Path.split target ++ rest)
    | .failed fault => .error fault

def linkLimit : Nat := 40

/-! ## Whole paths -/

def reach (tree : Node) (purpose : Purpose) (path : Path) : Except AccessError Place :=
  if path.holdsNull then .error .nullCharacter
  else if path.isLong then .error (.fault .nameTooLong path.text)
  else
    match follow tree purpose linkLimit [] path.parts with
    | .ok place => .ok place
    | .error fault => .error (.fault fault path.text)

def locate (tree : Node) (path : Path) : Except AccessError Place := tree.reach .find path

/-! ## Reading -/

def find? (tree : Node) (path : Path) : Option Node :=
  match tree.locate path with
  | .ok place => tree.at? place
  | .error _ => none

/-- Whether a path leads to something. -/
def existsAt (tree : Node) (path : Path) : Except AccessError Bool :=
  match tree.locate path with
  | .ok _ => .ok true
  -- A name that is too long leaves the question open.
  | .error (.fault .nameTooLong text) => .error (.fault .nameTooLong text)
  | .error _ => .ok false

def isDirAt (tree : Node) (path : Path) : Bool := ((tree.find? path).map isDir).getD false

def readBytes (tree : Node) (path : Path) : Except AccessError (List UInt8) :=
  match tree.locate path with
  | .error error => .error error
  | .ok place =>
    match tree.at? place with
    | some (file bytes) => .ok bytes
    | some (dir _) => .error (.fault .isDirectory path.text)
    | _ => .error (.fault .notFound path.text)

/-! ## Writing -/

/-- The tree after writing a file. A file that is there gets new bytes, and a link is written
through. -/
def writeBytes (tree : Node) (path : Path) (bytes : List UInt8) : Except AccessError Node :=
  match tree.reach .write path with
  | .error error => .error error
  | .ok place =>
    if ((tree.at? place).map isDir).getD false then .error (.fault .isDirectory path.text)
    else .ok (tree.put place (file bytes))

/-- The tree with a directory at the end of some names, and with all directories on the way to
it. -/
def makeDirs (tree : Node) (names : List Text) : Node × Place :=
  names.foldl (fun (tree, place) name =>
    match follow tree .find linkLimit place [name] with
    | .ok next => (tree, next)
    | .error _ => (tree.put (place ++ [name]) (dir []), place ++ [name])) (tree, [])

def plant (tree : Node) (names : List Text) (node : Node) : Node :=
  let (tree, directory) := tree.makeDirs names.dropLast
  tree.put (directory ++ names.drop (names.length - 1)) node

end Node

end ImportLint
