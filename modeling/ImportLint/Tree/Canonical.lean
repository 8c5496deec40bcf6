import ImportLint.Tree.Access

/-!
# Canonical paths

The canonical form of a path names its place without links. Names that are not there are kept as
they stand. A link that leads back to itself cannot be resolved: what is left of the path is then
appended to the link, and `..` takes the name before it away, whether or not that is a link.

Every link is resolved once. The links that were met are kept with the places they lead to, and the
ones that are still being resolved without a place, which is how a circle is noticed.
-/

namespace ImportLint

namespace Node

/-! ## Resolving links -/

/-- The links that were met, each with its place once it is resolved. -/
abbrev MetLinks := List (Place × Option Place)

inductive Resolution where
  | complete (place : Place) (met : MetLinks)
  /-- A link leads back to itself, and the text of a path goes on from it. -/
  | circular (text : Text)
  /-- A name has the null character, for which no tree can be asked. -/
  | nullCharacter
  deriving DecidableEq, Repr

/-- Resolves parts from a place, where `enter` resolves the target of a link. -/
def resolveParts (tree : Node) (enter : MetLinks → Place → Text → Resolution)
    (met : MetLinks) (place : Place) : List Text → Resolution
  | [] => .complete place met
  | part :: rest =>
    if Path.isIdle part then resolveParts tree enter met place rest
    else if Path.isUp part then resolveParts tree enter met place.dropLast rest
    else if part.contains '\x00' then .nullCharacter
    else
      let here := place ++ [part]
      match tree.at? here with
      | some (link target) =>
        match met.lookup here with
        | some (some goal) => resolveParts tree enter met goal rest
        | some none => .circular (Path.join here.path.text (Path.unsplit rest))
        | none =>
          match enter ((here, none) :: met) place target with
          | .complete goal met => resolveParts tree enter ((here, some goal) :: met) goal rest
          | .circular text => .circular (Path.join text (Path.unsplit rest))
          | .nullCharacter => .nullCharacter
      | _ => resolveParts tree enter met here rest

/-- Resolves parts from a place, entering links at most `depth` deep. -/
def resolveFrom (tree : Node) : (depth : Nat) → MetLinks → Place → List Text → Resolution
  | 0, _, place, parts => .circular (place.path.below parts).text
  | depth + 1, met, place, parts =>
    resolveParts tree (fun met directory target =>
      resolveFrom tree depth met (linkStart directory target) (Path.split target))
      met place parts

/-! ## Canonical forms -/

inductive ResolveError where
  | linkLoop (path : Text)
  | nullCharacter
  deriving DecidableEq, Repr

def ResolveError.message : ResolveError → Text
  | linkLoop path => "Symlink loop from ".toList ++ Text.quoted path
  | nullCharacter => AccessError.nullCharacter.message

/-- A resolved path, unless the tree shows that it still runs in a circle. -/
def settled (tree : Node) (path : Path) : Except ResolveError Path :=
  match tree.locate path with
  | .error .nullCharacter => .error .nullCharacter
  | .error (.fault .linkLoop text) => .error (.linkLoop text)
  | _ => .ok path

/-- The canonical form of a path that starts in a working directory unless it is absolute. -/
def canonical (tree : Node) (workingDirectory : Place) (text : Text) : Except ResolveError Path :=
  let parts := (Path.split text).filter fun part => !Path.isIdle part
  -- A link inside the resolution of a link is another one, so the number of links bounds the depth.
  match tree.resolveFrom (tree.linkCount + 1) [] (linkStart workingDirectory text) parts with
  | .complete place _ => tree.settled place.path
  | .circular text => tree.settled (Path.ofText text)
  | .nullCharacter => .error .nullCharacter

end Node

end ImportLint
