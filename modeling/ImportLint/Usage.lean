import ImportLint.Text.Fields
import ImportLint.Text.Word

/-!
# Uses of a name

Nine kinds of places in which an imported name counts as used. Each is a test on the bare text:
comments and string literals count like code, and a name is matched by how it begins, so that a use
of a longer name counts too.

Two of the tests read lists. A parameter list is found in a stretch of text that a closing
parenthesis ends: it starts at the first `function name(` of the stretch, and the stretch holds no
other list that could be read. Of the `implements` clauses only the first one is read.
-/

namespace ImportLint

inductive Usage where
  | instantiated
  | parameterType
  | trait
  | returnType
  /-- A static member of the class, or of a class below the namespace, is named. -/
  | staticReference
  | instanceTest
  | parentClass
  | interface
  | caught
  deriving DecidableEq, Repr

namespace Usage

def all : List Usage :=
  [instantiated, parameterType, trait, returnType, staticReference, instanceTest, parentClass,
    interface, caught]

/-! ## Lists of types -/

/-- What follows `function`, a name that may be missing, and an opening parenthesis. -/
def afterOpening? (t : Text) : Option Text :=
  match (Text.after? "function ".toList t).map (·.dropWhile isWord) with
  | some ('(' :: body) => some body
  | _ => none

/-- The parameters in a stretch that a closing parenthesis ends: all after the first opening. -/
def parameters? : Text → Option Text
  | [] => none
  | c :: t =>
    match afterOpening? (c :: t) with
    | some body => some body
    | none => parameters? t

def parameterLists (t : Text) : List Text :=
  -- The last stretch is the one that no parenthesis closes.
  (t.splitOn ')').dropLast.filterMap parameters?

/-- What the first `implements` clause lists, up to the end of its line. -/
def implementsList? (t : Text) : Option Text :=
  (Text.cut? "implements ".toList t).map fun (_, rest) => rest.takeWhile (· ≠ '\n')

def isListed (name list : Text) : Bool := (Text.items list).any name.isPrefixOf

/-! ## Static references -/

def isPathChar (c : Char) : Bool := isWord c || c == '\\'

/-- Whether a text goes on with `::`, or with a backslash, a path and `::`. -/
def isQualified (t : Text) : Bool :=
  "::".toList.isPrefixOf t ||
    match t with
    | '\\' :: p :: path => isPathChar p && "::".toList.isPrefixOf (path.dropWhile isPathChar)
    | _ => false

def isStaticAt (name t : Text) : Bool := ((Text.after? name t).map isQualified).getD false

def hasStatic (name : Text) : Text → Bool
  | [] => isStaticAt name []
  | c :: t => isStaticAt name (c :: t) || hasStatic name t

/-! ## The tests -/

def holds (name text : Text) : Usage → Bool
  | instantiated => Text.occurs ("new ".toList ++ name) text
  | parameterType => (parameterLists text).any (isListed name)
  | trait => Text.occurs ("use ".toList ++ name) text
  | returnType =>
    Text.occurs (": ".toList ++ name) text || Text.occurs (":? ".toList ++ name) text
  | staticReference => hasStatic name text
  | instanceTest => Text.occurs ("instanceof ".toList ++ name) text
  | parentClass => Text.occurs ("extends ".toList ++ name) text
  | interface => ((implementsList? text).map (isListed name)).getD false
  | caught => Text.occurs ("\x7d catch (".toList ++ name ++ [' ']) text

end Usage

def isUsed (name text : Text) : Bool := Usage.all.any (Usage.holds name text)

end ImportLint
