import ImportLint.Toml.Lexeme
import ImportLint.Toml.Scalar
import ImportLint.Toml.Value

/-!
# TOML documents

A document is read statement by statement into one table. Beside the table stand two lists of paths
that restrict what later statements may do: *declared* tables, which no header may open and no
dotted key may enter again, and *sealed* values, arrays and inline tables to which nothing may be
added at any depth. Tables that a dotted key makes become declared when the next header is read.

Reading stops at the first thing that TOML does not allow, and then there is no document. It also
stops at a whole number in base ten that has too many digits. TOML has no such limit; it is one of
reading.
-/

namespace ImportLint

namespace Toml

inductive ReadError where
  | malformed
  | integerTooLong (digits : Nat)
  deriving DecidableEq, Repr

/-- What a reader has found, which TOML must allow. -/
def orMalformed {α : Type} : Option α → Except ReadError α
  | some found => .ok found
  | none => .error .malformed

/-! ## Values -/

/-- Whether a path is sealed: one of the sealed paths leads to it or to something that holds it. -/
def isSealed (sealedPaths : List (List Text)) (path : List Text) : Bool :=
  sealedPaths.any (·.isPrefixOf path)

def sealValue (sealedPaths : List (List Text)) (path : List Text) (value : Value) :
    List (List Text) :=
  if value.isContainer then path :: sealedPaths else sealedPaths

/-- A key, the equals sign, and the blanks after it. -/
def keyEquals? (t : Text) : Option (List Text × Text) :=
  match key? t.length t with
  | some (key, '=' :: rest) => some (key, skipSpaces rest)
  | _ => none

def addInline? (table : Table) (sealedPaths : List (List Text)) (key : List Text) (value : Value) :
    Option Table :=
  if isSealed sealedPaths key then none
  else table.change false (Table.add? (key.getLast?.getD []) value) key.dropLast

def scalar (spelling : Text) : Except ReadError Value :=
  if digitLimit < decimalDigits spelling then .error (.integerTooLong (decimalDigits spelling))
  else .ok (.scalar spelling)

mutual

/-- A value. Every value and every item takes a unit of `fuel`. -/
def value : (fuel : Nat) → Text → Except ReadError (Value × Text)
  | 0, _ => .error .malformed
  | fuel + 1, t =>
    match t with
    | '"' :: '"' :: '"' :: rest =>
      orMalformed ((multilineBasic? rest).map fun (s, rest) => (.text s, rest))
    | '"' :: rest => orMalformed ((basic? rest).map fun (s, rest) => (.text s, rest))
    | '\'' :: '\'' :: '\'' :: rest =>
      orMalformed ((multilineLiteral? rest).map fun (s, rest) => (.text s, rest))
    | '\'' :: rest => orMalformed ((literal? rest).map fun (s, rest) => (.text s, rest))
    | '[' :: rest =>
      match skipFiller? false rest with
      | none => .error .malformed
      | some rest => (items fuel rest).map fun (items, rest) => (.array items, rest)
    | '{' :: rest =>
      match skipSpaces rest with
      | '}' :: rest => .ok (.table [], rest)
      | rest => (pairs fuel [] [] rest).map fun (table, rest) => (.table table, rest)
    | t =>
      match afterScalar? t with
      | none => .error .malformed
      | some rest => (scalar (t.take (t.length - rest.length))).map fun value => (value, rest)

/-- The items of an array up to its closing bracket. A comma may follow the last one. -/
def items : (fuel : Nat) → Text → Except ReadError (List Value × Text)
  | 0, _ => .error .malformed
  | fuel + 1, t =>
    match t with
    | ']' :: rest => .ok ([], rest)
    | t =>
      match value fuel t with
      | .error error => .error error
      | .ok (value, rest) =>
        match skipFiller? false rest with
        | some (']' :: rest) => .ok ([value], rest)
        | some (',' :: rest) =>
          match skipFiller? false rest with
          | none => .error .malformed
          | some rest => (items fuel rest).map fun (items, rest) => (value :: items, rest)
        | _ => .error .malformed

/-- The pairs of an inline table up to its closing brace. No comma may follow the last one. -/
def pairs : (fuel : Nat) → Table → (sealedPaths : List (List Text)) → Text →
    Except ReadError (Table × Text)
  | 0, _, _, _ => .error .malformed
  | fuel + 1, table, sealedPaths, t =>
    match keyEquals? t with
    | none => .error .malformed
    | some (key, rest) =>
      match value fuel rest with
      | .error error => .error error
      | .ok (value, rest) =>
        match addInline? table sealedPaths key value with
        | none => .error .malformed
        | some table =>
          match skipSpaces rest with
          | '}' :: rest => .ok (table, rest)
          | ',' :: rest => pairs fuel table (sealValue sealedPaths key value) (skipSpaces rest)
          | _ => .error .malformed

end

/-! ## Statements -/

structure Document where
  root : Table := []
  /-- The path of the table that the last header opened. -/
  header : List Text := []
  /-- Tables that may not be opened again. -/
  declared : List (List Text) := []
  /-- Tables that the next header makes declared. -/
  pending : List (List Text) := []
  /-- Values to which nothing may be added. -/
  sealedPaths : List (List Text) := []

namespace Document

def settle (doc : Document) : Document :=
  { doc with declared := doc.pending ++ doc.declared, pending := [] }

def openTable? (doc : Document) (path : List Text) : Option Document :=
  if doc.declared.contains path || isSealed doc.sealedPaths path then none
  else
    (doc.root.change true some path).map fun root =>
      { doc with root := root, header := path, declared := path :: doc.declared }

/-- Appends a table to the array at a path and opens it. -/
def openItem? (doc : Document) (path : List Text) : Option Document :=
  if isSealed doc.sealedPaths path then none
  else
    (doc.root.change true (Table.addToArray? (path.getLast?.getD [])) path.dropLast).map
      fun root =>
        { doc with
          root := root
          header := path
          -- Marks below the path are about the items before the new one.
          declared := path :: doc.declared.filter fun other => !path.isPrefixOf other
          sealedPaths := doc.sealedPaths.filter fun other => !path.isPrefixOf other }

def assign? (doc : Document) (key : List Text) (value : Value) : Option Document :=
  -- The tables that a dotted key goes through; it makes those that are missing.
  let holders := (List.range (key.length - 1)).map fun i => doc.header ++ key.take (i + 1)
  let parent := doc.header ++ key.dropLast
  if holders.any doc.declared.contains || isSealed doc.sealedPaths parent then none
  else
    (doc.root.change true (Table.add? (key.getLast?.getD []) value) parent).map fun root =>
      { doc with
        root := root
        pending := holders ++ doc.pending
        sealedPaths := sealValue doc.sealedPaths (doc.header ++ key) value }

/-- Reads one statement: a header, or a key and its value. A comment is left for later. -/
def statement (doc : Document) (t : Text) : Except ReadError (Document × Text) :=
  match t with
  | '#' :: _ => .ok (doc, t)
  | '[' :: '[' :: rest =>
    match key? rest.length (skipSpaces rest) with
    | some (path, ']' :: ']' :: rest) =>
      orMalformed ((doc.settle.openItem? path).map fun doc => (doc, rest))
    | _ => .error .malformed
  | '[' :: rest =>
    match key? rest.length (skipSpaces rest) with
    | some (path, ']' :: rest) =>
      orMalformed ((doc.settle.openTable? path).map fun doc => (doc, rest))
    | _ => .error .malformed
  | t =>
    match keyEquals? t with
    | none => .error .malformed
    | some (key, rest) =>
      -- Every two units of fuel read at least one character.
      match value (2 * rest.length + 2) rest with
      | .error error => .error error
      | .ok (value, rest) => orMalformed ((doc.assign? key value).map fun doc => (doc, rest))

/-- Reads all statements. Every line takes a unit of `fuel`. -/
def statements : (fuel : Nat) → Document → Text → Except ReadError Document
  | 0, _, _ => .error .malformed
  | fuel + 1, doc, t =>
    match skipSpaces t with
    | [] => .ok doc
    | '\n' :: rest => statements fuel doc rest
    | t =>
      match doc.statement t with
      | .error error => .error error
      | .ok (doc, rest) =>
        match skipComment? (skipSpaces rest) with
        | some [] => .ok doc
        | some ('\n' :: rest) => statements fuel doc rest
        | _ => .error .malformed

end Document

def read (t : Text) : Except ReadError Table :=
  (Document.statements (t.length + 1) {} t).map (·.root)

end Toml

end ImportLint
