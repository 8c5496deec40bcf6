import ImportLint.Text.Basic

/-!
# The lexemes of TOML

Each reader takes a text from its front and gives back what follows; it fails where TOML does not
allow what stands there. Control characters are allowed nowhere, save tabs and, where several lines
are allowed, line feeds.
-/

namespace ImportLint

namespace Toml

/-! ## Blanks and comments -/

def isSpace (c : Char) : Bool := c == ' ' || c == '\t'

def isSpaceOrBreak (c : Char) : Bool := isSpace c || c == '\n'

def isControl (c : Char) : Bool := (c.toNat < 0x20 && c != '\t') || c.toNat == 0x7F

def skipSpaces (t : Text) : Text := t.dropWhile isSpace

/-- What follows a comment, which ends before a line feed, if there is one here. -/
def skipComment? : Text → Option Text
  | '#' :: t =>
    if (t.takeWhile (· ≠ '\n')).any isControl then none else some (t.dropWhile (· ≠ '\n'))
  | t => some t

/-- What follows blanks, line feeds and comments, where `inComment` says whether a comment has
begun. -/
def skipFiller? (inComment : Bool) : Text → Option Text
  | [] => some []
  | c :: t =>
    if inComment then
      if c = '\n' then skipFiller? false t else if isControl c then none else skipFiller? true t
    else if isSpaceOrBreak c then skipFiller? false t
    else if c = '#' then skipFiller? true t
    else some (c :: t)

/-! ## Strings -/

def hexValue? : Text → Option Nat :=
  List.foldl (fun value c =>
    value.bind fun n =>
      if '0' ≤ c && c ≤ '9' then some (16 * n + (c.toNat - '0'.toNat))
      else if 'a' ≤ c && c ≤ 'f' then some (16 * n + (c.toNat - 'a'.toNat + 10))
      else if 'A' ≤ c && c ≤ 'F' then some (16 * n + (c.toNat - 'A'.toNat + 10))
      else none) (some 0)

/-- The character with the code that the first `width` digits of a text give. -/
def codedChar? (width : Nat) (t : Text) : Option Char :=
  if t.length < width then none
  else (hexValue? (t.take width)).bind fun n => if n.isValidChar then some (Char.ofNat n) else none

/-- The length of the blanks and line feeds at the front of a text whose first line is blank. -/
def breakLength? (t : Text) : Option Nat :=
  match skipSpaces t with
  | '\n' :: _ => some (t.takeWhile isSpaceOrBreak).length
  | _ => none

/-- What a backslash and the text after it stand for, and how many characters of the text belong to
it. A backslash at the end of a line joins the next line that is not blank. -/
def escape? (multiline : Bool) : Text → Option (Text × Nat)
  | [] => none
  | c :: t =>
    if multiline && isSpaceOrBreak c then (breakLength? (c :: t)).map fun n => ([], n)
    else if c = 'u' then (codedChar? 4 t).map fun x => ([x], 5)
    else if c = 'U' then (codedChar? 8 t).map fun x => ([x], 9)
    else if c = 'b' then some (['\x08'], 1)
    else if c = 't' then some (['\t'], 1)
    else if c = 'n' then some (['\n'], 1)
    else if c = 'f' then some (['\x0c'], 1)
    else if c = 'r' then some (['\r'], 1)
    else if c = '"' || c = '\\' then some ([c], 1)
    else none

/-- The rest of a basic string after its first `skip` characters, up to its closing quotes, and what
follows them. -/
def basicFrom? (multiline : Bool) (skip : Nat) : Text → Option (Text × Text)
  | [] => none
  | c :: t =>
    match skip with
    | skip + 1 => basicFrom? multiline skip t
    | 0 =>
      if c = '"' then
        if !multiline then some ([], t)
        else
          match t with
          | '"' :: '"' :: rest => some ([], rest)
          | _ => (basicFrom? multiline 0 t).map fun (s, rest) => (c :: s, rest)
      else if c = '\\' then
        match escape? multiline t with
        | some (x, n) => (basicFrom? multiline n t).map fun (s, rest) => (x ++ s, rest)
        | none => none
      else if isControl c && !(multiline && c == '\n') then none
      else (basicFrom? multiline 0 t).map fun (s, rest) => (c :: s, rest)

def basic? (t : Text) : Option (Text × Text) := basicFrom? false 0 t

def literal? (t : Text) : Option (Text × Text) :=
  match t.dropWhile (· ≠ '\'') with
  | [] => none
  | _ :: rest =>
    let s := t.takeWhile (· ≠ '\'')
    if s.any isControl then none else some (s, rest)

def dropBreak : Text → Text
  | '\n' :: t => t
  | t => t

/-- A string followed by up to two more quotes, which still belong to it. -/
def withExtraQuotes (quote : Char) : Text × Text → Text × Text
  | (s, a :: b :: rest) =>
    if a = quote then
      if b = quote then (s ++ [a, b], rest) else (s ++ [a], b :: rest)
    else (s, a :: b :: rest)
  | (s, [a]) => if a = quote then (s ++ [a], []) else (s, [a])
  | (s, []) => (s, [])

def multilineBasic? (t : Text) : Option (Text × Text) :=
  (basicFrom? true 0 (dropBreak t)).map (withExtraQuotes '"')

def multilineLiteral? (t : Text) : Option (Text × Text) :=
  match Text.cut? ['\'', '\'', '\''] (dropBreak t) with
  | none => none
  | some (s, rest) =>
    if s.any fun c => isControl c && c != '\n' then none
    else some (withExtraQuotes '\'' (s, rest))

/-! ## Keys -/

def isBare (c : Char) : Bool := c.isAlphanum || c == '-' || c == '_'

/-- One part of a key: bare, or quoted on one line. -/
def keyPart? : Text → Option (Text × Text)
  | '"' :: t => basic? t
  | '\'' :: t => literal? t
  | t =>
    if (t.takeWhile isBare).isEmpty then none else some (t.takeWhile isBare, t.dropWhile isBare)

/-- A key with dots between its parts and the blanks after it. Each part takes a unit of `fuel`. -/
def key? : (fuel : Nat) → Text → Option (List Text × Text)
  | 0, _ => none
  | fuel + 1, t =>
    match keyPart? t with
    | none => none
    | some (part, rest) =>
      match skipSpaces rest with
      | '.' :: more => (key? fuel (skipSpaces more)).map fun (parts, rest) => (part :: parts, rest)
      | rest => some ([part], rest)

end Toml

end ImportLint
