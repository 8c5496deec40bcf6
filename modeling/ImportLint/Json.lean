import ImportLint.Text.Fields

/-!
# JSON

The JSON values that reports are made of, and their layout: every item and every field on a line of
its own, two spaces deeper than what holds it, and nothing between the brackets of an empty list or
object. The written form is plain ASCII: all other characters are escaped by their UTF-16 units.
-/

namespace ImportLint

/-- A JSON value without fractions, truth values and null. -/
inductive Json where
  | text (t : Text)
  | int (n : Int)
  | array (items : List Json)
  | object (fields : List (Text × Json))

namespace Json

/-! ## Strings -/

/-- The escape of one UTF-16 unit. -/
def unitEscape (unit : Nat) : Text := '\\' :: 'u' :: Text.hex 4 unit

def escapeChar (c : Char) : Text :=
  let n := c.toNat
  if c = '"' then ['\\', '"']
  else if c = '\\' then ['\\', '\\']
  else if c = '\n' then ['\\', 'n']
  else if c = '\r' then ['\\', 'r']
  else if c = '\t' then ['\\', 't']
  else if n = 0x0C then ['\\', 'f']
  else if n = 0x08 then ['\\', 'b']
  else if 0x20 ≤ n && n < 0x7F then [c]
  else if n < 0x10000 then unitEscape n
  -- A character beyond the basic plane is a pair of surrogates.
  else unitEscape (0xD800 + (n - 0x10000) / 0x400) ++ unitEscape (0xDC00 + (n - 0x10000) % 0x400)

def writeText (t : Text) : Text := '"' :: t.flatMap escapeChar ++ ['"']

/-! ## Layout -/

def newline (depth : Nat) : Text := '\n' :: List.replicate (2 * depth) ' '

def block (depth : Nat) (opening closing : Char) : List Text → Text
  | [] => [opening, closing]
  | parts =>
    opening :: newline (depth + 1) ++ Text.join (',' :: newline (depth + 1)) parts ++
      newline depth ++ [closing]

mutual

def writeAt (depth : Nat) : Json → Text
  | text t => writeText t
  | int n => Text.ofInt n
  | array items => block depth '[' ']' (writeItems (depth + 1) items)
  | object fields => block depth '{' '}' (writeFields (depth + 1) fields)

def writeItems (depth : Nat) : List Json → List Text
  | [] => []
  | item :: rest => writeAt depth item :: writeItems depth rest

def writeFields (depth : Nat) : List (Text × Json) → List Text
  | [] => []
  | (key, value) :: rest =>
    (writeText key ++ ": ".toList ++ writeAt depth value) :: writeFields depth rest

end

/-- The written form of a value. It ends without a line feed. -/
def write (value : Json) : Text := writeAt 0 value

end Json

end ImportLint
