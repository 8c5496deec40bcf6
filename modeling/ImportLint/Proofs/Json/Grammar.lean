import ImportLint.Json
import ImportLint.Toml.Lexeme

/-!
# JSON texts

Which texts are JSON and what they say, by the rules of the standard grammar: white space, the three
literal names, numbers with fraction and exponent, strings with all their escapes, arrays and
objects. A text may spell the same value in many ways. `Spells` relates every spelling to its value,
so that it can be asked of a text that a program wrote what any reader has to find in it.

Two points are left open by the grammar and settled here. A pair of escaped surrogates is the one
character beyond the basic plane, and a surrogate alone is no character. The members of an object
are kept as they stand, with their order and with repeated keys.
-/

namespace ImportLint

namespace Json

/-- What a JSON text says. A number is `significand` times ten to the `exponent`. -/
inductive Value where
  | null
  | bool (b : Bool)
  | number (significand exponent : Int)
  | string (t : Text)
  | array (items : List Value)
  | object (members : List (Text × Value))

/-! ## White space -/

def isSpace (c : Char) : Bool := c == ' ' || c == '\t' || c == '\n' || c == '\r'

def Spaces (s : Text) : Prop := ∀ c ∈ s, isSpace c = true

/-! ## Strings -/

/-- The letters that may follow a backslash, and what they stand for. -/
def shortEscapes : List (Char × Char) :=
  [('"', '"'), ('\\', '\\'), ('/', '/'), ('b', '\x08'), ('f', '\x0c'), ('n', '\n'), ('r', '\r'),
    ('t', '\t')]

/-- An escape by the four hexadecimal digits of a UTF-16 unit. -/
def SpellsUnit (s : Text) (unit : Nat) : Prop :=
  ∃ digits, s = '\\' :: 'u' :: digits ∧ digits.length = 4 ∧ Toml.hexValue? digits = some unit

def isHighSurrogate (unit : Nat) : Bool := 0xD800 ≤ unit && unit < 0xDC00

def isLowSurrogate (unit : Nat) : Bool := 0xDC00 ≤ unit && unit < 0xE000

def combine (high low : Nat) : Nat := 0x10000 + (high - 0xD800) * 0x400 + (low - 0xDC00)

/-- One character of a string: as itself, by a letter, by a unit, or by a pair of units. -/
inductive SpellsChar : Text → Char → Prop where
  | plain {c : Char} : 0x20 ≤ c.toNat → c ≠ '"' → c ≠ '\\' → SpellsChar [c] c
  | short {letter c : Char} : (letter, c) ∈ shortEscapes → SpellsChar ['\\', letter] c
  | unit {s : Text} {c : Char} : SpellsUnit s c.toNat → SpellsChar s c
  | pair {s s' : Text} {high low : Nat} {c : Char} :
      SpellsUnit s high → SpellsUnit s' low → isHighSurrogate high = true →
      isLowSurrogate low = true → c.toNat = combine high low → SpellsChar (s ++ s') c

inductive SpellsChars : Text → Text → Prop where
  | nil : SpellsChars [] []
  | cons {s rest t : Text} {c : Char} :
      SpellsChar s c → SpellsChars rest t → SpellsChars (s ++ rest) (c :: t)

def SpellsString (s t : Text) : Prop := ∃ inner, s = '"' :: inner ++ ['"'] ∧ SpellsChars inner t

/-! ## Numbers -/

def IsDigits (s : Text) : Prop := s ≠ [] ∧ ∀ c ∈ s, c.isDigit = true

def natOf (digits : Text) : Nat := Nat.ofDigitChars 10 digits 0

/-- The whole part of a number. It starts with zero only if it is zero. -/
def IsWhole (s : Text) : Prop := IsDigits s ∧ (s.head? = some '0' → s = ['0'])

/-- The fraction of a number, which may be missing, with its digits. -/
inductive SpellsFraction : Text → Text → Prop where
  | none : SpellsFraction [] []
  | some {digits : Text} : IsDigits digits → SpellsFraction ('.' :: digits) digits

def isExponentMark (c : Char) : Bool := c == 'e' || c == 'E'

/-- The exponent of a number, which may be missing. -/
inductive SpellsExponent : Text → Int → Prop where
  | none : SpellsExponent [] 0
  | plain {mark : Char} {digits : Text} :
      isExponentMark mark = true → IsDigits digits → SpellsExponent (mark :: digits) (natOf digits)
  | plus {mark : Char} {digits : Text} :
      isExponentMark mark = true → IsDigits digits →
      SpellsExponent (mark :: '+' :: digits) (natOf digits)
  | minus {mark : Char} {digits : Text} :
      isExponentMark mark = true → IsDigits digits →
      SpellsExponent (mark :: '-' :: digits) (-natOf digits)

/-- A number without its sign. The digits of the fraction count as digits of the significand. -/
inductive SpellsUnsigned : Text → Nat → Int → Prop where
  | mk {whole fraction digits power : Text} {exponent : Int} :
      IsWhole whole → SpellsFraction fraction digits → SpellsExponent power exponent →
      SpellsUnsigned (whole ++ fraction ++ power) (natOf (whole ++ digits))
        (exponent - digits.length)

inductive SpellsNumber : Text → Int → Int → Prop where
  | plain {s : Text} {significand : Nat} {exponent : Int} :
      SpellsUnsigned s significand exponent → SpellsNumber s significand exponent
  | minus {s : Text} {significand : Nat} {exponent : Int} :
      SpellsUnsigned s significand exponent → SpellsNumber ('-' :: s) (-significand) exponent

/-! ## Values -/

/-- The parts of a text that hold values. -/
inductive Part where
  /-- A value. -/
  | value (v : Value)
  /-- A value with the white space around it. -/
  | element (v : Value)
  /-- What stands between the brackets of an array that is not empty. -/
  | items (vs : List Value)
  /-- A key and its value, with the white space around them. -/
  | member (m : Text × Value)
  /-- What stands between the braces of an object that is not empty. -/
  | members (ms : List (Text × Value))

inductive Spells : Text → Part → Prop where
  | null : Spells "null".toList (.value .null)
  | yes : Spells "true".toList (.value (.bool true))
  | no : Spells "false".toList (.value (.bool false))
  | number {s : Text} {significand exponent : Int} :
      SpellsNumber s significand exponent → Spells s (.value (.number significand exponent))
  | string {s t : Text} : SpellsString s t → Spells s (.value (.string t))
  | emptyArray {s : Text} : Spaces s → Spells ('[' :: s ++ [']']) (.value (.array []))
  | array {s : Text} {vs : List Value} :
      Spells s (.items vs) → Spells ('[' :: s ++ [']']) (.value (.array vs))
  | emptyObject {s : Text} : Spaces s → Spells ('{' :: s ++ ['}']) (.value (.object []))
  | object {s : Text} {ms : List (Text × Value)} :
      Spells s (.members ms) → Spells ('{' :: s ++ ['}']) (.value (.object ms))
  | element {left s right : Text} {v : Value} :
      Spaces left → Spells s (.value v) → Spaces right → Spells (left ++ s ++ right) (.element v)
  | item {s : Text} {v : Value} : Spells s (.element v) → Spells s (.items [v])
  | items {s rest : Text} {v : Value} {vs : List Value} :
      Spells s (.element v) → Spells rest (.items vs) → Spells (s ++ ',' :: rest) (.items (v :: vs))
  | pair {left key right s t : Text} {v : Value} :
      Spaces left → SpellsString key t → Spaces right → Spells s (.element v) →
      Spells (left ++ key ++ right ++ ':' :: s) (.member (t, v))
  | member {s : Text} {m : Text × Value} : Spells s (.member m) → Spells s (.members [m])
  | members {s rest : Text} {m : Text × Value} {ms : List (Text × Value)} :
      Spells s (.member m) → Spells rest (.members ms) →
      Spells (s ++ ',' :: rest) (.members (m :: ms))

/-- A text that is JSON and says `v`. -/
def IsTextOf (t : Text) (v : Value) : Prop := Spells t (.element v)

end Json

end ImportLint
