import ImportLint.Text.Basic

/-!
# Bytes and texts

UTF-8 in both directions. `Utf8.units` reads a byte sequence into its characters and, between them,
the bytes that belong to none. Reading that overlooks such bytes and reading that refuses them are
then two views of the same list, and agree wherever the second one succeeds.

No overlong form, surrogate or code point above U+10FFFF is a character. A byte order mark is.
-/

namespace ImportLint

namespace Utf8

def encode (t : Text) : List UInt8 := t.flatMap String.utf8EncodeChar

/-! ## Single characters -/

def isTail (b : UInt8) : Bool := 0x80 ≤ b && b ≤ 0xBF

/-- The six bits that a continuing byte adds to `high`. -/
def extend (high : Nat) (b : UInt8) : Nat := high * 64 + (b.toNat - 0x80)

def single? (a : UInt8) : Option Char :=
  if a < 0x80 then some (Char.ofNat a.toNat) else none

def pair? (a b : UInt8) : Option Char :=
  if 0xC2 ≤ a && a ≤ 0xDF && isTail b then some (Char.ofNat (extend (a.toNat - 0xC0) b)) else none

def triple? (a b c : UInt8) : Option Char :=
  let n := extend (extend (a.toNat - 0xE0) b) c
  if 0xE0 ≤ a && a ≤ 0xEF && isTail b && isTail c && 0x800 ≤ n && !(0xD800 ≤ n && n ≤ 0xDFFF) then
    some (Char.ofNat n)
  else none

def quad? (a b c d : UInt8) : Option Char :=
  let n := extend (extend (extend (a.toNat - 0xF0) b) c) d
  if 0xF0 ≤ a && a ≤ 0xF4 && isTail b && isTail c && isTail d && 0x10000 ≤ n && n ≤ 0x10FFFF then
    some (Char.ofNat n)
  else none

/-! ## Sequences -/

/-- The characters of a byte sequence in order, with `none` for each byte that belongs to none. -/
def units : List UInt8 → List (Option Char)
  | [] => []
  | [a] => [single? a]
  | a :: b :: r =>
    match single? a with
    | some x => some x :: units (b :: r)
    | none =>
      match pair? a b with
      | some x => some x :: units r
      | none =>
        match r with
        | [] => none :: units [b]
        | c :: r =>
          match triple? a b c with
          | some x => some x :: units r
          | none =>
            match r with
            | [] => none :: units [b, c]
            | d :: r =>
              match quad? a b c d with
              | some x => some x :: units r
              | none => none :: units (b :: c :: d :: r)

/-- The text of a byte sequence, overlooking bytes that belong to no character. -/
def decodeLossy (bytes : List UInt8) : Text := (units bytes).filterMap id

def decode? (bytes : List UInt8) : Option Text := (units bytes).mapM id

end Utf8

end ImportLint
