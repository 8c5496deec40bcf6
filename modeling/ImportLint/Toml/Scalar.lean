import ImportLint.Text.Basic

/-!
# Numbers, dates and times of TOML

These readers recognize a scalar at the front of a text and give back what follows it. They take as
much as its form allows; what is left over is for the reader of the document to refuse.
-/

namespace ImportLint

namespace Toml

/-! ## Numbers -/

def isOctal (c : Char) : Bool := '0' ≤ c && c ≤ '7'

def isBinary (c : Char) : Bool := c == '0' || c == '1'

def isHex (c : Char) : Bool := c.isDigit || ('a' ≤ c && c ≤ 'f') || ('A' ≤ c && c ≤ 'F')

/-- What follows further digits, each of which may have an underscore before it. -/
def skipDigits (isDigit : Char → Bool) : Text → Text
  | [] => []
  | '_' :: c :: t => if isDigit c then skipDigits isDigit t else '_' :: c :: t
  | c :: t => if isDigit c then skipDigits isDigit t else c :: t

def digits? (isDigit : Char → Bool) : Text → Option Text
  | [] => none
  | c :: t => if isDigit c then some (skipDigits isDigit t) else none

def dropSign : Text → Text
  | '+' :: t => t
  | '-' :: t => t
  | t => t

def skipFraction : Text → Text
  | '.' :: t => (digits? Char.isDigit t).getD ('.' :: t)
  | t => t

def skipExponent : Text → Text
  | [] => []
  | c :: t =>
    if c = 'e' || c = 'E' then (digits? Char.isDigit (dropSign t)).getD (c :: t) else c :: t

/-- What follows a decimal number. -/
def decimal? (t : Text) : Option Text :=
  match dropSign t with
  -- A whole part that starts with zero is zero.
  | '0' :: rest => some (skipExponent (skipFraction rest))
  | rest => (digits? Char.isDigit rest).map fun rest => skipExponent (skipFraction rest)

def based? : Text → Option Text
  | '0' :: 'x' :: t => digits? isHex t
  | '0' :: 'o' :: t => digits? isOctal t
  | '0' :: 'b' :: t => digits? isBinary t
  | _ => none

def number? (t : Text) : Option Text := (based? t).or (decimal? t)

def digitLimit : Nat := 4300

/-- The number of digits of a whole number in base ten, by its spelling. -/
def decimalDigits (spelling : Text) : Nat :=
  -- All other scalars have a letter, a point, a dash or a colon in them, and no limit.
  if (dropSign spelling).all fun c => c.isDigit || c == '_' then spelling.countP Char.isDigit else 0

/-- What follows a number that is infinite or none. -/
def specialNumber? (t : Text) : Option Text :=
  (Text.after? "inf".toList (dropSign t)).or (Text.after? "nan".toList (dropSign t))

def truth? (t : Text) : Option Text :=
  (Text.after? "true".toList t).or (Text.after? "false".toList t)

/-! ## Dates and times -/

/-- The number written by exactly `width` digits, and what follows. -/
def fixedNumber? (width : Nat) (t : Text) : Option (Nat × Text) :=
  let digits := t.take width
  if digits.length = width && digits.all Char.isDigit then
    some (digits.foldl (fun n c => 10 * n + (c.toNat - '0'.toNat)) 0, t.drop width)
  else none

def pairWithin? (least most : Nat) (t : Text) : Option (Nat × Text) :=
  (fixedNumber? 2 t).bind fun (n, rest) => if least ≤ n && n ≤ most then some (n, rest) else none

def hourMinute? (t : Text) : Option Text := do
  let (_, t) ← pairWithin? 0 23 t
  let t ← Text.after? [':'] t
  let (_, t) ← pairWithin? 0 59 t
  return t

/-- What follows a time of day, with the fraction of its second if it has one. -/
def time? (t : Text) : Option Text := do
  let t ← hourMinute? t
  let t ← Text.after? [':'] t
  let (_, t) ← pairWithin? 0 59 t
  match t with
  | '.' :: c :: rest => return if c.isDigit then rest.dropWhile Char.isDigit else t
  | _ => return t

def skipOffset (t : Text) : Text :=
  match t with
  | [] => []
  | c :: rest =>
    if c = 'Z' || c = 'z' then rest
    else if c = '+' || c = '-' then (hourMinute? rest).getD t
    else t

/-- What follows the time of a date, with a `T` or a blank before it, if there is one here. -/
def skipTimeOfDate (t : Text) : Text :=
  match t with
  | [] => []
  | c :: rest =>
    if c = 'T' || c = 't' || c = ' ' then ((time? rest).map skipOffset).getD t else t

structure Date where
  year : Nat
  month : Nat
  day : Nat
  deriving DecidableEq, Repr

namespace Date

def isLeap (year : Nat) : Bool := year % 4 == 0 && (year % 100 != 0 || year % 400 == 0)

def daysIn (year month : Nat) : Nat :=
  if month = 2 then if isLeap year then 29 else 28
  else if [4, 6, 9, 11].contains month then 30
  else 31

/-- Whether the calendar, which begins with the year one, has the date. -/
def isValid (date : Date) : Bool := 1 ≤ date.year && date.day ≤ daysIn date.year date.month

end Date

def date? (t : Text) : Option (Date × Text) := do
  let (year, t) ← fixedNumber? 4 t
  let t ← Text.after? ['-'] t
  let (month, t) ← pairWithin? 1 12 t
  let t ← Text.after? ['-'] t
  let (day, t) ← pairWithin? 1 31 t
  return (⟨year, month, day⟩, t)

/-! ## All scalars -/

/-- What follows a number, truth value, date or time. A date that the calendar lacks is none. -/
def afterScalar? (t : Text) : Option Text :=
  match truth? t with
  | some rest => some rest
  | none =>
    match date? t with
    | some (date, rest) => if date.isValid then some (skipTimeOfDate rest) else none
    | none => ((time? t).or (number? t)).or (specialNumber? t)

end Toml

end ImportLint
