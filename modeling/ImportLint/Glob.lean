import ImportLint.Text.Basic

/-!
# Globs

A glob is matched against a whole path. `*` stands for any text and `?` for any character, slashes
included; `[…]` stands for one character of a set, `[!…]` for one outside it. A bracket that is not
closed is an ordinary character, and so is a backslash.

Inside a set a hyphen between two characters makes a range. A range that runs backwards is empty
and vanishes together with its two ends; a set of which nothing is left matches no character, and
its complement matches every character.
-/

namespace ImportLint

/-! ## Sets of characters -/

namespace SetBody

/-- The stretches of a set's body between the hyphens that make ranges. A stretch has at least
`least` more characters before its hyphen counts, and a hyphen at the very end never does. -/
def stretches (least : Nat) (stretch : Text) : Text → List Text
  | [] => [stretch.reverse]
  | c :: t =>
    -- The next stretch has an end of this range and one of its own, hence two characters.
    if c = '-' && least == 0 && !t.isEmpty then stretch.reverse :: stretches 2 [] t
    else stretches (least - 1) (c :: stretch) t

def isBackward (left right : Text) : Bool :=
  match left.getLast?, right.head? with
  | some a, some b => decide (b < a)
  | _, _ => false

/-- Stretches without their backward ranges: two stretches around one close up without its ends. -/
def dropBackward (parts : List Text) : List Text :=
  parts.foldr (fun left rest =>
    match rest with
    | [] => [left]
    | right :: more =>
      if isBackward left right then (left.dropLast ++ right.tail) :: more
      else left :: right :: more) []

/-- A set's body as its characters, with `none` for each hyphen that makes a range. -/
def marks (body : Text) : List (Option Char) :=
  if body.contains '-' then
    -- A hyphen right behind the negation is a member, like one at the very front.
    let least := if body.head? == some '!' then 2 else 1
    [none].intercalate ((dropBackward (stretches least [] body)).map fun part => part.map some)
  else body.map some

/-- The ranges of a set, single characters included. A hyphen with no character before it is
itself. -/
def ranges : List (Option Char) → List (Char × Char)
  | [] => []
  | some a :: none :: some b :: rest => (a, b) :: ranges rest
  | some a :: rest => (a, a) :: ranges rest
  | none :: rest => ('-', '-') :: ranges rest

end SetBody

structure CharSet where
  negated : Bool
  ranges : List (Char × Char)
  deriving DecidableEq, Repr

namespace CharSet

def ofBody (body : Text) : CharSet :=
  match SetBody.marks body with
  | some '!' :: rest => ⟨true, SetBody.ranges rest⟩
  | all => ⟨false, SetBody.ranges all⟩

def holds (set : CharSet) (c : Char) : Bool :=
  set.negated != set.ranges.any fun (first, last) => first ≤ c && c ≤ last

end CharSet

/-! ## Patterns -/

inductive Glob.Piece where
  | star
  | one (set : CharSet)
  deriving DecidableEq, Repr

abbrev Glob := List Glob.Piece

namespace Glob

def Piece.any : Piece := .one ⟨true, []⟩

def Piece.char (c : Char) : Piece := .one ⟨false, [(c, c)]⟩

def beforeBracket? (t : Text) : Option Text :=
  if t.contains ']' then some (t.takeWhile (· ≠ ']')) else none

/-- The text before the closing bracket of a set, which a bracket at the very front is not. -/
def beforeClosing? : Text → Option Text
  | ']' :: t => (beforeBracket? t).map (']' :: ·)
  | t => beforeBracket? t

/-- The body of the set whose bracket opens right before the text. -/
def setBody? : Text → Option Text
  | '!' :: t => (beforeClosing? t).map ('!' :: ·)
  | t => beforeClosing? t

/-- The elements of a pattern after its first `skip` characters. -/
def ofTextFrom (skip : Nat) : Text → Glob
  | [] => []
  | c :: t =>
    match skip with
    | skip + 1 => ofTextFrom skip t
    | 0 =>
      if c = '*' then .star :: ofTextFrom 0 t
      else if c = '?' then .any :: ofTextFrom 0 t
      else if c = '[' then
        match setBody? t with
        | some body => .one (.ofBody body) :: ofTextFrom (body.length + 1) t
        | none => .char c :: ofTextFrom 0 t
      else .char c :: ofTextFrom 0 t

def ofText (t : Text) : Glob := ofTextFrom 0 t

/-! ## Matching -/

/-- For each truth value of a list, whether it or a later one is true. -/
def orLater : List Bool → List Bool
  | [] => []
  | b :: rest =>
    let later := orLater rest
    (b || later.headD false) :: later

/-- For each tail of a text, longest first, whether the pattern matches it. -/
def matchedTails (t : Text) : Glob → List Bool
  | [] => List.replicate t.length false ++ [true]
  | .star :: rest => orLater (matchedTails t rest)
  | .one set :: rest =>
    List.zipWith (fun c later => set.holds c && later) t (matchedTails t rest).tail ++ [false]

def accepts (glob : Glob) (t : Text) : Bool := (matchedTails t glob).headD false

/-! Matching is a table over the tails of a text so that several stars cost no more than one. The
equations below are what it computes; nothing else about the table is needed. -/

/-- Looking for later truth values keeps the number of entries. -/
theorem length_orLater (values : List Bool) : (orLater values).length = values.length := by
  induction values with
  | nil => rfl
  | cons b rest ih => simp [orLater, ih]

/-- There is one entry for every tail, the empty one included. -/
theorem length_matchedTails (t : Text) (glob : Glob) :
    (matchedTails t glob).length = t.length + 1 := by
  induction glob with
  | nil => simp [matchedTails]
  | cons piece rest ih => cases piece <;> simp [matchedTails, length_orLater, ih]

/-- The table begins with the entry for the whole text. -/
theorem exists_matchedTails_eq (t : Text) (glob : Glob) :
    ∃ later, matchedTails t glob = glob.accepts t :: later ∧ later.length = t.length := by
  have h := length_matchedTails t glob
  cases hm : matchedTails t glob with
  | nil => simp [hm] at h
  | cons b later => exact ⟨later, by simp [accepts, hm], by simpa [hm] using h⟩

/-- The entries for the tails of `t` follow the one for `c :: t`. -/
theorem tail_matchedTails_cons (c : Char) (t : Text) (glob : Glob) :
    (matchedTails (c :: t) glob).tail = matchedTails t glob := by
  induction glob with
  | nil => simp [matchedTails, List.replicate_succ]
  | cons piece rest ih =>
    cases piece with
    | star =>
      obtain ⟨later, h, _⟩ := exists_matchedTails_eq (c :: t) rest
      have hl : later = matchedTails t rest := by simpa [h] using ih
      simp [matchedTails, h, orLater, hl]
    | one set =>
      obtain ⟨later, h, _⟩ := exists_matchedTails_eq t rest
      simp [matchedTails, ih, h]

/-- The empty pattern matches the empty text only. -/
@[simp] theorem accepts_nil (t : Text) : accepts [] t = t.isEmpty := by
  cases t <;> simp [accepts, matchedTails, List.replicate_succ]

/-- At the end of a text a star stands for nothing. -/
@[simp] theorem accepts_star_nil (glob : Glob) : accepts (.star :: glob) [] = accepts glob [] := by
  obtain ⟨later, h, hl⟩ := exists_matchedTails_eq [] glob
  have hn : later = [] := List.eq_nil_of_length_eq_zero hl
  rw [accepts, matchedTails, h, hn]
  simp [orLater]

/-- Elsewhere a star stands for nothing, or it takes one more character. -/
@[simp] theorem accepts_star_cons (c : Char) (t : Text) (glob : Glob) :
    accepts (.star :: glob) (c :: t) = (accepts glob (c :: t) || accepts (.star :: glob) t) := by
  obtain ⟨later, h, _⟩ := exists_matchedTails_eq (c :: t) glob
  have hl : later = matchedTails t glob := by simpa [h] using tail_matchedTails_cons c t glob
  rw [accepts, matchedTails, h, hl]
  rfl

/-- A set needs a character. -/
@[simp] theorem accepts_one_nil (set : CharSet) (glob : Glob) :
    accepts (.one set :: glob) [] = false := by
  simp [accepts, matchedTails]

/-- A set takes one character that it holds. -/
@[simp] theorem accepts_one_cons (set : CharSet) (c : Char) (t : Text) (glob : Glob) :
    accepts (.one set :: glob) (c :: t) = (set.holds c && accepts glob t) := by
  obtain ⟨later, h, _⟩ := exists_matchedTails_eq t glob
  rw [accepts, matchedTails, tail_matchedTails_cons, h]
  rfl

def anyAccepts (globs : List Glob) (t : Text) : Bool := globs.any (·.accepts t)

end Glob

end ImportLint
