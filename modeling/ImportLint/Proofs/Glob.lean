import ImportLint.Glob
import ImportLint.Proofs.Text.Lines
import Mathlib.Data.Char

/-!
# What patterns match

A pattern that is put in front of another one matches the texts that can be cut in two, one side for
each of them (`accepts_append_iff`). Together with how patterns are read this gives what discovery
needs to know about the text of a pattern:

* if it ends with a star, the pattern goes on matching when a text goes on (`accepts_append`),
* if it has no special character, the pattern matches that text alone (`accepts_literal_iff`), and
  with `/**` behind it the paths below the one it names (`accepts_below_iff`).
-/

namespace ImportLint

namespace Glob

variable {front back glob : Glob} {pattern literal body s t : Text}

/-! ## Matching -/

/-- A star skips any text. -/
theorem accepts_star_iff :
    accepts (.star :: glob) t = true ↔
      ∃ skipped rest, t = skipped ++ rest ∧ glob.accepts rest = true := by
  induction t with
  | nil => simp
  | cons c t ih =>
      rw [accepts_star_cons, Bool.or_eq_true, ih]
      constructor
      · rintro (h | ⟨skipped, rest, rfl, h⟩)
        · exact ⟨[], c :: t, rfl, h⟩
        · exact ⟨c :: skipped, rest, rfl, h⟩
      · rintro ⟨skipped, rest, heq, h⟩
        cases skipped with
        | nil => exact Or.inl (heq ▸ h)
        | cons d skipped => exact Or.inr ⟨skipped, rest, (List.cons.inj heq).2, h⟩

theorem accepts_one_iff {set : CharSet} :
    accepts (.one set :: glob) t = true ↔
      ∃ c rest, t = c :: rest ∧ set.holds c = true ∧ glob.accepts rest = true := by
  cases t with
  | nil => simp
  | cons c t => simp

theorem accepts_append_iff :
    (front ++ back).accepts t = true ↔
      ∃ before behind, t = before ++ behind ∧ front.accepts before = true ∧
        back.accepts behind = true := by
  induction front generalizing t with
  | nil => simp
  | cons piece front ih =>
      cases piece with
      | star =>
          rw [List.cons_append, accepts_star_iff]
          constructor
          · rintro ⟨skipped, rest, rfl, h⟩
            rcases ih.1 h with ⟨before, behind, rfl, hbefore, hbehind⟩
            refine ⟨skipped ++ before, behind, (List.append_assoc ..).symm, ?_, hbehind⟩
            exact accepts_star_iff.2 ⟨skipped, before, rfl, hbefore⟩
          · rintro ⟨before, behind, rfl, hbefore, hbehind⟩
            rcases accepts_star_iff.1 hbefore with ⟨skipped, rest, rfl, hrest⟩
            refine ⟨skipped, rest ++ behind, List.append_assoc .., ?_⟩
            exact ih.2 ⟨rest, behind, rfl, hrest, hbehind⟩
      | one set =>
          rw [List.cons_append, accepts_one_iff]
          constructor
          · rintro ⟨c, rest, rfl, hc, h⟩
            rcases ih.1 h with ⟨before, behind, rfl, hbefore, hbehind⟩
            exact ⟨c :: before, behind, rfl, accepts_one_iff.2 ⟨c, before, rfl, hc, hbefore⟩, hbehind⟩
          · rintro ⟨before, behind, rfl, hbefore, hbehind⟩
            rcases accepts_one_iff.1 hbefore with ⟨c, rest, rfl, hc, hrest⟩
            exact ⟨c, rest ++ behind, rfl, hc, ih.2 ⟨rest, behind, rfl, hrest, hbehind⟩⟩

theorem accepts_star (t : Text) : accepts [.star] t = true :=
  accepts_star_iff.2 ⟨t, [], (List.append_nil t).symm, by simp⟩

theorem holds_single_iff {c d : Char} : CharSet.holds ⟨false, [(c, c)]⟩ d = true ↔ d = c := by
  have hbounds : CharSet.holds ⟨false, [(c, c)]⟩ d = true ↔ c ≤ d ∧ d ≤ c := by
    simp [CharSet.holds, Bool.and_eq_true]
  rw [hbounds]
  constructor
  · rintro ⟨hleft, hright⟩
    exact le_antisymm hright hleft
  · rintro rfl
    exact ⟨le_rfl, le_rfl⟩

theorem accepts_map_char_iff : accepts (literal.map Piece.char) t = true ↔ t = literal := by
  induction literal generalizing t with
  | nil => simp
  | cons c literal ih =>
      cases t with
      | nil => simp [Piece.char]
      | cons d t =>
          simp [Piece.char, holds_single_iff, ih]

/-! ## Patterns that end with a star -/

theorem exists_closing_of_beforeBracket? (h : beforeBracket? t = some body) :
    ∃ rest, t = body ++ ']' :: rest := by
  rw [beforeBracket?] at h
  split at h
  · next hmem =>
    obtain ⟨piece, rest, rfl, hpiece⟩ := List.eq_append_cons_of_mem (by simpa using hmem)
    have hbody : piece = body := by
      rw [← Option.some.inj h, Text.takeWhile_stretch hpiece (Or.inr ⟨rest, rfl⟩)]
    exact ⟨rest, by rw [hbody]⟩
  · cases h

theorem exists_closing_of_beforeClosing? (h : beforeClosing? t = some body) :
    ∃ rest, t = body ++ ']' :: rest := by
  rw [beforeClosing?.eq_def] at h
  split at h
  · obtain ⟨inner, hinner, rfl⟩ := Option.map_eq_some_iff.1 h
    rcases exists_closing_of_beforeBracket? hinner with ⟨rest, rfl⟩
    exact ⟨rest, rfl⟩
  · exact exists_closing_of_beforeBracket? h

theorem exists_closing_of_setBody? (h : setBody? t = some body) :
    ∃ rest, t = body ++ ']' :: rest := by
  rw [setBody?.eq_def] at h
  split at h
  · obtain ⟨inner, hinner, rfl⟩ := Option.map_eq_some_iff.1 h
    rcases exists_closing_of_beforeClosing? hinner with ⟨rest, rfl⟩
    exact ⟨rest, rfl⟩
  · exact exists_closing_of_beforeClosing? h

/-- A character of a pattern gives one element. Reading goes on right behind it, or behind the
bracket that closes a set. -/
theorem ofTextFrom_cons_cases (c : Char) (t : Text) :
    ∃ piece skip, ofTextFrom 0 (c :: t) = piece :: ofTextFrom skip t ∧
      (skip = 0 ∨ ∃ body rest, t = body ++ ']' :: rest ∧ skip = body.length + 1) := by
  rw [ofTextFrom]
  split
  · exact ⟨.star, 0, rfl, Or.inl rfl⟩
  · split
    · exact ⟨.any, 0, rfl, Or.inl rfl⟩
    · split
      · split
        · next body hbody =>
          rcases exists_closing_of_setBody? hbody with ⟨rest, hrest⟩
          exact ⟨.one (.ofBody body), body.length + 1, rfl, Or.inr ⟨body, rest, hrest, rfl⟩⟩
        · exact ⟨.char c, 0, rfl, Or.inl rfl⟩
      · exact ⟨.char c, 0, rfl, Or.inl rfl⟩

/-- A star at the very end is never inside a set: no bracket follows that could close it. -/
theorem exists_ofTextFrom_concat_star {skip : Nat} (h : skip ≤ t.length) :
    ∃ front, ofTextFrom skip (t ++ ['*']) = front ++ [.star] := by
  induction t generalizing skip with
  | nil =>
      obtain rfl : skip = 0 := Nat.le_zero.1 h
      exact ⟨[], rfl⟩
  | cons c t ih =>
      cases skip with
      | succ skip => exact ih (Nat.le_of_succ_le_succ h)
      | zero =>
          rcases ofTextFrom_cons_cases c (t ++ ['*']) with ⟨piece, skip, hread, hskip⟩
          have hle : skip ≤ t.length := by
            rcases hskip with rfl | ⟨body, rest, hcut, rfl⟩
            · exact Nat.zero_le _
            · rcases List.eq_nil_or_concat rest with rfl | ⟨more, last, rfl⟩
              · exact absurd (List.append_inj' hcut rfl).2 (by decide)
              · have hlength := congrArg List.length hcut
                simp only [List.concat_eq_append, List.length_append, List.length_cons] at hlength
                omega
          rcases ih hle with ⟨front, hfront⟩
          exact ⟨piece :: front, by rw [List.cons_append, hread, hfront, List.cons_append]⟩

/-- What matches a pattern with a star at its end still does when the text goes on. -/
theorem accepts_append (hstar : pattern.getLast? = some '*')
    (h : (ofText pattern).accepts s = true) (t : Text) :
    (ofText pattern).accepts (s ++ t) = true := by
  obtain ⟨start, rfl⟩ := List.getLast?_eq_some_iff.1 hstar
  rcases exists_ofTextFrom_concat_star (Nat.zero_le start.length) with ⟨front, hfront⟩
  rw [ofText, hfront] at h ⊢
  rcases accepts_append_iff.1 h with ⟨before, behind, rfl, hbefore, -⟩
  exact accepts_append_iff.2
    ⟨before, behind ++ t, List.append_assoc .., hbefore, accepts_star _⟩

/-! ## Patterns without special characters -/

/-- A text in which no character has a special meaning at the start of a pattern. A closing bracket
has none unless an opening one stands before it. -/
def IsLiteral (t : Text) : Prop := ∀ c ∈ t, c ≠ '*' ∧ c ≠ '?' ∧ c ≠ '['

instance (t : Text) : Decidable (IsLiteral t) :=
  decidable_of_iff (t.all (fun c => c != '*' && c != '?' && c != '[') = true)
    (by simp [IsLiteral, and_assoc])

theorem ofText_literal_append (h : IsLiteral literal) (t : Text) :
    ofText (literal ++ t) = literal.map Piece.char ++ ofText t := by
  induction literal with
  | nil => rfl
  | cons c literal ih =>
      rcases h c List.mem_cons_self with ⟨hstar, hany, hset⟩
      have hrest := ih fun d hd => h d (List.mem_cons_of_mem c hd)
      rw [ofText] at hrest
      simp only [List.cons_append, List.map_cons, ofText, ofTextFrom, if_neg hstar, if_neg hany,
        if_neg hset, hrest]

theorem accepts_literal_iff (h : IsLiteral literal) :
    (ofText literal).accepts t = true ↔ t = literal := by
  have hread : ofText literal = literal.map Piece.char := by
    simpa [ofText, ofTextFrom] using ofText_literal_append h []
  rw [hread, accepts_map_char_iff]

/-- The pattern for all that stands below a directory matches just the paths that go on behind the
path of the directory and a slash. -/
theorem accepts_below_iff (h : IsLiteral literal) :
    (ofText (literal ++ "/**".toList)).accepts t = true ↔ literal ++ ['/'] <+: t := by
  have hslash : IsLiteral (literal ++ ['/']) := by
    intro c hc
    rcases List.mem_append.1 hc with hc | hc
    · exact h c hc
    · rw [List.mem_singleton.1 hc]
      decide
  have hcut : literal ++ "/**".toList = (literal ++ ['/']) ++ "**".toList := by simp
  rw [hcut, ofText_literal_append hslash, accepts_append_iff]
  constructor
  · rintro ⟨before, behind, rfl, hbefore, -⟩
    rw [accepts_map_char_iff.1 hbefore]
    exact List.prefix_append _ behind
  · rintro ⟨behind, rfl⟩
    refine ⟨literal ++ ['/'], behind, rfl, accepts_map_char_iff.2 rfl, ?_⟩
    exact accepts_star_iff.2 ⟨[], behind, rfl, accepts_star behind⟩

end Glob

end ImportLint
