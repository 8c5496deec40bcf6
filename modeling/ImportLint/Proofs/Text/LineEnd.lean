import ImportLint.Text.Newline

/-!
# Kinds of line ends

A text that has line feeds only can be written with any kind of line end. Unifying the line ends gives
it back (`unifyNewlines_write`).
-/

namespace ImportLint

inductive LineEnd where
  | lineFeed
  | carriageReturn
  | both
  deriving DecidableEq, Repr

namespace LineEnd

def text : LineEnd → Text
  | lineFeed => ['\n']
  | carriageReturn => ['\r']
  | both => ['\r', '\n']

def write (lineEnd : LineEnd) (t : Text) : Text :=
  t.flatMap fun c => if c = '\n' then lineEnd.text else [c]

variable {lineEnd : LineEnd} {t : Text} {c : Char}

theorem write_cons_newline (lineEnd : LineEnd) (t : Text) :
    lineEnd.write ('\n' :: t) = lineEnd.text ++ lineEnd.write t := by
  simp [write]

theorem write_cons_of_ne (hc : c ≠ '\n') (lineEnd : LineEnd) (t : Text) :
    lineEnd.write (c :: t) = c :: lineEnd.write t := by
  simp [write, hc]

/-- No text that is written with carriage returns begins with a line feed, so a carriage return before
it is a line end by itself. -/
theorem head?_write_carriageReturn (t : Text) : (carriageReturn.write t).head? ≠ some '\n' := by
  cases t with
  | nil => simp [write]
  | cons c t =>
      by_cases hc : c = '\n'
      · subst hc
        simp [write_cons_newline, text]
      · simpa [write_cons_of_ne hc] using hc

theorem unifyNewlines_cons_of_ne (hc : c ≠ '\r') (t : Text) :
    Text.unifyNewlines (c :: t) = c :: Text.unifyNewlines t := by
  rw [Text.unifyNewlines]
  · rw [if_neg hc]
  · rintro _ rfl
    exact absurd rfl hc

theorem unifyNewlines_carriageReturn (ht : t.head? ≠ some '\n') :
    Text.unifyNewlines ('\r' :: t) = '\n' :: Text.unifyNewlines t := by
  rw [Text.unifyNewlines]
  · rw [if_pos rfl]
  · rintro rest - rfl
    exact ht rfl

/-- Each line end is read as one line feed, whatever text stands after it. -/
theorem unifyNewlines_text_append (lineEnd : LineEnd) (t : Text) :
    Text.unifyNewlines (lineEnd.text ++ lineEnd.write t) =
      '\n' :: Text.unifyNewlines (lineEnd.write t) := by
  cases lineEnd with
  | lineFeed => exact unifyNewlines_cons_of_ne (by decide) _
  | carriageReturn => exact unifyNewlines_carriageReturn (head?_write_carriageReturn t)
  | both => simp [text, Text.unifyNewlines]

/-- Unifying line ends gives back the text that was written. -/
theorem unifyNewlines_write (lineEnd : LineEnd) (h : '\r' ∉ t) :
    Text.unifyNewlines (lineEnd.write t) = t := by
  induction t with
  | nil => rfl
  | cons c t ih =>
      rcases not_or.1 (mt List.mem_cons.2 h) with ⟨hc, ht⟩
      by_cases hline : c = '\n'
      · subst hline
        rw [write_cons_newline, unifyNewlines_text_append, ih ht]
      · rw [write_cons_of_ne hline, unifyNewlines_cons_of_ne (Ne.symm hc), ih ht]

end LineEnd

end ImportLint
