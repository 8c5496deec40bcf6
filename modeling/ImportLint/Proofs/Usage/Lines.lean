import ImportLint.Usage
import ImportLint.Proofs.Text.Lines

/-!
# Uses that one line shows

Of the nine kinds of uses, seven are found on one line: a text has such a use of a name without line
feeds just if one of its lines has it. An `implements` clause also ends with its line, but only the
first clause of the text counts. Parameter lists cross lines and are treated elsewhere.
-/

namespace ImportLint

namespace Usage

open Text

variable {name s t : Text} {kind : Usage}

/-! ## Static references -/

theorem isPathChar_newline : isPathChar '\n' = false := by
  rw [isPathChar, isWord_of_ascii (by decide)]
  rfl

theorem dropWhile_isPathChar_append_newline (s t : Text) :
    (s ++ '\n' :: t).dropWhile isPathChar = s.dropWhile isPathChar ++ '\n' :: t := by
  induction s with
  | nil => simp [isPathChar_newline]
  | cons c s ih =>
      by_cases hc : isPathChar c = true
      · simpa [hc] using ih
      · simp [hc]

theorem isQualified_append_newline (s t : Text) :
    isQualified (s ++ '\n' :: t) = isQualified s := by
  have hcolons : ∀ u : Text,
      "::".toList.isPrefixOf (u ++ '\n' :: t) = "::".toList.isPrefixOf u :=
    fun u => (onLine_isPrefixOf (by decide) (by decide)).stops u t
  unfold isQualified
  rw [hcolons s]
  congr 1
  -- A path needs a backslash and one more character before the line ends.
  rcases s with _ | ⟨c, s⟩
  · rfl
  · by_cases hc : c = '\\'
    · subst hc
      rcases s with _ | ⟨p, path⟩
      · simp only [List.cons_append, List.nil_append, isPathChar_newline, Bool.false_and]
      · simp only [List.cons_append, dropWhile_isPathChar_append_newline, hcolons]
    · simp [hc]

theorem onLine_isStaticAt (hname : '\n' ∉ name) : OnLine (isStaticAt name) where
  stops := by
    intro s t
    -- A name without line feeds is read on this side of the line feed or not at all.
    by_cases hpre : name <+: s
    · rcases hpre with ⟨rest, rfl⟩
      have hshort : after? name (name ++ rest) = some rest := after?_eq_some_iff.2 rfl
      have hlong : after? name (name ++ rest ++ '\n' :: t) = some (rest ++ '\n' :: t) :=
        after?_eq_some_iff.2 (List.append_assoc name rest _)
      simp only [isStaticAt, hshort, hlong, Option.map_some, isQualified_append_newline]
    · have hshort : after? name s = none := after?_eq_none_iff.2 hpre
      have hlong : after? name (s ++ '\n' :: t) = none := by
        refine after?_eq_none_iff.2 fun h => hpre ?_
        exact (prefix_append_mark_iff hname).1 h
      simp [isStaticAt, hshort, hlong]
  nil := by
    cases name with
    | nil => rfl
    | cons c name => rfl

theorem hasStatic_eq_hits (name t : Text) : hasStatic name t = hits (isStaticAt name) t := by
  induction t with
  | nil => rfl
  | cons c t ih => simp only [hasStatic, hits, ih]

/-! ## The kinds that need one line -/

def onOneLine : Usage → Bool
  | parameterType => false
  | interface => false
  | _ => true

theorem occurs_append_newline {key : Text} (hkey : '\n' ∉ key) (hne : key ≠ []) (s t : Text) :
    occurs key (s ++ '\n' :: t) = (occurs key s || occurs key t) := by
  simp only [occurs_eq_hits]
  exact hits_append_newline (onLine_isPrefixOf hkey hne) s t

/-- A lead in front of a name is a key that line feeds end. -/
theorem occurs_lead_append_newline {lead : Text} (hlead : '\n' ∉ lead) (hne : lead ≠ [])
    (hname : '\n' ∉ name) (s t : Text) :
    occurs (lead ++ name) (s ++ '\n' :: t) =
      (occurs (lead ++ name) s || occurs (lead ++ name) t) := by
  refine occurs_append_newline ?_ ?_ s t
  · intro h
    rcases List.mem_append.1 h with h | h
    · exact hlead h
    · exact hname h
  · simp [hne]

theorem holds_append_newline (hname : '\n' ∉ name) (hkind : kind.onOneLine = true) (s t : Text) :
    holds name (s ++ '\n' :: t) kind = (holds name s kind || holds name t kind) := by
  cases kind with
  | instantiated => exact occurs_lead_append_newline (by decide) (by decide) hname s t
  | parameterType => exact absurd hkind (by decide)
  | trait => exact occurs_lead_append_newline (by decide) (by decide) hname s t
  | returnType =>
      have hlead : ∀ lead ∈ [": ".toList, ":? ".toList], '\n' ∉ lead ∧ lead ≠ [] := by decide
      have hkey : ∀ lead ∈ [": ".toList, ":? ".toList],
          occurs (lead ++ name) (s ++ '\n' :: t) =
            (occurs (lead ++ name) s || occurs (lead ++ name) t) :=
        fun lead h => occurs_lead_append_newline (hlead lead h).1 (hlead lead h).2 hname s t
      simp only [holds, hkey ": ".toList (by simp), hkey ":? ".toList (by simp)]
      ac_rfl
  | staticReference =>
      simp only [holds, hasStatic_eq_hits]
      exact hits_append_newline (onLine_isStaticAt hname) s t
  | instanceTest => exact occurs_lead_append_newline (by decide) (by decide) hname s t
  | parentClass => exact occurs_lead_append_newline (by decide) (by decide) hname s t
  | interface => exact absurd hkind (by decide)
  | caught =>
      have hfree : '\n' ∉ name ++ [' '] := by simpa using hname
      simp only [holds, List.append_assoc]
      exact occurs_lead_append_newline (by decide) (by decide) hfree s t

theorem holds_eq_any_lines (hname : '\n' ∉ name) (hkind : kind.onOneLine = true) (t : Text) :
    holds name t kind = (lines t).any fun line => holds name line kind := by
  induction t using piece_induction '\n' with
  | last line h => simp [lines_of_notMem h]
  | cons line rest h ih => simp [holds_append_newline hname hkind, lines_cons_line h, ih]

/-! ## The first `implements` clause -/

theorem implementsList?_append_newline (s t : Text) :
    implementsList? (s ++ '\n' :: t) = (implementsList? s).or (implementsList? t) := by
  have hkey : '\n' ∉ "implements ".toList := by decide
  cases hs : cut? "implements ".toList s with
  | some sides =>
      rcases sides with ⟨before, rest⟩
      have hboth := cut?_append_of_eq_some (t := '\n' :: t) hs
      simp only [implementsList?, hs, hboth, Option.map_some, Option.some_or,
        takeWhile_append_mark]
  | none =>
      have hboth := cut?_append_newline_of_eq_none (t := t) hkey hs
      cases ht : cut? "implements ".toList t with
      | none => simp only [implementsList?, hs, hboth, ht, Option.map_none, Option.none_or]
      | some sides =>
          simp only [implementsList?, hs, hboth, ht, Option.map_none, Option.map_some,
            Option.none_or]

theorem implementsList?_eq_findSome?_lines (t : Text) :
    implementsList? t = (lines t).findSome? implementsList? := by
  induction t using piece_induction '\n' with
  | last line h => simp [lines_of_notMem h]
  | cons line rest h ih =>
      rw [implementsList?_append_newline, lines_cons_line h, List.findSome?_cons, ih]
      cases implementsList? line with
      | none => rfl
      | some list => rfl

end Usage

end ImportLint
