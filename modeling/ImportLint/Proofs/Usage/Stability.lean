import ImportLint.Proofs.Usage.Lines
import ImportLint.Proofs.Usage.Parameters

/-!
# Edits that keep uses

Two kinds of edits for which all nine tests can be compared before and after, for every name without
line feeds:

* `isUsed_append_newline`: more lines below take no use away;
* `isUsed_eq_of_nonEmptyLines`: empty lines added or removed anywhere change nothing.
-/

namespace ImportLint

open Text

variable {name s t : Text}

namespace Usage

theorem mem_all (kind : Usage) : kind ∈ all := by
  cases kind <;> decide

/-- Lines added below keep every use that the text has. -/
theorem holds_append_of_holds (hname : '\n' ∉ name) {kind : Usage}
    (h : holds name s kind = true) (t : Text) : holds name (s ++ '\n' :: t) kind = true := by
  by_cases hkind : kind.onOneLine = true
  · simp [holds_append_newline hname hkind, h]
  · cases kind with
    | parameterType => exact parameterType_append h ('\n' :: t)
    | interface =>
        -- The first clause of the text is still the first one.
        cases hlist : implementsList? s with
        | none => simp [holds, hlist] at h
        | some list => simpa [holds, implementsList?_append_newline, hlist] using h
    | _ => exact absurd rfl hkind

theorem holds_eq_any_nonEmptyLines (hname : '\n' ∉ name) {kind : Usage}
    (hkind : kind.onOneLine = true) (t : Text) :
    holds name t kind = (nonEmptyLines t).any fun line => holds name line kind := by
  -- The lines that are left out have no use: an empty text has none of these kinds.
  have hnil : holds name [] kind = false := by
    cases kind with
    | parameterType => exact absurd hkind (by decide)
    | interface => exact absurd hkind (by decide)
    | staticReference => simpa [holds, hasStatic] using (onLine_isStaticAt hname).nil
    | _ => simp [holds, occurs]
  rw [holds_eq_any_lines hname hkind, nonEmptyLines, List.any_filter]
  congr 1
  funext line
  cases line with
  | nil => simpa using hnil
  | cons c line => simp

/-- An empty line has no clause, so the search passes over it. -/
theorem findSome?_implementsList?_filter (ls : List Text) :
    (ls.filter fun line => !line.isEmpty).findSome? implementsList? =
      ls.findSome? implementsList? := by
  induction ls with
  | nil => rfl
  | cons line ls ih =>
      cases line with
      | nil =>
          have hnil : implementsList? [] = none := by decide
          simpa [hnil] using ih
      | cons c line => simp [List.findSome?_cons, ih]

theorem implementsList?_eq_findSome?_nonEmptyLines (t : Text) :
    implementsList? t = (nonEmptyLines t).findSome? implementsList? := by
  rw [implementsList?_eq_findSome?_lines, nonEmptyLines, findSome?_implementsList?_filter]

/-- Every test sees the non-empty lines alone. -/
theorem holds_eq_of_nonEmptyLines (hname : '\n' ∉ name) (h : nonEmptyLines s = nonEmptyLines t)
    (kind : Usage) : holds name s kind = holds name t kind := by
  by_cases hkind : kind.onOneLine = true
  · rw [holds_eq_any_nonEmptyLines hname hkind s, holds_eq_any_nonEmptyLines hname hkind t, h]
  · cases kind with
    | parameterType =>
        calc
          holds name s parameterType
              = holds name (stacked (nonEmptyLines s)) parameterType :=
                parameterType_eq_stacked hname s
          _ = holds name (stacked (nonEmptyLines t)) parameterType := by rw [h]
          _ = holds name t parameterType := (parameterType_eq_stacked hname t).symm
    | interface => simp only [holds, implementsList?_eq_findSome?_nonEmptyLines, h]
    | _ => exact absurd rfl hkind

end Usage

theorem isUsed_append_newline (hname : '\n' ∉ name) (h : isUsed name s = true) (t : Text) :
    isUsed name (s ++ '\n' :: t) = true := by
  rcases List.any_eq_true.1 h with ⟨kind, hmem, hholds⟩
  exact List.any_eq_true.2 ⟨kind, hmem, Usage.holds_append_of_holds hname hholds t⟩

theorem isUsed_eq_of_nonEmptyLines (hname : '\n' ∉ name) (h : nonEmptyLines s = nonEmptyLines t) :
    isUsed name s = isUsed name t := by
  have hsame : Usage.holds name s = Usage.holds name t :=
    funext fun kind => Usage.holds_eq_of_nonEmptyLines hname h kind
  simp only [isUsed, hsame]

theorem isUsed_eq_false_iff :
    isUsed name t = false ↔ ∀ kind : Usage, Usage.holds name t kind = false := by
  rw [isUsed, List.any_eq_false]
  constructor
  · intro h kind
    exact Bool.eq_false_iff.2 (h kind (Usage.mem_all kind))
  · intro h kind _
    simp [h kind]

end ImportLint
