import ImportLint.Proofs.Text.Fields
import ImportLint.Proofs.Usage.Stability
import ImportLint.Proofs.Usage.StaticReference

/-!
# Every use mentions the name

A test may read a list across many lines or look for a path behind the name, but it never holds
without the name itself standing in the text, letter by letter (`infix_of_isUsed`). A name without
line feeds then stands on one of the lines.
-/

namespace ImportLint

open Text

variable {name key t : Text}

/-! ## Parts of a text -/

namespace Text

theorem IsItem.isInfix {item list : Text} (h : IsItem item list) : item <:+: list := by
  rcases h with ⟨-, left, right, rfl, -, -⟩
  exact List.infix_append left item right

end Text

namespace Usage

/-! ## Lists -/

theorem infix_of_isListed {list : Text} (h : isListed name list = true) : name <:+: list := by
  rcases List.any_eq_true.1 h with ⟨item, hitem, hname⟩
  have hfront : name <+: item := List.isPrefixOf_iff_prefix.1 hname
  exact hfront.isInfix.trans (isItem_of_mem_items hitem).isInfix

theorem suffix_of_afterOpening? {body : Text} (h : afterOpening? t = some body) : body <:+ t := by
  unfold afterOpening? at h
  split at h
  · next rest hrest =>
    cases h
    rcases Option.map_eq_some_iff.1 hrest with ⟨behind, hbehind, hopen⟩
    -- What follows the keyword is a word and then the parenthesis with the body behind it.
    have hword : '(' :: body <:+ behind := hopen ▸ List.dropWhile_suffix isWord
    have hkeyword : behind <:+ t := ⟨_, (after?_eq_some_iff.1 hbehind).symm⟩
    exact ((List.suffix_cons '(' body).trans hword).trans hkeyword
  · cases h

theorem suffix_of_parameters? {list : Text} : parameters? t = some list → list <:+ t := by
  induction t with
  | nil =>
      intro h
      cases h
  | cons c t ih =>
      intro h
      unfold parameters? at h
      split at h
      · next body hbody =>
        cases h
        exact suffix_of_afterOpening? hbody
      · exact (ih h).trans (List.suffix_cons c t)

theorem infix_of_mem_parameterLists {list : Text} (h : list ∈ parameterLists t) : list <:+: t := by
  rcases List.mem_filterMap.1 h with ⟨stretch, hstretch, hlist⟩
  have hpiece : stretch <:+: t := infix_of_mem_splitOn (List.mem_of_mem_dropLast hstretch)
  exact (suffix_of_parameters? hlist).isInfix.trans hpiece

theorem infix_of_implementsList? {list : Text} (h : implementsList? t = some list) :
    list <:+: t := by
  rcases Option.map_eq_some_iff.1 h with ⟨⟨before, rest⟩, hcut, rfl⟩
  have hline : rest.takeWhile (· ≠ '\n') <+: rest := List.takeWhile_prefix _
  have hrest : rest <:+ t := ⟨_, (eq_of_cut?_eq_some hcut).symm⟩
  exact hline.isInfix.trans hrest.isInfix

/-! ## Single places -/

theorem infix_of_occurs_lead {lead : Text} (h : occurs (lead ++ name) t = true) : name <:+: t :=
  (List.suffix_append lead name).isInfix.trans (occurs_iff.1 h)

theorem infix_of_hasStatic (h : hasStatic name t = true) : name <:+: t := by
  rcases hasStatic_iff.1 h with ⟨before, qualifier, rest, rfl, -⟩
  exact ⟨before, qualifier ++ "::".toList ++ rest, by simp⟩

theorem infix_of_holds {kind : Usage} (h : holds name t kind = true) : name <:+: t := by
  cases kind with
  | instantiated => exact infix_of_occurs_lead h
  | parameterType =>
      rcases List.any_eq_true.1 h with ⟨list, hlist, hlisted⟩
      exact (infix_of_isListed hlisted).trans (infix_of_mem_parameterLists hlist)
  | trait => exact infix_of_occurs_lead h
  | returnType =>
      rcases Bool.or_eq_true_iff.1 h with hplain | hoptional
      · exact infix_of_occurs_lead hplain
      · exact infix_of_occurs_lead hoptional
  | staticReference => exact infix_of_hasStatic h
  | instanceTest => exact infix_of_occurs_lead h
  | parentClass => exact infix_of_occurs_lead h
  | interface =>
      cases hlist : implementsList? t with
      | none => simp [holds, hlist] at h
      | some list =>
          have hlisted : isListed name list = true := by simpa [holds, hlist] using h
          exact (infix_of_isListed hlisted).trans (infix_of_implementsList? hlist)
  | caught => exact (List.infix_append _ name [' ']).trans (occurs_iff.1 h)

end Usage

/-- A text that uses a name in a place of any kind has the name as a part of it. -/
theorem infix_of_isUsed (h : isUsed name t = true) : name <:+: t := by
  rcases List.any_eq_true.1 h with ⟨kind, -, hholds⟩
  exact Usage.infix_of_holds hholds

theorem exists_line_of_infix (hkey : '\n' ∉ key) (hne : key ≠ []) :
    key <:+: t → ∃ line ∈ lines t, key <:+: line := by
  induction t using piece_induction '\n' with
  | last line h =>
      intro hin
      exact ⟨line, by simp [lines_of_notMem h], hin⟩
  | cons line rest h ih =>
      intro hin
      -- Without a line feed of its own the key cannot reach across the break.
      have hsides := Usage.occurs_append_newline hkey hne line rest
      rw [occurs_iff.2 hin] at hsides
      rcases Bool.or_eq_true_iff.1 hsides.symm with hline | hrest
      · exact ⟨line, by simp [lines_cons_line h], occurs_iff.1 hline⟩
      · rcases ih (occurs_iff.1 hrest) with ⟨other, hmem, hother⟩
        exact ⟨other, by simp [lines_cons_line h, hmem], hother⟩

end ImportLint
