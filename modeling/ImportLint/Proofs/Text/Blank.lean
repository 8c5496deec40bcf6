import ImportLint.Text.Blank
import Mathlib.Data.List.Basic

/-!
# Trimming

Trimming stops at a character that is not blank. All laws of this module follow from that: the two
equations `trimLeft_append_cons` and `trimRight_append_cons` say it, and a text is either blank as a
whole or has such a character (`blank_or_exists`).
-/

namespace ImportLint

namespace Text

variable {s t : Text} {c : Char}

/-! ## Dropping blanks -/

theorem trimLeft_suffix (t : Text) : trimLeft t <:+ t :=
  List.dropWhile_suffix isBlank

theorem trimRight_isPrefix (t : Text) : trimRight t <+: t := by
  have h : t.reverse.dropWhile isBlank <:+ t.reverse := List.dropWhile_suffix isBlank
  rw [← List.reverse_prefix, List.reverse_reverse] at h
  exact h

theorem trim_isInfix (t : Text) : trim t <:+: t :=
  (trimRight_isPrefix (trimLeft t)).isInfix.trans (trimLeft_suffix t).isInfix

theorem trimLeft_sublist (t : Text) : (trimLeft t).Sublist t :=
  (trimLeft_suffix t).sublist

theorem trimRight_sublist (t : Text) : (trimRight t).Sublist t :=
  (trimRight_isPrefix t).sublist

theorem trim_sublist (t : Text) : (trim t).Sublist t :=
  (trim_isInfix t).sublist

theorem trimLeft_blank_append (hs : ∀ c ∈ s, isBlank c = true) (t : Text) :
    trimLeft (s ++ t) = trimLeft t :=
  List.dropWhile_append_of_pos hs

theorem trimRight_append_blank (ht : ∀ c ∈ t, isBlank c = true) (s : Text) :
    trimRight (s ++ t) = trimRight s := by
  have hrev : ∀ c ∈ t.reverse, isBlank c = true := fun c hc => ht c (List.mem_reverse.1 hc)
  simp only [trimRight, List.reverse_append, List.dropWhile_append_of_pos hrev]

theorem trimLeft_append_cons (hc : isBlank c = false) (s t : Text) :
    trimLeft (s ++ c :: t) = trimLeft s ++ c :: t := by
  induction s with
  | nil => simp [trimLeft, hc]
  | cons d s ih =>
      by_cases hd : isBlank d = true
      · simpa [trimLeft, hd] using ih
      · simp [trimLeft, hd]

theorem trimRight_append_cons (hc : isBlank c = false) (s t : Text) :
    trimRight (s ++ c :: t) = s ++ c :: trimRight t := by
  have hfront : trimLeft (t.reverse ++ c :: s.reverse) = trimLeft t.reverse ++ c :: s.reverse :=
    trimLeft_append_cons hc t.reverse s.reverse
  have hrev : (s ++ c :: t).reverse = t.reverse ++ c :: s.reverse := by simp
  simp only [trimLeft] at hfront
  simp only [trimRight, hrev, hfront]
  simp

theorem blank_or_exists (t : Text) :
    (∀ c ∈ t, isBlank c = true) ∨ ∃ front c back, t = front ++ c :: back ∧ isBlank c = false := by
  by_cases h : ∀ c ∈ t, isBlank c = true
  · exact Or.inl h
  · right
    push Not at h
    rcases h with ⟨c, hmem, hc⟩
    rcases List.append_of_mem hmem with ⟨front, back, heq⟩
    exact ⟨front, c, back, heq, by simpa using hc⟩

theorem trimLeft_eq_nil (h : ∀ c ∈ t, isBlank c = true) : trimLeft t = [] := by
  have hall := trimLeft_blank_append h []
  rwa [List.append_nil] at hall

theorem trimRight_eq_nil (h : ∀ c ∈ t, isBlank c = true) : trimRight t = [] :=
  trimRight_append_blank h []

/-- The two ends can be trimmed in either order. -/
theorem trimLeft_trimRight (t : Text) : trimLeft (trimRight t) = trim t := by
  rcases blank_or_exists t with h | ⟨front, c, back, rfl, hc⟩
  · rw [trim, trimLeft_eq_nil h, trimRight_eq_nil h]
    rfl
  · simp only [trim, trimRight_append_cons hc, trimLeft_append_cons hc]

theorem trim_append_blank (ht : ∀ c ∈ t, isBlank c = true) (s : Text) : trim (s ++ t) = trim s := by
  rw [← trimLeft_trimRight, trimRight_append_blank ht, trimLeft_trimRight]

theorem exists_blank_append_trimLeft (t : Text) :
    ∃ blanks, t = blanks ++ trimLeft t ∧ (∀ c ∈ blanks, isBlank c = true) ∧
      ∀ c, (trimLeft t).head? = some c → isBlank c = false := by
  refine ⟨t.takeWhile isBlank, List.takeWhile_append_dropWhile.symm, ?_, ?_⟩
  · intro c hc
    exact List.all_eq_true.1 List.all_takeWhile c hc
  · intro c hc
    have hhead := List.head?_dropWhile_not isBlank t
    rw [← trimLeft, hc] at hhead
    exact hhead

/-! ## Trimmed texts -/

def Trimmed (t : Text) : Prop :=
  (∀ c, t.head? = some c → isBlank c = false) ∧ ∀ c, t.getLast? = some c → isBlank c = false

instance (t : Text) : Decidable (Trimmed t) :=
  decidable_of_iff
    ((t.head?.all fun c => !isBlank c) = true ∧ (t.getLast?.all fun c => !isBlank c) = true)
    (by simp [Trimmed, Option.all_eq_true])

theorem Trimmed.trimRight_eq (h : Trimmed t) : trimRight t = t := by
  rcases List.eq_nil_or_concat t with rfl | ⟨front, c, rfl⟩
  · rfl
  · rw [List.concat_eq_append] at h ⊢
    have hc : isBlank c = false := h.2 c List.getLast?_concat
    exact trimRight_append_cons hc front []

theorem Trimmed.trimLeft_eq (h : Trimmed t) : trimLeft t = t := by
  cases t with
  | nil => rfl
  | cons c t =>
      have hc : isBlank c = false := h.1 c rfl
      exact trimLeft_append_cons hc [] t

theorem Trimmed.trim_eq (h : Trimmed t) : trim t = t := by
  rw [trim, h.trimLeft_eq, h.trimRight_eq]

/-- Trimming leaves nothing to trim. -/
theorem trimmed_trim (t : Text) : Trimmed (trim t) := by
  constructor
  · intro c hc
    have hhead := List.head?_dropWhile_not isBlank (trimRight t)
    rw [← trimLeft, trimLeft_trimRight, hc] at hhead
    exact hhead
  · intro c hc
    have hhead := List.head?_dropWhile_not isBlank (trimLeft t).reverse
    rw [trim, trimRight, List.getLast?_reverse] at hc
    rw [hc] at hhead
    exact hhead

theorem Trimmed.trim_blank_append (h : Trimmed t) (hs : ∀ c ∈ s, isBlank c = true) :
    trim (s ++ t) = t := by
  rw [trim, trimLeft_blank_append hs, h.trimLeft_eq, h.trimRight_eq]

end Text

end ImportLint
