import ImportLint.Text.Basic
import Mathlib.Data.List.Nodup
import Mathlib.Data.List.Perm.Basic

/-!
# Sorting by code points

The order of texts by code points is the lexicographic order of lists of characters (`le_iff`).
Sorting by keys of which none stands twice gives strictly increasing keys, and a list is known by
its elements once it is sorted so (`eq_of_mem_iff_of_pairwise`). Whatever the keys are, elements can
be left out before sorting or afterwards (`filter_mergeSort_key`).
-/

namespace ImportLint

namespace Text

variable {s t : Text} {α : Type} {key : α → Text} {xs ys : List α}

theorem le_cons_of_ne {a b : Char} (h : a ≠ b) (s t : Text) :
    le (a :: s) (b :: t) = true ↔ a < b := by
  have hfirst : le (a :: s) (b :: t) = true ↔ a.toNat < b.toNat := by simp [le, h, Nat.blt_eq]
  rw [hfirst, Char.lt_def, UInt32.lt_iff_toNat_lt]
  rfl

theorem le_iff : le s t = true ↔ s < t ∨ s = t := by
  induction s generalizing t with
  | nil =>
      cases t with
      | nil => simp [le]
      | cons b t => simp [le]
  | cons a s ih =>
      cases t with
      | nil => simp [le]
      | cons b t =>
          by_cases hab : a = b
          · subst hab
            simp [le, ih]
          · rw [le_cons_of_ne hab]
            simp [List.cons_lt_cons_iff, hab]

protected theorem le_total (s t : Text) : (le s t || le t s) = true := by
  induction s generalizing t with
  | nil => simp [le]
  | cons a s ih =>
      cases t with
      | nil => simp [le]
      | cons b t =>
          by_cases hab : a = b
          · subst hab
            simpa [le] using ih t
          · -- The first characters decide, in one direction or in the other.
            have hne : a.toNat ≠ b.toNat := fun h => hab (Char.toNat_inj.1 h)
            have hba : ¬ b = a := fun h => hab h.symm
            simp only [le, hab, hba, if_false, Bool.or_eq_true, Nat.blt_eq]
            omega

protected theorem le_trans {u : Text} (hst : le s t = true) (htu : le t u = true) : le s u = true := by
  rcases le_iff.1 hst with hst | rfl
  · rcases le_iff.1 htu with htu | rfl
    · exact le_iff.2 (Or.inl (List.lt_trans hst htu))
    · exact le_iff.2 (Or.inl hst)
  · exact htu

theorem pairwise_lt_mergeSort (h : (xs.map key).Nodup) :
    (xs.mergeSort fun a b => le (key a) (key b)).Pairwise fun a b => key a < key b := by
  have hperm : (xs.mergeSort fun a b => le (key a) (key b)).Perm xs := List.mergeSort_perm xs _
  have hne : (xs.mergeSort fun a b => le (key a) (key b)).Pairwise fun a b => key a ≠ key b :=
    List.pairwise_map.1 ((hperm.map key).nodup_iff.2 h)
  have hsorted := List.pairwise_mergeSort (fun a b c => Text.le_trans (s := key a) (u := key c))
    (fun a b => Text.le_total (key a) (key b)) xs
  refine (hsorted.and hne).imp ?_
  rintro a b ⟨hle, hne⟩
  exact (le_iff.1 hle).resolve_right hne

theorem nodup_of_pairwise_lt (h : xs.Pairwise fun a b => key a < key b) : xs.Nodup := by
  refine h.imp ?_
  rintro a b hlt rfl
  exact List.lt_irrefl _ hlt

theorem eq_of_mem_iff_of_pairwise (hxs : xs.Pairwise fun a b => key a < key b)
    (hys : ys.Pairwise fun a b => key a < key b) (h : ∀ a, a ∈ xs ↔ a ∈ ys) : xs = ys := by
  have hperm : xs.Perm ys :=
    (List.perm_ext_iff_of_nodup (nodup_of_pairwise_lt hxs) (nodup_of_pairwise_lt hys)).2 h
  refine hperm.eq_of_pairwise ?_ hxs hys
  intro a b _ _ hab hba
  exact absurd (List.lt_trans hab hba) (List.lt_irrefl _)

/-! ## Sorting a part -/

/-- Where a list is cut is known by a test that fails on the one side and holds on the other. -/
theorem append_cut_unique {test : α → Bool} {front back front' back' : List α}
    (h : front ++ back = front' ++ back') (hfront : ∀ a ∈ front, test a = false)
    (hback : ∀ a ∈ back, test a = true) (hfront' : ∀ a ∈ front', test a = false)
    (hback' : ∀ a ∈ back', test a = true) : front = front' ∧ back = back' := by
  have hcut : ∀ front back : List α, (∀ a ∈ front, test a = false) → (∀ a ∈ back, test a = true) →
      (front ++ back).filter test = back := by
    intro front back hfront hback
    have hnone : front.filter test = [] := by simpa using hfront
    rw [List.filter_append, hnone, List.filter_eq_self.2 hback, List.nil_append]
  have hsame : back = back' := by
    rw [← hcut front back hfront hback, h, hcut front' back' hfront' hback']
  subst hsame
  exact ⟨List.append_cancel_right h, rfl⟩

/-- Sorting puts one more element in front right behind the elements that come before it. -/
theorem exists_mergeSort_cons (key : α → Text) (a : α) (xs : List α) :
    ∃ front back,
      ((a :: xs).mergeSort fun b c => le (key b) (key c)) = front ++ a :: back ∧
      (xs.mergeSort fun b c => le (key b) (key c)) = front ++ back ∧
      (∀ b ∈ front, le (key a) (key b) = false) ∧ ∀ b ∈ back, le (key a) (key b) = true := by
  have htrans : ∀ b c d : α, le (key b) (key c) = true → le (key c) (key d) = true →
      le (key b) (key d) = true := fun b c d => Text.le_trans (s := key b) (u := key d)
  have htotal : ∀ b c : α, (le (key b) (key c) || le (key c) (key b)) = true :=
    fun b c => Text.le_total (key b) (key c)
  rcases List.mergeSort_cons htrans htotal a xs with ⟨front, back, hsort, hrest, hfront⟩
  have hsorted := List.pairwise_mergeSort htrans htotal (a :: xs)
  rw [hsort, List.pairwise_append, List.pairwise_cons] at hsorted
  exact ⟨front, back, hsort, hrest, by simpa using hfront, hsorted.2.1.1⟩

/-- Elements with equal keys keep their order, so it does not matter whether some elements are left out
before sorting or afterwards. -/
theorem filter_mergeSort_key (key : α → Text) (keep : α → Bool) (xs : List α) :
    (xs.mergeSort fun b c => le (key b) (key c)).filter keep =
      (xs.filter keep).mergeSort fun b c => le (key b) (key c) := by
  induction xs with
  | nil => simp
  | cons a xs ih =>
      rcases exists_mergeSort_cons key a xs with ⟨front, back, hsort, hrest, hfront, hback⟩
      rw [hrest, List.filter_append] at ih
      by_cases ha : keep a = true
      · -- The element goes between the same two parts, with and without the elements left out.
        rcases exists_mergeSort_cons key a (xs.filter keep) with
          ⟨front', back', hsort', hrest', hfront', hback'⟩
        rcases append_cut_unique (ih.trans hrest') (fun b hb => hfront b (List.mem_of_mem_filter hb))
          (fun b hb => hback b (List.mem_of_mem_filter hb)) hfront' hback' with ⟨rfl, rfl⟩
        rw [hsort, List.filter_append, List.filter_cons_of_pos ha, List.filter_cons_of_pos ha, hsort']
      · rw [hsort, List.filter_append, List.filter_cons_of_neg ha, List.filter_cons_of_neg ha, ih]

end Text

end ImportLint
