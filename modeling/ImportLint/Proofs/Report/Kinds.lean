import ImportLint.Proofs.Tally
import ImportLint.Proofs.Text.Order
import ImportLint.Report.Basic
import Mathlib.Algebra.BigOperators.Group.List.Basic
import Mathlib.Algebra.Ring.Int.Defs

/-!
# Counts by kind

The counts by kind of some diagnostics hold every kind that occurs once, with the number of its
diagnostics, and these numbers add up to the number of all of them.

The tally that is kept while counting has the kinds in the order of their first appearance, and
sorting forgets this order. As no kind stands twice, the sorted counts are strictly increasing, and
there is only one such arrangement of the entries (`eq_countByKind_of_perm`). The counts are therefore
the same for the diagnostics in any other order (`countByKind_exactly`).
-/

namespace ImportLint

variable {diagnostics : List Diagnostic} {kind : Text} {count : Int}

theorem countByKind_perm (diagnostics : List Diagnostic) :
    (countByKind diagnostics).Perm (Tally.ofKeys (diagnostics.map (·.kind))) :=
  List.mergeSort_perm _ _

theorem nodup_keys_countByKind (diagnostics : List Diagnostic) :
    ((countByKind diagnostics).map (·.1)).Nodup := by
  rw [((countByKind_perm diagnostics).map (·.1)).nodup_iff]
  exact Tally.nodup_keys_ofKeys _

theorem mem_keys_countByKind_iff :
    kind ∈ (countByKind diagnostics).map (·.1) ↔ ∃ d ∈ diagnostics, d.kind = kind := by
  rw [((countByKind_perm diagnostics).map (·.1)).mem_iff, Tally.map_fst_ofKeys, List.mem_eraseDups,
    List.mem_map]

/-- The kind occurs as often as there are diagnostics that have it. -/
theorem count_kinds (diagnostics : List Diagnostic) (kind : Text) :
    (diagnostics.map (·.kind)).count kind = diagnostics.countP fun d => d.kind = kind := by
  rw [List.count, List.countP_map]
  apply List.countP_congr
  intro d _
  simp

theorem mem_countByKind_iff :
    (kind, count) ∈ countByKind diagnostics ↔
      0 < count ∧ ((diagnostics.map (·.kind)).count kind : Int) = count := by
  rw [(countByKind_perm diagnostics).mem_iff, Tally.ofKeys_eq]
  simp only [List.mem_map, List.mem_eraseDups, Prod.mk.injEq]
  constructor
  · rintro ⟨key, hkey, rfl, rfl⟩
    have hpos : 0 < (diagnostics.map (·.kind)).count key :=
      List.count_pos_iff.2 (List.mem_map.2 hkey)
    exact ⟨by omega, rfl⟩
  · rintro ⟨hpos, rfl⟩
    have hmem : kind ∈ diagnostics.map (·.kind) := List.count_pos_iff.1 (by omega)
    exact ⟨kind, List.mem_map.1 hmem, rfl, rfl⟩

/-! ## Sums -/

/-- Counting a key raises the sum of all counts by one. -/
theorem Tally.sum_add (key : Text) (tally : Tally) :
    ((Tally.add key tally).map (·.2)).sum = (tally.map (·.2)).sum + 1 := by
  induction tally with
  | nil => rfl
  | cons entry rest ih =>
      rcases entry with ⟨other, count⟩
      by_cases h : other = key
      · simp only [Tally.add, if_pos h, List.map_cons, List.sum_cons]
        omega
      · simp only [Tally.add, if_neg h, List.map_cons, List.sum_cons, ih]
        omega

theorem Tally.sum_ofKeys (keys : List Text) :
    ((Tally.ofKeys keys).map (·.2)).sum = keys.length := by
  induction keys using List.reverseRecOn with
  | nil => rfl
  | append_singleton keys key ih =>
      rw [Tally.ofKeys_concat, Tally.sum_add, ih, List.length_append]
      rfl

theorem sum_countByKind (diagnostics : List Diagnostic) :
    ((countByKind diagnostics).map (·.2)).sum = diagnostics.length := by
  rw [((countByKind_perm diagnostics).map (·.2)).sum_eq, Tally.sum_ofKeys, List.length_map]

/-! ## Order -/

theorem pairwise_countByKind (diagnostics : List Diagnostic) :
    (countByKind diagnostics).Pairwise fun a b => a.1 < b.1 :=
  Text.pairwise_lt_mergeSort (Tally.nodup_keys_ofKeys (diagnostics.map (·.kind)))

/-- The counts are in order already. -/
theorem sorted_countByKind (diagnostics : List Diagnostic) :
    (countByKind diagnostics).sorted = countByKind diagnostics := by
  apply List.mergeSort_of_pairwise
  refine (pairwise_countByKind diagnostics).imp ?_
  intro a b hlt
  exact Text.le_iff.2 (Or.inl hlt)

/-- There is only one way to bring the counts into strictly increasing order. -/
theorem eq_countByKind_of_perm {tally : Tally} (hsorted : tally.Pairwise fun a b => a.1 < b.1)
    (h : tally.Perm (Tally.ofKeys (diagnostics.map (·.kind)))) : tally = countByKind diagnostics := by
  apply Text.eq_of_mem_iff_of_pairwise hsorted (pairwise_countByKind diagnostics)
  intro entry
  rw [h.mem_iff, (countByKind_perm diagnostics).mem_iff]

theorem countByKind_eq_of_perm {other : List Diagnostic} (h : other.Perm diagnostics) :
    countByKind other = countByKind diagnostics := by
  apply eq_countByKind_of_perm (pairwise_countByKind other)
  have hcounts := Tally.ofKeys_perm (h.map (·.kind))
  exact (countByKind_perm other).trans hcounts

/-- Counting by kind is exact and does not see the order of the diagnostics. The kinds are strictly
increasing in code point order, a kind is among them if and only if a diagnostic has it, and its
count is the number of diagnostics that have it. The same diagnostics in another order have the same
counts. -/
theorem countByKind_exactly (diagnostics : List Diagnostic) :
    ((countByKind diagnostics).map (·.1)).Pairwise (· < ·) ∧
      (∀ kind, kind ∈ (countByKind diagnostics).map (·.1) ↔ ∃ d ∈ diagnostics, d.kind = kind) ∧
      (∀ kind count, (kind, count) ∈ countByKind diagnostics →
        count = diagnostics.countP fun d => d.kind = kind) ∧
      ∀ other, other.Perm diagnostics → countByKind other = countByKind diagnostics := by
  refine ⟨List.pairwise_map.2 (pairwise_countByKind diagnostics), ?_, ?_, ?_⟩
  · intro kind
    exact mem_keys_countByKind_iff
  · intro kind count hmem
    have hcount : ((diagnostics.map (·.kind)).count kind : Int) = count :=
      (mem_countByKind_iff.1 hmem).2
    rw [← hcount, count_kinds]
  · intro other hperm
    exact countByKind_eq_of_perm hperm

/-- A kind that another one begins with comes before it, capital letters come before small ones, and
a character beyond the first 65536 code points comes after all of these. -/
theorem countByKind_exactly_reversed :
    let ofKind := fun kind : String => Diagnostic.mk kind.toList [] [] [] []
    let found := ["unused_import", "😀", "unused", "unused_import", "Unused", "\uFFFD", ""].map ofKind
    (found.reverse.Perm found ∧ ("unused_import".toList, 2) ∈ countByKind found.reverse) ∧
      countByKind found = [([], 1), ("Unused".toList, 1), ("unused".toList, 1),
        ("unused_import".toList, 2), ("\uFFFD".toList, 1), ("😀".toList, 1)] ∧
      countByKind found.reverse = countByKind found ∧
      found.reverse.countP (fun d => d.kind = "unused_import".toList) = 2 := by
  intro ofKind found
  have hperm : found.reverse.Perm found := List.reverse_perm found
  have hcounts : countByKind found = [([], 1), ("Unused".toList, 1), ("unused".toList, 1),
      ("unused_import".toList, 2), ("\uFFFD".toList, 1), ("😀".toList, 1)] :=
    (eq_countByKind_of_perm (by decide) (by decide)).symm
  have hsame : countByKind found.reverse = countByKind found :=
    (countByKind_exactly found).2.2.2 found.reverse hperm
  have hmem : ("unused_import".toList, 2) ∈ countByKind found.reverse := by
    rw [hsame, hcounts]
    decide
  have hcount := (countByKind_exactly found.reverse).2.2.1 _ _ hmem
  exact ⟨⟨hperm, hmem⟩, hcounts, hsame, Int.ofNat_inj.1 hcount.symm⟩

end ImportLint
