import ImportLint.Tally
import Mathlib.Data.List.Count
import Mathlib.Data.List.Induction
import Mathlib.Data.List.Nodup
import Mathlib.Data.List.Perm.Basic

/-!
# Order of first appearance and counts

`List.eraseDups` keeps the first of equal elements. The first part says what that means for the
order: elements stand in the order of their first places in the list. The second part describes a
tally by the list of keys that were counted into it: its keys are those of the list, each once and
in the order of first appearance, and each with the number of its occurrences.
-/

namespace ImportLint

/-! ## First appearances -/

section FirstAppearance

variable {α : Type} [BEq α] [LawfulBEq α] {xs ys : List α} {a : α}

theorem eraseDups_concat_of_mem (h : a ∈ xs) : (xs ++ [a]).eraseDups = xs.eraseDups := by
  simp [List.eraseDups_append, List.removeAll, h]

theorem eraseDups_concat_of_notMem (h : a ∉ xs) :
    (xs ++ [a]).eraseDups = xs.eraseDups ++ [a] := by
  simp [List.eraseDups_append, List.removeAll, h, List.eraseDups_cons]

/-- What comes first in the list comes first among the elements kept. -/
theorem pairwise_idxOf_eraseDups (xs : List α) :
    xs.eraseDups.Pairwise fun a b => xs.idxOf a < xs.idxOf b := by
  induction xs using List.reverseRecOn with
  | nil => simp
  | append_singleton xs a ih =>
      have hkept : xs.eraseDups.Pairwise fun b c => (xs ++ [a]).idxOf b < (xs ++ [a]).idxOf c := by
        refine ih.imp_of_mem ?_
        intro b c hb hc hlt
        rwa [List.idxOf_append_of_mem (List.mem_eraseDups.1 hb),
          List.idxOf_append_of_mem (List.mem_eraseDups.1 hc)]
      by_cases ha : a ∈ xs
      · rwa [eraseDups_concat_of_mem ha]
      · rw [eraseDups_concat_of_notMem ha]
        -- A new element comes after all the others, here and there.
        refine List.pairwise_append.2 ⟨hkept, List.pairwise_singleton _ a, ?_⟩
        intro b hb c hc
        have hb : b ∈ xs := List.mem_eraseDups.1 hb
        rw [List.mem_singleton.1 hc, List.idxOf_append_of_mem hb, List.idxOf_append_of_notMem ha]
        exact Nat.lt_add_right _ (List.idxOf_lt_length_of_mem hb)

/-- Of two values that a list yields, the one that comes first is yielded by an earlier element. -/
theorem findIdx_lt_of_idxOf_filterMap_lt {β : Type} {f : β → Option α} {zs : List β} {a b : α} :
    (zs.filterMap f).idxOf a < (zs.filterMap f).idxOf b → a ∈ zs.filterMap f →
      zs.findIdx (fun z => f z == some a) < zs.findIdx fun z => f z == some b := by
  induction zs with
  | nil =>
      intro hlt _
      exact absurd hlt (Nat.lt_irrefl _)
  | cons z zs ih =>
      intro hlt hmem
      cases hz : f z with
      | none =>
          have hnone : ∀ c, (f z == some c) = false := by simp [hz]
          rw [List.filterMap_cons_none hz] at hlt hmem
          simp only [List.findIdx_cons, hnone, cond_false]
          exact Nat.succ_lt_succ (ih hlt hmem)
      | some c =>
          rw [List.filterMap_cons_some hz] at hlt hmem
          by_cases hb : c = b
          · -- Nothing comes before what the first element yields.
            simp [hb] at hlt
          · have hnotB : (f z == some b) = false := by simp [hz, hb]
            by_cases ha : c = a
            · have hisA : (f z == some a) = true := by simp [hz, ha]
              simp only [List.findIdx_cons, hisA, hnotB, cond_true, cond_false]
              exact Nat.succ_pos _
            · have hnotA : (f z == some a) = false := by simp [hz, ha]
              have hrest : a ∈ zs.filterMap f := by simpa [Ne.symm ha] using hmem
              rw [List.idxOf_cons_ne _ ha, List.idxOf_cons_ne _ hb] at hlt
              simp only [List.findIdx_cons, hnotA, hnotB, cond_false]
              exact Nat.succ_lt_succ (ih (Nat.lt_of_succ_lt_succ hlt) hrest)

theorem nodup_eraseDups (xs : List α) : xs.eraseDups.Nodup := by
  refine (pairwise_idxOf_eraseDups xs).imp ?_
  rintro a b hlt rfl
  exact Nat.lt_irrefl _ hlt

theorem filter_eraseDups (p : α → Bool) (xs : List α) :
    (xs.filter p).eraseDups = xs.eraseDups.filter p := by
  induction xs using List.reverseRecOn with
  | nil => rfl
  | append_singleton xs a ih =>
      rw [List.filter_append, List.filter_singleton]
      by_cases hp : p a = true
      · by_cases ha : a ∈ xs
        · have hkept : a ∈ xs.filter p := List.mem_filter.2 ⟨ha, hp⟩
          simp [hp, eraseDups_concat_of_mem ha, eraseDups_concat_of_mem hkept, ih]
        · have hkept : a ∉ xs.filter p := fun h => ha (List.mem_of_mem_filter h)
          simp [hp, eraseDups_concat_of_notMem ha, eraseDups_concat_of_notMem hkept, ih]
      · by_cases ha : a ∈ xs
        · simp [hp, eraseDups_concat_of_mem ha, ih]
        · simp [hp, eraseDups_concat_of_notMem ha, ih]

theorem eraseDups_perm (h : xs.Perm ys) : xs.eraseDups.Perm ys.eraseDups := by
  refine (List.perm_ext_iff_of_nodup (nodup_eraseDups xs) (nodup_eraseDups ys)).2 ?_
  intro a
  rw [List.mem_eraseDups, List.mem_eraseDups, h.mem_iff]

end FirstAppearance

/-! ## Counts -/

namespace Tally

variable {tally : Tally} {keys : List Text} {key : Text}

theorem ofKeys_concat (keys : List Text) (key : Text) :
    ofKeys (keys ++ [key]) = add key (ofKeys keys) := by
  simp [ofKeys]

/-- The keys of a tally are those that were counted, in the order of first appearance. -/
theorem map_fst_ofKeys (keys : List Text) : (ofKeys keys).map (·.1) = keys.eraseDups := by
  induction keys using List.reverseRecOn with
  | nil => rfl
  | append_singleton keys key ih =>
      rw [ofKeys_concat, map_fst_add, ih]
      by_cases h : key ∈ keys
      · simp [h, eraseDups_concat_of_mem h]
      · simp [h, eraseDups_concat_of_notMem h]

theorem get_ofKeys (keys : List Text) (key : Text) : (ofKeys keys).get key = keys.count key := by
  induction keys using List.reverseRecOn with
  | nil => rfl
  | append_singleton keys new ih =>
      rw [ofKeys_concat, get_add, ih, List.count_append, List.count_singleton]
      by_cases h : key = new
      · simp [h]
      · simp [h, Ne.symm h]

theorem get_of_mem {count : Int} (hkeys : (tally.map (·.1)).Nodup) (h : (key, count) ∈ tally) :
    tally.get key = count := by
  induction tally with
  | nil => exact absurd h List.not_mem_nil
  | cons first rest ih =>
      rcases first with ⟨k, n⟩
      rw [List.map_cons, List.nodup_cons] at hkeys
      rcases List.mem_cons.1 h with heq | h
      · rcases Prod.mk.inj heq with ⟨rfl, rfl⟩
        simp [get]
      · have hmem : key ∈ rest.map (·.1) := List.mem_map.2 ⟨(key, count), h, rfl⟩
        have hne : key ≠ k := fun heq => hkeys.1 (heq ▸ hmem)
        have hb : (key == k) = false := beq_false_of_ne hne
        simpa [get, List.lookup_cons, hb] using ih hkeys.2 h

theorem nodup_keys_ofKeys (keys : List Text) : ((ofKeys keys).map (·.1)).Nodup := by
  rw [map_fst_ofKeys]
  exact nodup_eraseDups keys

/-- Counting keys gives each of them, at its first place, with the number of its occurrences. -/
theorem ofKeys_eq (keys : List Text) :
    ofKeys keys = keys.eraseDups.map fun key => (key, (keys.count key : Int)) := by
  -- As no key stands twice, an entry is known by its key.
  have hnodup := nodup_keys_ofKeys keys
  have hentry : ∀ entry ∈ ofKeys keys, (entry.1, (keys.count entry.1 : Int)) = entry := by
    intro entry h
    rw [← get_ofKeys, get_of_mem hnodup h]
  calc
    ofKeys keys = (ofKeys keys).map fun entry => (entry.1, (keys.count entry.1 : Int)) := by
          rw [List.map_congr_left hentry, List.map_id']
    _ = ((ofKeys keys).map (·.1)).map fun key => (key, (keys.count key : Int)) := by
          rw [List.map_map]
          rfl
    _ = keys.eraseDups.map fun key => (key, (keys.count key : Int)) := by rw [map_fst_ofKeys]

theorem mem_repeated_ofKeys {count : Int} :
    (key, count) ∈ (ofKeys keys).repeated ↔ (keys.count key : Int) = count ∧ 1 < count := by
  have hmem : (key, count) ∈ ofKeys keys ↔ key ∈ keys ∧ (keys.count key : Int) = count := by
    simp [ofKeys_eq]
  simp only [repeated, List.mem_filter, hmem, decide_eq_true_eq]
  constructor
  · rintro ⟨⟨_, hcount⟩, hmany⟩
    exact ⟨hcount, hmany⟩
  · rintro ⟨hcount, hmany⟩
    have hpos : 0 < keys.count key := by omega
    exact ⟨⟨List.count_pos_iff.1 hpos, hcount⟩, hmany⟩

/-- The counts do not depend on the order of the keys, only the places of the entries do. -/
theorem ofKeys_perm {keys' : List Text} (h : keys.Perm keys') : (ofKeys keys).Perm (ofKeys keys') := by
  have hcount : (fun key => (key, (keys.count key : Int))) =
      fun key => (key, (keys'.count key : Int)) := by
    funext key
    rw [h.count_eq]
  rw [ofKeys_eq, ofKeys_eq, hcount]
  exact (eraseDups_perm h).map _

theorem repeated_perm {keys' : List Text} (h : keys.Perm keys') :
    (ofKeys keys).repeated.Perm (ofKeys keys').repeated :=
  (ofKeys_perm h).filter _

end Tally

end ImportLint
