import ImportLint.Text.Basic

/-!
# Tallies

A tally holds one count for each key and keeps the keys in the order in which they first came.
Counts are integers, because a tally may also be read from a report that was made elsewhere.
-/

namespace ImportLint

/-- Counts by key, in the order of the keys' first appearance. -/
abbrev Tally := List (Text × Int)

namespace Tally

/-- Counts `key` once more; a new key goes to the end. -/
def add (key : Text) : Tally → Tally
  | [] => [(key, 1)]
  | (k, n) :: rest => if k = key then (k, n + 1) :: rest else (k, n) :: add key rest

/-- The count of a key, which is zero for a key that was never counted. -/
def get (tally : Tally) (key : Text) : Int := (tally.lookup key).getD 0

/-- Counting a key raises its count by one and leaves all others alone. -/
theorem get_add (key other : Text) (tally : Tally) :
    (add key tally).get other = tally.get other + if other = key then 1 else 0 := by
  induction tally with
  | nil =>
    by_cases h : other = key
    · simp [add, get, h]
    · have hb : (other == key) = false := beq_false_of_ne h
      simp [add, get, h, List.lookup_cons, hb]
  | cons entry rest ih =>
    obtain ⟨k, n⟩ := entry
    by_cases hk : k = key
    · subst hk
      by_cases h : other = k
      · simp [add, get, h]
      · have hb : (other == k) = false := beq_false_of_ne h
        simp [add, get, h, List.lookup_cons, hb]
    · by_cases h : other = k
      · subst h
        simp [add, get, hk]
      · have hb : (other == k) = false := beq_false_of_ne h
        simpa [add, get, hk, List.lookup_cons, hb] using ih

/-- Counting a key keeps the order of the keys, and a new key comes last. -/
theorem map_fst_add (key : Text) (tally : Tally) :
    (add key tally).map (·.1) =
      if key ∈ tally.map (·.1) then tally.map (·.1) else tally.map (·.1) ++ [key] := by
  induction tally with
  | nil => simp [add]
  | cons entry rest ih =>
    obtain ⟨k, n⟩ := entry
    by_cases hk : k = key
    · simp [add, hk]
    · have hk' : key ≠ k := Ne.symm hk
      by_cases hm : key ∈ rest.map (·.1)
      · have ih := ih.trans (if_pos hm)
        simp only [add, if_neg hk, List.map_cons, ih]
        exact (if_pos (List.mem_cons_of_mem _ hm)).symm
      · have ih := ih.trans (if_neg hm)
        simp only [add, if_neg hk, List.map_cons, ih]
        exact (if_neg (fun h => (List.mem_cons.1 h).elim hk' hm)).symm

def ofKeys (keys : List Text) : Tally := keys.foldl (fun tally key => add key tally) []

def repeated (tally : Tally) : Tally := tally.filter fun entry => decide (1 < entry.2)

def sorted (tally : Tally) : Tally := tally.mergeSort fun a b => Text.le a.1 b.1

end Tally

end ImportLint
