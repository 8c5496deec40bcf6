import ImportLint.Text.Case
import Mathlib.Data.List.Basic

/-!
# Laws of lower case

Lower-casing leaves nothing to lower-case (`lower_lower`), and a full stop in front of a text changes
nothing in the lower case of the rest (`lower_cons_dot`), since the search for the word around a capital
sigma looks through it.

The first law is a property of the table: the lower-case letter of a capital is no capital itself. It is
not checked letter by letter. A run of capitals lies on one side of the letters of another one, or both
go in steps of two and pass each other by (`CapitalRun.liesOff`), and that is checked for every two runs.
-/

namespace ImportLint

/-! ## The table of capitals -/

namespace CapitalRun

variable {run other : CapitalRun} {n : Nat}

def lowered (run : CapitalRun) (n : Nat) : Nat := (n + run.shift).toNat

def single (c : Char) : CapitalRun := ⟨c.toNat, c.toNat, 1, 0⟩

/-- Whether the first and the last letter of the run show that none of its letters is in the other
run. -/
def liesOff (run other : CapitalRun) : Bool :=
  Nat.blt (run.lowered run.last) other.first || Nat.blt other.last (run.lowered run.first) ||
    ((run.first == run.last || run.stride == 2) && other.stride == 2 &&
      (run.lowered run.first + other.first) % 2 == 1)

theorem lowered_le (h : run.holds n = true) :
    run.lowered run.first ≤ run.lowered n ∧ run.lowered n ≤ run.lowered run.last := by
  simp only [holds, Bool.and_eq_true, decide_eq_true_eq] at h
  unfold lowered
  omega

theorem holds_lowered_eq_false (hoff : run.liesOff other = true) (hpos : 0 < run.lowered run.first)
    (h : run.holds n = true) : other.holds (run.lowered n) = false := by
  have hbounds := lowered_le h
  simp only [liesOff, Bool.or_eq_true, Bool.and_eq_true, beq_iff_eq, Nat.blt_eq] at hoff
  simp only [holds, Bool.and_eq_true, decide_eq_true_eq, beq_iff_eq] at h
  rw [← Bool.not_eq_true]
  simp only [holds, Bool.and_eq_true, decide_eq_true_eq, beq_iff_eq]
  rintro ⟨⟨hfirst, hlast⟩, hstep⟩
  rcases hoff with (hbefore | hbehind) | ⟨⟨hsteps, htwo⟩, hodd⟩
  · omega
  · omega
  · -- The letter is an even number of steps away from the first letter of either run.
    rw [htwo] at hstep
    have heven : (n - run.first) % 2 = 0 := by
      rcases hsteps with hone | htwo
      · omega
      · rw [← htwo]
        exact h.2
    unfold lowered at hpos hodd hbounds hfirst hlast hstep
    omega

/-- No letter of the table is a capital, a full stop or the one capital that is not in the table. -/
theorem liesOff_of_mem (hrun : run ∈ capitalRuns)
    (hother : other ∈ single '.' :: single 'İ' :: capitalRuns) : run.liesOff other = true := by
  have htable : (capitalRuns.all fun run =>
      (single '.' :: single 'İ' :: capitalRuns).all run.liesOff) = true := by
    decide +kernel
  exact List.all_eq_true.1 (List.all_eq_true.1 htable run hrun) other hother

theorem isLetter_of_mem : ∀ run ∈ capitalRuns, 0 < run.lowered run.first ∧
    (run.lowered run.last < 0xD800 ∨
      0xDFFF < run.lowered run.first ∧ run.lowered run.last < 0x110000) := by
  decide +kernel

end CapitalRun

/-! ## Characters -/

variable {c d : Char} {t before ignored : Text}

/-- The lower case of a character is known by itself, by its run in the table, or is the character. -/
theorem lowerChar_cases (c : Char) :
    (c = 'İ' ∧ lowerChar c = ['i', '\u0307']) ∨
      (∃ run ∈ capitalRuns, run.holds c.toNat = true ∧
        lowerChar c = [Char.ofNat (run.lowered c.toNat)]) ∨
      c ≠ 'İ' ∧ (∀ run ∈ capitalRuns, run.holds c.toNat = false) ∧ lowerChar c = [c] := by
  by_cases hc : c = 'İ'
  · exact Or.inl ⟨hc, by rw [lowerChar, if_pos hc]⟩
  · rw [lowerChar, if_neg hc]
    cases hfind : capitalRuns.find? (·.holds c.toNat) with
    | some run =>
        have hholds := List.find?_some hfind
        exact Or.inr (Or.inl ⟨run, List.mem_of_find?_eq_some hfind, hholds, rfl⟩)
    | none =>
        have hnone : ∀ run ∈ capitalRuns, run.holds c.toNat = false := by simpa using hfind
        exact Or.inr (Or.inr ⟨hc, hnone, rfl⟩)

/-- A character that lower-casing keeps wherever it stands. -/
structure IsLower (c : Char) : Prop where
  notSigma : c ≠ 'Σ'
  kept : lowerChar c = [c]

theorem isLower_of_notCapital (hc : c ≠ 'İ') (h : ∀ run ∈ capitalRuns, run.holds c.toNat = false) :
    IsLower c := by
  constructor
  · rintro rfl
    have hsigma : ∃ run ∈ capitalRuns, run.holds 'Σ'.toNat = true := by decide +kernel
    rcases hsigma with ⟨run, hrun, hholds⟩
    rw [h run hrun] at hholds
    cases hholds
  · have hnone : capitalRuns.find? (·.holds c.toNat) = none := by simpa using h
    rw [lowerChar, if_neg hc, hnone]

instance (c : Char) : Decidable (IsLower c) :=
  decidable_of_iff (c ≠ 'Σ' ∧ lowerChar c = [c]) ⟨fun h => ⟨h.1, h.2⟩, fun h => ⟨h.1, h.2⟩⟩

theorem CapitalRun.toNat_ofNat_lowered {run : CapitalRun} {n : Nat} (hrun : run ∈ capitalRuns)
    (h : run.holds n = true) : (Char.ofNat (run.lowered n)).toNat = run.lowered n := by
  have hbounds := run.lowered_le h
  have hletters := CapitalRun.isLetter_of_mem run hrun
  have hvalid : (run.lowered n).isValidChar := by
    simp only [Nat.isValidChar]
    omega
  rw [Char.ofNat, dif_pos hvalid]
  rfl

/-- The letter of a capital is off all that the table is checked against. -/
theorem CapitalRun.holds_letter {run other : CapitalRun} {n : Nat} (hrun : run ∈ capitalRuns)
    (h : run.holds n = true) (hother : other ∈ single '.' :: single 'İ' :: capitalRuns) :
    other.holds (Char.ofNat (run.lowered n)).toNat = false := by
  rw [toNat_ofNat_lowered hrun h]
  exact holds_lowered_eq_false (liesOff_of_mem hrun hother) (isLetter_of_mem run hrun).1 h

theorem CapitalRun.holds_single (c : Char) : (single c).holds c.toNat = true := by
  simp [holds, single]

theorem isLower_of_mem_lowerChar (h : d ∈ lowerChar c) : IsLower d := by
  rcases lowerChar_cases c with ⟨-, heq⟩ | ⟨run, hrun, hholds, heq⟩ | ⟨hne, hnone, heq⟩
  · rw [heq] at h
    have hletter : IsLower 'i' := by decide +kernel
    have hdot : IsLower '\u0307' := by decide +kernel
    exact List.forall_mem_cons.2 ⟨hletter, List.forall_mem_singleton.2 hdot⟩ d h
  · rw [heq, List.mem_singleton] at h
    subst h
    refine isLower_of_notCapital ?_ fun other hother => run.holds_letter hrun hholds (by simp [hother])
    intro hcapital
    have hoff := run.holds_letter hrun hholds (List.mem_cons_of_mem _ List.mem_cons_self)
    rw [hcapital, CapitalRun.holds_single] at hoff
    cases hoff
  · rw [heq, List.mem_singleton] at h
    exact h ▸ isLower_of_notCapital hne hnone

/-- Only the full stop itself becomes a full stop. -/
theorem eq_dot_of_mem_lowerChar (h : '.' ∈ lowerChar c) : c = '.' := by
  rcases lowerChar_cases c with ⟨-, heq⟩ | ⟨run, hrun, hholds, heq⟩ | ⟨-, -, heq⟩
  · rw [heq] at h
    exact absurd h (by decide)
  · rw [heq, List.mem_singleton] at h
    have hoff := run.holds_letter hrun hholds List.mem_cons_self
    rw [← h, CapitalRun.holds_single] at hoff
    cases hoff
  · rw [heq, List.mem_singleton] at h
    exact h.symm

theorem lowerChar_ne_nil (c : Char) : lowerChar c ≠ [] := by
  rcases lowerChar_cases c with ⟨-, heq⟩ | ⟨_, -, -, heq⟩ | ⟨-, -, heq⟩
  · simp [heq]
  · simp [heq]
  · simp [heq]

/-! ## Texts -/

/-- The lower case of a character after some others and before some others. -/
def lowerHere (before : Text) (c : Char) (t : Text) : Text :=
  if c = 'Σ' then (if meetsCased before && !meetsCased t then ['ς'] else ['σ']) else lowerChar c

theorem lowerAfter_cons (before : Text) (c : Char) (t : Text) :
    lowerAfter before (c :: t) = lowerHere before c t ++ lowerAfter (c :: before) t := rfl

/-- A small sigma of either kind is in lower case. -/
theorem isLower_sigma : IsLower 'ς' ∧ IsLower 'σ' := by decide +kernel

theorem isLower_of_mem_lowerHere (h : d ∈ lowerHere before c t) : IsLower d := by
  rw [lowerHere] at h
  split at h
  · split at h
    · exact List.mem_singleton.1 h ▸ isLower_sigma.1
    · exact List.mem_singleton.1 h ▸ isLower_sigma.2
  · exact isLower_of_mem_lowerChar h

theorem eq_dot_of_mem_lowerHere (h : '.' ∈ lowerHere before c t) : c = '.' := by
  rw [lowerHere] at h
  split at h
  · split at h
    · exact absurd h (by decide)
    · exact absurd h (by decide)
  · exact eq_dot_of_mem_lowerChar h

theorem lowerHere_ne_nil (before : Text) (c : Char) (t : Text) : lowerHere before c t ≠ [] := by
  rw [lowerHere]
  split
  · split
    · exact List.cons_ne_nil _ _
    · exact List.cons_ne_nil _ _
  · exact lowerChar_ne_nil c

theorem IsLower.lowerHere_eq (h : IsLower c) (before t : Text) : lowerHere before c t = [c] := by
  rw [lowerHere, if_neg h.notSigma, h.kept]

namespace Text

theorem isLower_of_mem_lowerAfter : ∀ c ∈ lowerAfter before t, IsLower c := by
  induction t generalizing before with
  | nil => exact fun c hc => absurd hc List.not_mem_nil
  | cons c t ih =>
      intro d hd
      rcases List.mem_append.1 hd with hhere | hlater
      · exact isLower_of_mem_lowerHere hhere
      · exact ih d hlater

theorem lowerAfter_of_isLower (h : ∀ c ∈ t, IsLower c) : lowerAfter before t = t := by
  induction t generalizing before with
  | nil => rfl
  | cons c t ih =>
      have hrest : ∀ x ∈ t, IsLower x := fun x hx => h x (List.mem_cons_of_mem c hx)
      rw [lowerAfter_cons, (h c List.mem_cons_self).lowerHere_eq, ih hrest]
      rfl

/-- A text in lower case is its own lower case. -/
theorem lower_lower (t : Text) : lower (lower t) = lower t :=
  lowerAfter_of_isLower isLower_of_mem_lowerAfter

/-- What is looked through stands as if it were not there, as long as nothing is in front of it. -/
theorem lowerAfter_append_ignored (h : ∀ c ∈ ignored, caseIgnorableRanges.holds c = true) :
    lowerAfter (before ++ ignored) t = lowerAfter before t := by
  induction t generalizing before with
  | nil => rfl
  | cons c t ih =>
      -- The search for a letter before a sigma goes back through what is to be ignored.
      have hnone : ignored.find? (fun x => !caseIgnorableRanges.holds x) = none := by
        simpa using h
      have hmeets : meetsCased (before ++ ignored) = meetsCased before := by
        rw [meetsCased, meetsCased, List.find?_append, hnone, Option.or_none]
      have hlater : lowerAfter (c :: before ++ ignored) t = lowerAfter (c :: before) t := ih
      rw [List.cons_append] at hlater
      rw [lowerAfter_cons, lowerAfter_cons, lowerHere, hmeets, ← lowerHere, hlater]

/-- A full stop in front of a text stays, and changes nothing behind it. -/
theorem lower_cons_dot (t : Text) : lower ('.' :: t) = '.' :: lower t := by
  have hignored : ∀ c ∈ ['.'], caseIgnorableRanges.holds c = true :=
    List.forall_mem_singleton.2 (by decide +kernel)
  have hdot : lowerHere [] '.' t = ['.'] := (by decide +kernel : IsLower '.').lowerHere_eq [] t
  have hnothing : lowerAfter ([] ++ ['.']) t = lowerAfter [] t := lowerAfter_append_ignored hignored
  rw [lower, lowerAfter_cons, hdot]
  exact congrArg ('.' :: ·) hnothing

theorem head?_lower_eq_dot_iff : (lower t).head? = some '.' ↔ t.head? = some '.' := by
  cases t with
  | nil => exact Iff.rfl
  | cons c t =>
      rw [List.head?_cons, Option.some_inj]
      constructor
      · intro h
        rw [lower, lowerAfter_cons, List.head?_append_of_ne_nil _ (lowerHere_ne_nil [] c t)] at h
        exact eq_dot_of_mem_lowerHere (List.mem_of_head? h)
      · rintro rfl
        rw [lower_cons_dot, List.head?_cons]

end Text

end ImportLint
