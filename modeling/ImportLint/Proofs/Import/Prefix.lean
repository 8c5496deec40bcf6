import ImportLint.Proofs.Import.Group

/-!
# Prefixes of single imports

A prefix is the text of a single import before its second backslash, or all of it if there is only
one. It has therefore exactly one backslash, and that together with where it ends tells which text
it is: `prefixOf?_eq_some_iff`.
-/

namespace ImportLint

namespace Import

open Text

variable {clause p : Text}

/-- A clause without braces has a prefix: a text with one backslash with which it starts, and which
either is the whole clause or is followed by the next backslash. -/
def HasPrefix (clause p : Text) : Prop :=
  '{' ∉ clause ∧ p.count '\\' = 1 ∧ (clause = p ∨ p ++ ['\\'] <+: clause)

instance (clause p : Text) : Decidable (HasPrefix clause p) :=
  inferInstanceAs
    (Decidable ('{' ∉ clause ∧ p.count '\\' = 1 ∧ (clause = p ∨ p ++ ['\\'] <+: clause)))

theorem prefixOf?_segments {first second right : Text}
    (hbrace : '{' ∉ first ++ '\\' :: (second ++ right)) (hfirst : '\\' ∉ first)
    (hsecond : '\\' ∉ second) (hright : right = [] ∨ ∃ rest, right = '\\' :: rest) :
    prefixOf? (first ++ '\\' :: (second ++ right)) = some (first ++ '\\' :: second) := by
  have hsingle : isGroup (first ++ '\\' :: (second ++ right)) = false :=
    Bool.eq_false_iff.2 fun h => hbrace (isGroup_iff.1 h)
  rcases exists_splitOn_append hsecond hright with ⟨more, hmore⟩
  have hcut : (first ++ '\\' :: (second ++ right)).splitOn '\\' = first :: second :: more := by
    rw [List.splitOn_append_cons_self_of_not_mem hfirst, hmore]
  simp [prefixOf?, hsingle, hcut]

theorem exists_segments_of_count (h : p.count '\\' = 1) :
    ∃ first second, p = first ++ '\\' :: second ∧ '\\' ∉ first ∧ '\\' ∉ second := by
  have hmem : '\\' ∈ p := List.count_pos_iff.1 (by omega)
  rcases List.eq_append_cons_of_mem hmem with ⟨first, second, rfl, hfirst⟩
  refine ⟨first, second, rfl, hfirst, ?_⟩
  intro hsecond
  have hmore : 0 < second.count '\\' := List.count_pos_iff.2 hsecond
  simp only [List.count_append, List.count_cons_self] at h
  omega

theorem prefixOf?_of_hasPrefix (h : HasPrefix clause p) : prefixOf? clause = some p := by
  rcases h with ⟨hbrace, hcount, hend⟩
  rcases exists_segments_of_count hcount with ⟨first, second, rfl, hfirst, hsecond⟩
  rcases hend with rfl | ⟨rest, rfl⟩
  · simpa using prefixOf?_segments (by simpa using hbrace) hfirst hsecond (Or.inl rfl)
  · have hwhole : first ++ '\\' :: second ++ ['\\'] ++ rest =
        first ++ '\\' :: (second ++ '\\' :: rest) := by simp
    rw [hwhole] at hbrace ⊢
    exact prefixOf?_segments hbrace hfirst hsecond (Or.inr ⟨rest, rfl⟩)

theorem hasPrefix_of_prefixOf? (h : prefixOf? clause = some p) : HasPrefix clause p := by
  have hbrace : '{' ∉ clause := by
    intro hgroup
    simp [prefixOf?, isGroup_iff.2 hgroup] at h
  by_cases hmem : '\\' ∈ clause
  · rcases List.eq_append_cons_of_mem hmem with ⟨first, rest, rfl, hfirst⟩
    -- The second segment ends at the next backslash, or with the clause.
    by_cases hnext : '\\' ∈ rest
    · rcases List.eq_append_cons_of_mem hnext with ⟨second, behind, rfl, hsecond⟩
      have hp := prefixOf?_segments hbrace hfirst hsecond (Or.inr ⟨behind, rfl⟩)
      cases hp.symm.trans h
      refine ⟨hbrace, ?_, Or.inr ⟨behind, by simp⟩⟩
      simp [List.count_eq_zero_of_not_mem hfirst, List.count_eq_zero_of_not_mem hsecond]
    · have hp := prefixOf?_segments (by simpa using hbrace) hfirst hnext (Or.inl rfl)
      rw [List.append_nil] at hp
      cases hp.symm.trans h
      refine ⟨hbrace, ?_, Or.inl rfl⟩
      simp [List.count_eq_zero_of_not_mem hfirst, List.count_eq_zero_of_not_mem hnext]
  · -- A clause of one segment has no prefix.
    simp [prefixOf?, List.splitOn_eq_singleton hmem] at h

theorem prefixOf?_eq_some_iff : prefixOf? clause = some p ↔ HasPrefix clause p :=
  ⟨hasPrefix_of_prefixOf?, prefixOf?_of_hasPrefix⟩

theorem HasPrefix.backslash_mem (h : HasPrefix clause p) : '\\' ∈ clause := by
  rcases h with ⟨-, hcount, hend⟩
  have hmem : '\\' ∈ p := List.count_pos_iff.1 (by omega)
  rcases hend with rfl | ⟨rest, rfl⟩
  · exact hmem
  · simp

end Import

end ImportLint
