import ImportLint.Import.Clause
import ImportLint.Proofs.Text.Fields

/-!
# Members of a clause

The imports of a clause are described by where they stand in it (`mem_members_iff`). What a group
lists stands between its first opening brace and a closing one at its end (`groupMembers_braced`). A
group that is written with its members one after the other, commas between them and blanks wherever
they can stand, is therefore read back as it was written (`members_writtenGroup`).
-/

namespace ImportLint

namespace Import

open Text

variable {clause front : Text}

/-! ## Members -/

theorem isGroup_iff : isGroup clause = true ↔ '{' ∈ clause := by
  simp [isGroup]

theorem members_single (h : '{' ∉ clause) : members clause = [clause] := by
  simp [members, isGroup, h]

/-- A group lists what stands behind its first opening brace. -/
theorem groupMembers_eq (hfront : '{' ∉ front) (body : Text) :
    groupMembers (front ++ '{' :: body) = items (dropClosing (trim body)) := by
  rw [groupMembers, dropWhile_append_mark hfront, List.drop_one, List.tail_cons]

/-- An import of a clause: the clause itself, or, if it has an opening brace, an item of the list
that the first one opens. The list is trimmed, and a closing brace at its end is no part of it. -/
def IsMember (member clause : Text) : Prop :=
  ('{' ∉ clause ∧ member = clause) ∨
    ∃ front body, clause = front ++ '{' :: body ∧ '{' ∉ front ∧
      IsItem member (dropClosing (trim body))

theorem mem_members_iff {member : Text} : member ∈ members clause ↔ IsMember member clause := by
  by_cases hgroup : '{' ∈ clause
  · obtain ⟨front, body, rfl, hfront⟩ := List.eq_append_cons_of_mem hgroup
    have hread : members (front ++ '{' :: body) = items (dropClosing (trim body)) := by
      rw [members, if_pos (isGroup_iff.2 hgroup), groupMembers_eq hfront]
    rw [hread, mem_items_iff]
    constructor
    · intro h
      exact Or.inr ⟨front, body, rfl, hfront, h⟩
    · -- The first opening brace stands in one place only.
      rintro (⟨hno, -⟩ | ⟨front', body', heq, hfront', h⟩)
      · exact absurd hgroup hno
      · have hopen := congrArg (List.dropWhile (· ≠ '{')) heq
        rw [dropWhile_append_mark hfront, dropWhile_append_mark hfront'] at hopen
        exact (List.cons.inj hopen).2 ▸ h
  · rw [members_single hgroup, List.mem_singleton]
    constructor
    · intro h
      exact Or.inl ⟨hgroup, h⟩
    · rintro (⟨-, h⟩ | ⟨front, body, rfl, -, -⟩)
      · exact h
      · exact absurd (List.mem_append_right front List.mem_cons_self) hgroup

theorem dropClosing_sublist (t : Text) : (dropClosing t).Sublist t := by
  unfold dropClosing
  split
  · exact (trimRight_sublist t.dropLast).trans (List.dropLast_sublist t)
  · exact List.Sublist.refl t

theorem IsMember.subset {member : Text} (h : IsMember member clause) : member ⊆ clause := by
  rcases h with ⟨-, rfl⟩ | ⟨front, body, rfl, -, hitem⟩
  · exact List.Subset.refl member
  · have hlist : dropClosing (trim body) ⊆ body :=
      ((dropClosing_sublist (trim body)).trans (trim_sublist body)).subset
    intro c hc
    exact List.mem_append_right front (List.mem_cons_of_mem '{' (hlist (hitem.subset hc)))

/-! ## Groups as they are written -/

theorem dropClosing_concat (t : Text) : dropClosing (t ++ ['}']) = trimRight t := by
  simp [dropClosing]

/-- The members of a group are the items between its braces. -/
theorem groupMembers_braced (hfront : '{' ∉ front) (inner : Text) {rest : Text}
    (hrest : ∀ c ∈ rest, isBlank c = true) :
    groupMembers (front ++ '{' :: (inner ++ '}' :: rest)) = items (trim inner) := by
  -- The closing brace is not blank: trimming stops there and takes off what follows it.
  have htrim : trim (inner ++ '}' :: rest) = trimLeft inner ++ ['}'] := by
    rw [trim, trimLeft_append_cons (by decide), trimRight_append_cons (by decide),
      trimRight_eq_nil hrest]
  rw [groupMembers_eq hfront, htrim, dropClosing_concat, trim]

/-- A group in any layout: each member behind blanks of its own, and more blanks before and behind
the closing brace. -/
def writtenGroup (front : Text) (fields : List (Text × Text)) (inside behind : Text) : Text :=
  front ++ '{' :: (written fields ++ inside ++ '}' :: behind)

theorem isGroup_writtenGroup (front : Text) (fields : List (Text × Text)) (inside behind : Text) :
    isGroup (writtenGroup front fields inside behind) = true := by
  simp [isGroup_iff, writtenGroup]

/-- A group is read back as it was written, empty members included. -/
theorem members_writtenGroup {fields : List (Text × Text)} {inside behind : Text}
    (hfront : '{' ∉ front) (hne : fields ≠ [])
    (hfields : ∀ field ∈ fields, IsField field ∧ Trimmed field.2)
    (hinside : ∀ c ∈ inside, isBlank c = true) (hbehind : ∀ c ∈ behind, isBlank c = true) :
    members (writtenGroup front fields inside behind) = fields.map (·.2) := by
  have hread := groupMembers_braced hfront (written fields ++ inside) hbehind
  rw [members, if_pos (isGroup_writtenGroup front fields inside behind), writtenGroup, hread,
    trim_append_blank hinside, items_trim_written hne hfields]

/-- Reading inverts writing for groups: a group in any layout imports the members it was written
with, in order and empty ones included, and counts for no prefix. -/
theorem writtenGroup_read_back {fields : List (Text × Text)} {inside behind : Text}
    (hfront : '{' ∉ front) (hne : fields ≠ [])
    (hfields : ∀ field ∈ fields, IsField field ∧ Trimmed field.2)
    (hinside : ∀ c ∈ inside, isBlank c = true) (hbehind : ∀ c ∈ behind, isBlank c = true) :
    names [writtenGroup front fields inside behind] = fields.map (·.2) ∧
      prefixCounts [writtenGroup front fields inside behind] = [] := by
  constructor
  · rw [names, List.flatMap_singleton, members_writtenGroup hfront hne hfields hinside hbehind]
  · have hnone : prefixOf? (writtenGroup front fields inside behind) = none := by
      rw [prefixOf?, if_pos (isGroup_writtenGroup front fields inside behind)]
    rw [prefixCounts, List.filterMap_cons_none hnone]
    rfl

/-- A group over several lines with an alias, a member that ends in a brace, and empty members at
the start, in the middle and at the end. -/
theorem writtenGroup_read_back_empty_members :
    let fields := [("\n\t".toList, []), (" ".toList, "C as D".toList), ([], []),
      ("\u2003 ".toList, "E\\F\x7d".toList), ("  ".toList, [])]
    let clause := writtenGroup "A\\B\\".toList fields "\n".toList " \t".toList
    clause = "A\\B\\\x7b\n\t, C as D,,\u2003 E\\F\x7d,  \n\x7d \t".toList ∧
      names [clause] = [[], "C as D".toList, [], "E\\F\x7d".toList, []] ∧
      prefixCounts [clause] = [] := by
  intro fields clause
  refine ⟨by decide, ?_⟩
  exact writtenGroup_read_back (by decide) (by decide) (by decide)
    (List.all_eq_true.1 (by decide)) (List.all_eq_true.1 (by decide))

/-! ## Groups with a space behind each comma -/

def groupClause (front : Text) (ms : List Text) : Text :=
  front ++ '\\' :: '{' :: (join ", ".toList ms ++ ['}'])

theorem join_eq_written (m : Text) (ms : List Text) :
    join ", ".toList (m :: ms) = written (([], m) :: ms.map fun member => ([' '], member)) := by
  induction ms generalizing m with
  | nil => rfl
  | cons next ms ih => simpa [join, written] using ih next

theorem isGroup_groupClause (front : Text) (ms : List Text) :
    isGroup (groupClause front ms) = true := by
  simp [isGroup_iff, groupClause]

theorem members_groupClause {ms : List Text} (hfront : '{' ∉ front) (hne : ms ≠ [])
    (h : ∀ member ∈ ms, ',' ∉ member ∧ Trimmed member) : members (groupClause front ms) = ms := by
  rcases ms with _ | ⟨m, ms⟩
  · exact absurd rfl hne
  have hopen : '{' ∉ front ++ ['\\'] := by simpa using hfront
  have hclause : groupClause front (m :: ms) =
      writtenGroup (front ++ ['\\']) (([], m) :: ms.map fun member => ([' '], member)) [] [] := by
    rw [groupClause, join_eq_written]
    simp [writtenGroup]
  have hnone : ∀ c ∈ ([] : Text), isBlank c = true := fun c hc => absurd hc List.not_mem_nil
  have hspace : ∀ c ∈ [' '], isBlank c = true := List.forall_mem_singleton.2 rfl
  have hfields : ∀ field ∈ ([], m) :: ms.map fun member => ([' '], member),
      IsField field ∧ Trimmed field.2 := by
    intro field hfield
    rcases List.mem_cons.1 hfield with rfl | hfield
    · rcases h m List.mem_cons_self with ⟨hcomma, htrimmed⟩
      exact ⟨⟨hnone, hcomma, htrimmed.1⟩, htrimmed⟩
    · rcases List.mem_map.1 hfield with ⟨member, hmem, rfl⟩
      rcases h member (List.mem_cons_of_mem m hmem) with ⟨hcomma, htrimmed⟩
      exact ⟨⟨hspace, hcomma, htrimmed.1⟩, htrimmed⟩
  rw [hclause, members_writtenGroup hopen (List.cons_ne_nil _ _) hfields hnone hnone]
  simp [Function.comp_def]

end Import

end ImportLint
