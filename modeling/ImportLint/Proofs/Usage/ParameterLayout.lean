import ImportLint.Proofs.Usage.ParameterTypes

/-!
# Parameter types in any layout

A function head is written with its parameters one after the other, commas between them, and any
blanks in front of each: on one line, or each on a line of its own. Behind a comma the blanks belong
to the separator, so they hide no type. In front of the first parameter there is no comma, and there
blanks do hide it: a type that only the first parameter has is found just if none stand there
(`hinted_type_found_iff`).
-/

namespace ImportLint

namespace Usage

open Text

variable {name word : Text} {fields : List (Text × Text)}

/-- The head of a function, where a field is a parameter with the blanks in front of it. -/
def functionHead (word : Text) (fields : List (Text × Text)) : Text :=
  "function ".toList ++ word ++ '(' :: (written fields ++ [')'])

theorem parameterLists_functionHead (hword : ∀ c ∈ word, isWord c = true)
    (hclosing : ')' ∉ written fields) :
    parameterLists (functionHead word fields) = [written fields] := by
  have hopens : OpensAt ("function ".toList ++ word ++ '(' :: written fields) [] (written fields) :=
    ⟨word, hword, rfl⟩
  have hlist : parameters? ("function ".toList ++ word ++ '(' :: written fields) =
      some (written fields) :=
    parameters?_eq_some_iff.2 ⟨[], hopens, fun _ _ _ => Nat.zero_le _⟩
  have hhead : functionHead word fields =
      ("function ".toList ++ word ++ '(' :: written fields) ++ ')' :: [] :=
    (List.append_assoc ("function ".toList ++ word) ('(' :: written fields) [')']).symm
  rw [hhead, parameterLists_cons (closing_notMem_opening hword hclosing), hlist]
  rfl

/-- The first parameter is read with the blanks in front of it, and all others without. -/
theorem parameterType_functionHead_iff {first : Text × Text} {more : List (Text × Text)}
    (hword : ∀ c ∈ word, isWord c = true)
    (hfields : ∀ field ∈ first :: more, IsField field ∧ ')' ∉ field.2) :
    holds name (functionHead word (first :: more)) parameterType = true ↔
      name <+: first.1 ++ first.2 ∨ ∃ field ∈ more, name <+: field.2 := by
  have hclosing : ')' ∉ written (first :: more) := notMem_written (by decide) (by decide) hfields
  have hitems := items_written fun field hfield => (hfields field hfield).1
  simp [holds, parameterLists_functionHead hword hclosing, isListed, hitems]

/-- If a parameter starts with a name, the name is found as its type just if no blanks stand in front
of the first parameter or a later one starts with the name. -/
theorem hinted_type_found_iff {blanks first : Text} {more : List (Text × Text)} (hne : name ≠ [])
    (hword : ∀ c ∈ word, isWord c = true)
    (hfields : ∀ field ∈ (blanks, first) :: more, IsField field ∧ ')' ∉ field.2)
    (hhint : ∃ field ∈ (blanks, first) :: more, name <+: field.2) :
    holds name (functionHead word ((blanks, first) :: more)) parameterType = true ↔
      blanks = [] ∨ ∃ field ∈ more, name <+: field.2 := by
  rw [parameterType_functionHead_iff hword hfields]
  rcases name with _ | ⟨c, name⟩
  · exact absurd rfl hne
  -- Some parameter starts with the name, and no parameter starts with a blank.
  have hc : isBlank c = false := by
    rcases hhint with ⟨field, hfield, behind, hitem⟩
    exact (hfields field hfield).1.2.2 c (by rw [← hitem]; rfl)
  constructor
  · rintro (hfirst | hlater)
    · left
      -- A blank at the front would have to be the first letter of the name.
      cases blanks with
      | nil => rfl
      | cons d blanks =>
          have hd : isBlank d = true :=
            (hfields (d :: blanks, first) List.mem_cons_self).1.1 d List.mem_cons_self
          have hsame : c = d := (List.cons_prefix_cons.1 hfirst).1
          rw [hsame, hd] at hc
          cases hc
    · exact Or.inr hlater
  · rintro (rfl | hlater)
    · rcases hhint with ⟨field, hfield, hprefix⟩
      rcases List.mem_cons.1 hfield with rfl | hfield
      · exact Or.inl hprefix
      · exact Or.inr ⟨field, hfield, hprefix⟩
    · exact Or.inr hlater

/-- Two types on lines of their own are found at the second and at the third place, and one at the
first place on the same line as the parenthesis. -/
theorem hinted_type_found_iff_indented :
    let indent := "\n    ".toList
    let below := [(indent, "Bar $b".toList), ("\r\n\t".toList, "Foo\\Baz $c".toList)]
    holds "Bar".toList (functionHead "run".toList ((indent, "int $a".toList) :: below))
        parameterType = true ∧
      holds "Foo".toList (functionHead [] ((indent, "Foo $a".toList) :: below))
        parameterType = true ∧
      holds "Qux".toList (functionHead "f".toList (([], "Qux $a".toList) :: below))
        parameterType = true := by
  intro indent below
  have hrun : ∀ c ∈ "run".toList, isWord c = true := List.all_eq_true.1 (by decide)
  have hnone : ∀ c ∈ ([] : Text), isWord c = true := List.all_eq_true.1 rfl
  have hf : ∀ c ∈ "f".toList, isWord c = true := List.all_eq_true.1 (by decide)
  refine ⟨?_, ?_, ?_⟩
  · refine (hinted_type_found_iff (by decide) hrun (by decide) (by decide)).2 (Or.inr ?_)
    decide
  · refine (hinted_type_found_iff (by decide) hnone (by decide) (by decide)).2 (Or.inr ?_)
    decide
  · exact (hinted_type_found_iff (by decide) hf (by decide) (by decide)).2 (Or.inl rfl)

/-- With each parameter on a line of its own the type of the first one is not found. -/
theorem first_type_hidden_by_blanks :
    let fields := [("\n    ".toList, "Foo $foo".toList), ("\n    ".toList, "int $a".toList)]
    let text := functionHead "run".toList fields
    text = "function run(\n    Foo $foo,\n    int $a)".toList ∧
      (∀ c ∈ "run".toList, isWord c = true) ∧
      (∀ field ∈ fields, IsField field ∧ ')' ∉ field.2) ∧
      (∃ field ∈ fields, "Foo".toList <+: field.2) ∧
      holds "Foo".toList text parameterType = false := by
  intro fields text
  have hword : ∀ c ∈ "run".toList, isWord c = true := List.all_eq_true.1 (by decide)
  have hfields : ∀ field ∈ fields, IsField field ∧ ')' ∉ field.2 := by decide
  refine ⟨by decide, hword, hfields, by decide, ?_⟩
  rw [Bool.eq_false_iff, Ne, parameterType_functionHead_iff hword hfields]
  decide

end Usage

end ImportLint
