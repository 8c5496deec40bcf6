import ImportLint.Proofs.Usage.ParameterTypes

/-!
# Where an implemented interface stands

Interfaces are read from one place of a text: behind its first `implements `, up to the end of that
line. The keyword is found wherever its letters stand, so it may be the end of a longer word or come
twice on a line; only where it starts first counts (`interface_iff`).
-/

namespace ImportLint

open Text

variable {name text list : Text}

namespace Usage

/-- `list` stands behind the first `implements ` of the text and goes on to the end of its line. -/
def IsFirstClause (text list : Text) : Prop :=
  ∃ before rest, text = before ++ "implements ".toList ++ (list ++ rest) ∧
    (∀ before' rest', text = before' ++ "implements ".toList ++ rest' →
      before.length ≤ before'.length) ∧
    '\n' ∉ list ∧ (rest = [] ∨ ∃ below, rest = '\n' :: below)

theorem IsFirstClause.keyword_infix (h : IsFirstClause text list) :
    "implements ".toList <:+: text := by
  rcases h with ⟨before, rest, rfl, -⟩
  exact List.infix_append before "implements ".toList (list ++ rest)

theorem implementsList?_eq_some_iff : implementsList? text = some list ↔ IsFirstClause text list := by
  rw [implementsList?, Option.map_eq_some_iff]
  constructor
  · rintro ⟨⟨before, behind⟩, hcut, hline⟩
    rcases exists_firstStretch '\n' behind with ⟨line, rest, rfl, hfree, hrest⟩
    rcases cut?_eq_some_iff.1 hcut with ⟨htext, hfirst⟩
    have hlist : line = list := (takeWhile_stretch hfree hrest).symm.trans hline
    subst hlist
    exact ⟨before, rest, htext, hfirst, hfree, hrest⟩
  · rintro ⟨before, rest, htext, hfirst, hlist, hrest⟩
    have hcut := cut?_eq_some_iff.2 ⟨htext, hfirst⟩
    exact ⟨(before, list ++ rest), hcut, takeWhile_stretch hlist hrest⟩

theorem holds_interface_iff :
    holds name text interface = true ↔
      ∃ list, IsFirstClause text list ∧ isListed name list = true := by
  simp only [holds, ← implementsList?_eq_some_iff]
  cases implementsList? text with
  | none => simp
  | some list => simp

/-- A text uses a name as an interface exactly if it has an `implements` clause, the name has no
comma, and the name stands at the start of what the first clause lists, or behind a comma and blanks
in it. -/
theorem interface_iff (hne : name ≠ []) (hhead : ∀ c, name.head? = some c → isBlank c = false) :
    holds name text interface = true ↔
      "implements ".toList <:+: text ∧ ',' ∉ name ∧
        ∃ list, IsFirstClause text list ∧ ∃ left right, list = left ++ name ++ right ∧
          (left = [] ∨ ∃ front blanks, left = front ++ ',' :: blanks ∧
            ∀ c ∈ blanks, isBlank c = true) := by
  rw [holds_interface_iff]
  simp only [isListed_iff hne hhead]
  constructor
  · rintro ⟨list, hlist, hcomma, hstands⟩
    exact ⟨hlist.keyword_infix, hcomma, list, hlist, hstands⟩
  · rintro ⟨-, hcomma, list, hlist, hstands⟩
    exact ⟨list, hlist, hcomma, hstands⟩

/-- The keyword twice on one line and once more below. What stands behind the second one is an item
that starts with the keyword, and the line below is not read. -/
theorem interface_iff_repeated :
    let text := "class A implements B,\t C, implements D\nclass E implements F".toList
    let stands := fun name => ∃ list, IsFirstClause text list ∧
      ∃ left right, list = left ++ name ++ right ∧
        (left = [] ∨ ∃ front blanks, left = front ++ ',' :: blanks ∧ ∀ c ∈ blanks, isBlank c = true)
    (holds "C".toList text interface = true ∧ stands "C".toList) ∧
      (∀ name ∈ ["D".toList, "F".toList],
        holds name text interface = false ∧ ¬ stands name) := by
  intro text stands
  have hC : holds "C".toList text interface = true := by decide
  have hfirst : ∀ c, "C".toList.head? = some c → isBlank c = false := by
    intro c hc
    cases hc
    decide
  refine ⟨⟨hC, ((interface_iff (by decide) hfirst).1 hC).2.2⟩, ?_⟩
  intro name hname
  have hblank : name ≠ [] ∧ (∀ c, name.head? = some c → isBlank c = false) ∧ ',' ∉ name ∧
      holds name text interface = false := by
    rcases List.mem_pair.1 hname with rfl | rfl
    · exact ⟨by decide, fun c hc => by cases hc; decide, by decide, by decide⟩
    · exact ⟨by decide, fun c hc => by cases hc; decide, by decide, by decide⟩
  rcases hblank with ⟨hne, hhead, hcomma, hnot⟩
  refine ⟨hnot, ?_⟩
  intro hstands
  have hkeyword : "implements ".toList <:+: text := occurs_iff.1 (by decide)
  have hholds := (interface_iff hne hhead).2 ⟨hkeyword, hcomma, hstands⟩
  rw [hnot] at hholds
  cases hholds

end Usage

end ImportLint
