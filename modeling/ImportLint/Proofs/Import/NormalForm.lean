import ImportLint.Proofs.Import.ShortName

/-!
# Short names are normal forms

A short name has no backslash and no closing brace, and no blank at either end. It may still hold the
alias keyword: taking a brace away joins what stands on its two sides, as in `x a}s y`. Apart from that,
none of the stages finds anything left to do in a short name (`shortName_eq_self_iff`).

Where braces stand only at the end, as behind the last member of a group, nothing is joined. The short
name is then a stretch of what follows the last alias keyword, and there is no keyword in that
(`BracesAtEnd.not_infix_shortName`).
-/

namespace ImportLint

namespace Import

open Text

variable {name s t : Text}

/-! ## What the stages leave -/

theorem notMem_dropBraces (t : Text) : '}' ∉ dropBraces t := by
  fun_induction dropBraces t with
  | case1 => exact List.not_mem_nil
  | case2 c t _ ih => exact ih
  | case3 c t hkept ih =>
      rw [Bool.or_eq_true, not_or, decide_eq_true_eq] at hkept
      exact List.not_mem_cons_of_ne_of_not_mem (Ne.symm hkept.1) ih

theorem not_infix_aliasFrom (h : " as ".toList <:+: t ∨ ¬ " as ".toList <:+: name) :
    ¬ " as ".toList <:+: aliasFrom name t := by
  fun_induction aliasFrom name t with
  | case1 name => exact h.resolve_left (by decide)
  | case2 name t ih => exact ih (em (" as ".toList <:+: t))
  | case3 name c t hno ih =>
      refine ih (h.imp_left ?_)
      intro hin
      rcases List.infix_cons_iff.1 hin with ⟨rest, hrest⟩ | hlater
      · obtain ⟨rfl, rfl⟩ := List.cons.inj hrest
        exact absurd rfl (hno rest rfl)
      · exact hlater

/-- There is no alias keyword behind the last alias keyword. -/
theorem not_infix_aliasPart (t : Text) : ¬ " as ".toList <:+: aliasPart t :=
  not_infix_aliasFrom (em (" as ".toList <:+: t))

theorem backslash_notMem_shortName (raw : Text) : '\\' ∉ shortName raw := by
  intro hm
  -- The stages after the cut at the last backslash only take characters away.
  have hm := (dropBraces_sublist _).subset ((trim_sublist _).subset hm)
  exact notMem_afterLast '\\' (aliasPart raw) ((trim_sublist _).subset hm)

theorem brace_notMem_shortName (raw : Text) : '}' ∉ shortName raw := fun hm =>
  notMem_dropBraces _ ((trim_sublist _).subset hm)

/-! ## What the stages do not change -/

theorem aliasFrom_of_not_infix (h : ¬ " as ".toList <:+: t) : aliasFrom name t = name := by
  induction t with
  | nil => rfl
  | cons c t ih =>
      rw [List.infix_cons_iff, not_or] at h
      rw [aliasFrom_cons h.1, ih h.2]

theorem dropBraces_of_notMem (h : '}' ∉ t) : dropBraces t = t := by
  induction t with
  | nil => rfl
  | cons c t ih =>
      rw [List.mem_cons, not_or] at h
      have hbrace : atBrace t = false := by
        rw [atBrace, beq_eq_false_iff_ne]
        intro hhead
        exact h.2 ((trimLeft_sublist t).subset (List.mem_of_head? hhead))
      simp [dropBraces, Ne.symm h.1, hbrace, ih h.2]

/-- A text in which no stage of the resolution finds anything to do. -/
structure IsNormal (t : Text) : Prop where
  noBackslash : '\\' ∉ t
  noBrace : '}' ∉ t
  trimmed : Trimmed t
  noKeyword : ¬ " as ".toList <:+: t

theorem IsNormal.shortName_eq (h : IsNormal t) : shortName t = t := by
  calc
    shortName t = trim (dropBraces (trim (afterLast '\\' t))) := by
          rw [shortName, aliasPart, aliasFrom_of_not_infix h.noKeyword]
    _ = trim (dropBraces t) := by rw [afterLast_of_notMem h.noBackslash, h.trimmed.trim_eq]
    _ = t := by rw [dropBraces_of_notMem h.noBrace, h.trimmed.trim_eq]

/-- A text is its own short name exactly if it is normal. -/
theorem shortName_eq_self_iff : shortName t = t ↔ IsNormal t := by
  refine ⟨?_, IsNormal.shortName_eq⟩
  intro h
  -- Looking for an alias has left the whole text, so there is none in it.
  have hwhole : aliasPart t = t := by
    refine (aliasPart_suffix t).eq_of_length_le ?_
    have hlength := (shortName_sublist_aliasPart t).length_le
    rwa [h] at hlength
  refine ⟨?_, ?_, ?_, ?_⟩
  · exact h ▸ backslash_notMem_shortName t
  · exact h ▸ brace_notMem_shortName t
  · exact h ▸ trimmed_trim _
  · exact hwhole ▸ not_infix_aliasPart t

/-! ## Braces at the end -/

/-- Each closing brace has only blanks and closing braces behind it. -/
def BracesAtEnd (t : Text) : Prop :=
  ∀ front back, t = front ++ '}' :: back → ∀ c ∈ back, isBlank c = true ∨ c = '}'

theorem bracesAtEnd_of_notMem (h : '}' ∉ t) : BracesAtEnd t := by
  rintro front back rfl
  exact absurd (List.mem_append_right front List.mem_cons_self) h

theorem BracesAtEnd.of_infix (h : BracesAtEnd t) (hs : s <:+: t) : BracesAtEnd s := by
  rcases hs with ⟨left, right, rfl⟩
  rintro front back rfl c hc
  exact h (left ++ front) (back ++ right) (by simp) c (List.mem_append_left right hc)

def IsBraceTail (t : Text) : Prop := ∀ c ∈ t, isBlank c = true ∨ c = '}'

instance (t : Text) : Decidable (IsBraceTail t) := List.decidableBAll _ t

theorem bracesAtEnd_append (hs : '}' ∉ s) (ht : IsBraceTail t) : BracesAtEnd (s ++ t) := by
  intro front back heq c hc
  rcases List.append_eq_append_iff.1 heq with ⟨between, rfl, hback⟩ | ⟨between, rfl, hbraces⟩
  · refine ht c ?_
    rw [hback]
    exact List.mem_append_right between (List.mem_cons_of_mem '}' hc)
  · cases between with
    | nil =>
        rw [List.nil_append] at hbraces
        exact ht c (hbraces ▸ List.mem_cons_of_mem '}' hc)
    | cons d between =>
        obtain ⟨rfl, -⟩ := List.cons.inj hbraces
        exact absurd (List.mem_append_right front List.mem_cons_self) hs

theorem atBrace_iff :
    atBrace t = true ↔ ∃ blanks back, t = blanks ++ '}' :: back ∧ ∀ c ∈ blanks, isBlank c = true := by
  rw [atBrace, beq_iff_eq]
  constructor
  · intro h
    rcases List.head?_eq_some_iff.1 h with ⟨back, hback⟩
    rcases exists_blank_append_trimLeft t with ⟨blanks, heq, hblanks, -⟩
    exact ⟨blanks, back, hback ▸ heq, hblanks⟩
  · rintro ⟨blanks, back, rfl, hblanks⟩
    rw [trimLeft_blank_append hblanks]
    rfl

/-- From any place before the last brace on, it is blanks up to the next brace. -/
theorem IsBraceTail.atBrace_concat (h : IsBraceTail t) : atBrace (t ++ ['}']) = true := by
  induction t with
  | nil => rfl
  | cons c t ih =>
      rcases h c List.mem_cons_self with hblank | rfl
      · have hrest : IsBraceTail t := fun x hx => h x (List.mem_cons_of_mem c hx)
        rcases atBrace_iff.1 (ih hrest) with ⟨blanks, back, heq, hblanks⟩
        refine atBrace_iff.2 ⟨c :: blanks, back, by rw [List.cons_append, heq]; rfl, ?_⟩
        exact List.forall_mem_cons.2 ⟨hblank, hblanks⟩
      · rfl

theorem IsBraceTail.dropBraces_concat (h : IsBraceTail t) : dropBraces (t ++ ['}']) = [] := by
  induction t with
  | nil => rfl
  | cons c t ih =>
      have hrest : IsBraceTail t := fun x hx => h x (List.mem_cons_of_mem c hx)
      rcases h c List.mem_cons_self with hblank | rfl
      · simp [dropBraces, hblank, hrest.atBrace_concat, ih hrest]
      · simp [dropBraces, ih hrest]

/-- Taking braces away at the end takes an end of the text away, unless it ends in a blank. -/
theorem BracesAtEnd.dropBraces_prefix (h : BracesAtEnd t)
    (hend : ∀ c, t.getLast? = some c → isBlank c = false) : dropBraces t <+: t := by
  fun_induction dropBraces t with
  | case1 => exact List.prefix_rfl
  | case2 c t hdrop _ =>
      -- What is behind a brace that is taken away is taken away as a whole.
      have htail : IsBraceTail t := by
        rw [Bool.or_eq_true, Bool.and_eq_true, decide_eq_true_eq] at hdrop
        rcases hdrop with rfl | ⟨-, hbrace⟩
        · exact h [] t rfl
        · rcases atBrace_iff.1 hbrace with ⟨blanks, back, rfl, hblanks⟩
          have hback : IsBraceTail back := h (c :: blanks) back rfl
          rintro x hx
          rcases List.mem_append.1 hx with hx | hx
          · exact Or.inl (hblanks x hx)
          · exact (List.mem_cons.1 hx).elim Or.inr (hback x)
      rcases List.eq_nil_or_concat t with rfl | ⟨front, last, rfl⟩
      · exact List.nil_prefix
      · rw [List.concat_eq_append] at htail hend ⊢
        have hlast := hend last (by rw [← List.cons_append, List.getLast?_concat])
        have hbrace : last = '}' :=
          (htail last (List.mem_append_right front List.mem_cons_self)).resolve_left (by simp [hlast])
        -- The text ends in a brace, and every blank before it goes with the next brace.
        have hfront : IsBraceTail front := fun x hx => htail x (List.mem_append_left _ hx)
        rw [hbrace, hfront.dropBraces_concat]
        exact List.nil_prefix
  | case3 c t _ ih =>
      refine (List.prefix_cons_inj c).2 (ih (h.of_infix (List.suffix_cons c t).isInfix) ?_)
      intro x hx
      refine hend x ?_
      cases t with
      | nil => cases hx
      | cons d t => rwa [List.getLast?_cons_cons]

theorem BracesAtEnd.shortName_infix_aliasPart (h : BracesAtEnd t) :
    shortName t <:+: aliasPart t := by
  have hlast : trim (afterLast '\\' (aliasPart t)) <:+: aliasPart t :=
    (trim_isInfix _).trans (afterLast_suffix '\\' _).isInfix
  have hends := h.of_infix (hlast.trans (aliasPart_suffix t).isInfix)
  have hfront := hends.dropBraces_prefix (trimmed_trim _).2
  exact (trim_isInfix _).trans (hfront.isInfix.trans hlast)

theorem BracesAtEnd.not_infix_shortName (h : BracesAtEnd t) : ¬ " as ".toList <:+: shortName t :=
  fun hin => not_infix_aliasPart t (hin.trans h.shortName_infix_aliasPart)

/-! ## Resolving twice -/

/-- The only thing that a second resolution can find is an alias keyword. -/
theorem shortName_shortName_eq_iff (raw : Text) :
    shortName (shortName raw) = shortName raw ↔ ¬ " as ".toList <:+: shortName raw := by
  rw [shortName_eq_self_iff]
  constructor
  · exact IsNormal.noKeyword
  · intro hkeyword
    exact ⟨backslash_notMem_shortName raw, brace_notMem_shortName raw, trimmed_trim _, hkeyword⟩

/-- Short names are normal forms: they have no backslash, no closing brace and no blank at either end.
Where an import has braces at its end only, its short name is its own short name. -/
theorem shortName_normal_form (raw : Text) :
    '\\' ∉ shortName raw ∧ '}' ∉ shortName raw ∧ Trimmed (shortName raw) ∧
      (BracesAtEnd raw → shortName (shortName raw) = shortName raw) ∧
      ('}' ∉ raw → shortName (shortName raw) = shortName raw) := by
  have hstable : BracesAtEnd raw → shortName (shortName raw) = shortName raw :=
    fun h => (shortName_shortName_eq_iff raw).2 h.not_infix_shortName
  exact ⟨backslash_notMem_shortName raw, brace_notMem_shortName raw, trimmed_trim _, hstable,
    fun h => hstable (bracesAtEnd_of_notMem h)⟩

/-- The last member of a group, with the end of the group, a blank that is not ASCII, and an alias. -/
theorem shortName_normal_form_group_end :
    let raw := "Sub\\Name as Alias\u00a0\x7d \n\x7d".toList
    BracesAtEnd raw ∧ shortName raw = "Alias".toList ∧ shortName (shortName raw) = shortName raw := by
  intro raw
  have hends : BracesAtEnd raw :=
    bracesAtEnd_append (s := "Sub\\Name as Alias".toList) (t := "\u00a0\x7d \n\x7d".toList) (by decide)
      (by decide)
  exact ⟨hends, by decide, (shortName_normal_form raw).2.2.2.1 hends⟩

/-- A brace between the letters of an alias keyword hides it from the first resolution only. -/
example : shortName (shortName "x a\x7ds y".toList) ≠ shortName "x a\x7ds y".toList := by decide

end Import

end ImportLint
