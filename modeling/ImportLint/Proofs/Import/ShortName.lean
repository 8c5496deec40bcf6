import ImportLint.Import.ShortName
import ImportLint.Proofs.Text.Blank
import ImportLint.Proofs.Text.Lines

/-!
# Laws of short names

A short name is made by dropping characters only, so it has no character that the import lacks. And
it forgets where the import comes from. What stands before a backslash has no influence, whether it
holds an alias or not, because a backslash never stands inside the alias keyword. Neither has what
stands before an alias keyword, unless its last letters are those of the keyword: of two keywords that
share a space only the first one counts.
-/

namespace ImportLint

namespace Import

open Text

variable {name s t : Text}

/-! ## Only characters of the import -/

theorem dropBraces_sublist (t : Text) : (dropBraces t).Sublist t := by
  fun_induction dropBraces t with
  | case1 => exact List.Sublist.refl []
  | case2 c t _ ih => exact ih.cons c
  | case3 c t _ ih => exact ih.cons_cons c

/-- An alias is the end of what it was looked for in, or the name that is kept without one. -/
theorem aliasFrom_suffix (h : name <:+ s) (ht : t <:+ s) : aliasFrom name t <:+ s := by
  fun_induction aliasFrom name t with
  | case1 name => exact h
  | case2 name t ih =>
      -- The part after the keyword is now both kept and searched.
      have hpart : t <:+ s := (List.suffix_append " as ".toList t).trans ht
      exact ih hpart hpart
  | case3 name c t _ ih => exact ih h ((List.suffix_cons c t).trans ht)

theorem aliasPart_suffix (t : Text) : aliasPart t <:+ t :=
  aliasFrom_suffix List.suffix_rfl List.suffix_rfl

theorem shortName_sublist_aliasPart (raw : Text) : (shortName raw).Sublist (aliasPart raw) := by
  calc
    (shortName raw).Sublist (dropBraces (trim (afterLast '\\' (aliasPart raw)))) := trim_sublist _
    List.Sublist _ (trim (afterLast '\\' (aliasPart raw))) := dropBraces_sublist _
    List.Sublist _ (afterLast '\\' (aliasPart raw)) := trim_sublist _
    List.Sublist _ (aliasPart raw) := (afterLast_suffix '\\' _).sublist

theorem shortName_sublist (raw : Text) : (shortName raw).Sublist raw :=
  (shortName_sublist_aliasPart raw).trans (aliasPart_suffix raw).sublist

/-! ## Namespaces -/

theorem aliasFrom_cons {c : Char} (h : ¬ " as ".toList <+: c :: t) :
    aliasFrom name (c :: t) = aliasFrom name t := by
  rw [aliasFrom]
  rintro rest rfl rfl
  exact h ⟨rest, rfl⟩

/-- What is kept in case there is no alias matters only if there is none. -/
theorem aliasFrom_congr {β : Type} (f : Text → β) {a b : Text} (t : Text) (h : f a = f b) :
    f (aliasFrom a t) = f (aliasFrom b t) := by
  fun_induction aliasFrom a t with
  | case1 a => exact h
  | case2 a t ih => rfl
  | case3 a c t hno ih =>
      have hskip : aliasFrom b (c :: t) = aliasFrom b t := by
        rw [aliasFrom]
        exact hno
      rw [hskip, ih h]

/-- Looking for an alias in front of a backslash ends behind it, with something kept that goes on
with the same backslash. -/
theorem exists_aliasFrom_append (kept front back : Text) :
    ∃ kept', aliasFrom (kept ++ '\\' :: back) (front ++ '\\' :: back) =
      aliasFrom (kept' ++ '\\' :: back) back := by
  fun_induction aliasFrom [] front generalizing kept with
  | case1 => exact ⟨kept, rfl⟩
  | case2 _ front ih => exact ih front
  | case3 _ c front hno ih =>
      rcases ih kept with ⟨kept', hkept⟩
      refine ⟨kept', ?_⟩
      -- The alias keyword has no backslash, so it does not reach from `front` over the backslash.
      have hlead : ¬ " as ".toList <+: (c :: front) ++ '\\' :: back := by
        rw [prefix_append_mark_iff (by decide)]
        rintro ⟨rest, hrest⟩
        obtain ⟨rfl, rfl⟩ := List.cons.inj hrest
        exact hno rest rfl rfl
      rw [List.cons_append] at hlead ⊢
      rw [aliasFrom_cons hlead, hkept]

/-- A name is referred to in the same way from any namespace. -/
theorem shortName_append_backslash (front back : Text) :
    shortName (front ++ '\\' :: back) = shortName back := by
  -- With or without an alias, what follows the last backslash stands in `back`.
  have hlast : afterLast '\\' (aliasPart (front ++ '\\' :: back)) =
      afterLast '\\' (aliasPart back) := by
    rcases exists_aliasFrom_append front front back with ⟨kept, hkept⟩
    rw [aliasPart, hkept, aliasPart]
    exact aliasFrom_congr (afterLast '\\') back (afterLast_append_mark '\\' kept back)
  simp only [shortName, hlast]

/-! ## Aliases -/

/-- Two keywords overlap in the space between them or not at all. -/
theorem keyword_prefix_append {original chosen : Text}
    (h : " as ".toList <+: original ++ (" as ".toList ++ chosen)) :
    original = [] ∨ " as".toList <:+ original ∨ " as ".toList <+: original := by
  rcases h with ⟨rest, hrest⟩
  rcases original with _ | ⟨c, _ | ⟨d, _ | ⟨e, _ | ⟨f, original⟩⟩⟩⟩
  · exact Or.inl rfl
  · simp at hrest
  · simp at hrest
  · have heq : ' ' = c ∧ 'a' = d ∧ 's' = e ∧ rest = 'a' :: 's' :: ' ' :: chosen := by
      simpa using hrest
    rcases heq with ⟨rfl, rfl, rfl, -⟩
    exact Or.inr (Or.inl List.suffix_rfl)
  · have heq : ' ' = c ∧ 'a' = d ∧ 's' = e ∧ ' ' = f ∧
        rest = original ++ (" as ".toList ++ chosen) := by
      simpa using hrest
    rcases heq with ⟨rfl, rfl, rfl, rfl, -⟩
    exact Or.inr (Or.inr ⟨original, rfl⟩)

/-- Looking for an alias goes through what stands in front of a keyword and finds that keyword. -/
theorem aliasFrom_append_keyword {original : Text} (kept chosen : Text) :
    ¬ " as".toList <:+ original →
      aliasFrom kept (original ++ (" as ".toList ++ chosen)) = aliasPart chosen := by
  fun_induction aliasFrom [] original generalizing kept with
  | case1 =>
      intro _
      rfl
  | case2 _ original ih =>
      intro hend
      exact ih _ fun h => hend (h.trans (List.suffix_append " as ".toList original))
  | case3 _ c original hno ih =>
      intro hend
      have hlead : ¬ " as ".toList <+: (c :: original) ++ (" as ".toList ++ chosen) := by
        intro hlead
        rcases keyword_prefix_append hlead with hnil | hlast | ⟨rest, hrest⟩
        · exact absurd hnil (List.cons_ne_nil c original)
        · exact hend hlast
        · obtain ⟨rfl, rfl⟩ := List.cons.inj hrest
          exact hno rest rfl rfl
      rw [List.cons_append] at hlead ⊢
      rw [aliasFrom_cons hlead]
      exact ih kept fun h => hend (h.trans (List.suffix_cons c original))

/-- An alias is referred to in the same way whatever it stands for. -/
theorem shortName_append_keyword {original : Text} (h : ¬ " as".toList <:+ original)
    (chosen : Text) : shortName (original ++ " as ".toList ++ chosen) = shortName chosen := by
  have halias : aliasPart (original ++ " as ".toList ++ chosen) = aliasPart chosen := by
    rw [List.append_assoc]
    exact aliasFrom_append_keyword _ chosen h
  simp only [shortName, halias]

/-- Where two keywords share a space, the second one is no keyword. -/
example : shortName "A as as B".toList = "as B".toList := by decide

end Import

end ImportLint
