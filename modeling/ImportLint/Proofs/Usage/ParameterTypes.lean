import ImportLint.Proofs.Text.Fields
import ImportLint.Proofs.Usage.Parameters
import Mathlib.Data.List.TakeWhile

/-!
# Where a parameter type stands

The test for parameter types reads a text by stretches that closing parentheses end, and takes from
each stretch what stands behind its first opening. Here it is described by the text alone, without
stretches (`parameterType_iff`):

* a list is what stands between `function`, a name that may be missing, `(` and the next `)`;
* of the lists that end at the same `)` only the one with the leftmost `function` counts;
* a type is listed at the start of the list, or behind a comma and any blanks.

Lists that end at different parentheses never share a character, for there is no `)` in a list. So
the second rule is all that need be said about lists that overlap.
-/

namespace ImportLint

open Text

variable {name list text before body rest s t : Text} {mark : Char}

/-! ## Stretches of a text -/

namespace Text

def EndsStretch (mark : Char) (front : Text) : Prop := front = [] ∨ ∃ g, front = g ++ [mark]

theorem EndsStretch.append_cons {front : Text} (h : EndsStretch mark front) (piece : Text) :
    EndsStretch mark (piece ++ mark :: front) := by
  rcases h with rfl | ⟨g, rfl⟩
  · exact Or.inr ⟨piece, rfl⟩
  · exact Or.inr ⟨piece ++ mark :: g, by simp⟩

theorem exists_lastStretch (mark : Char) (t : Text) :
    ∃ front tail, t = front ++ tail ∧ EndsStretch mark front ∧ mark ∉ tail := by
  induction t using piece_induction mark with
  | last piece h => exact ⟨[], piece, rfl, Or.inl rfl, h⟩
  | cons piece rest _ ih =>
      rcases ih with ⟨front, tail, rfl, hfront, htail⟩
      exact ⟨piece ++ mark :: front, tail, by simp, hfront.append_cons piece, htail⟩

theorem exists_firstStretch (mark : Char) (t : Text) :
    ∃ piece rest, t = piece ++ rest ∧ mark ∉ piece ∧ (rest = [] ∨ ∃ r, rest = mark :: r) := by
  by_cases h : mark ∈ t
  · obtain ⟨piece, rest, heq, hpiece⟩ := List.eq_append_cons_of_mem h
    exact ⟨piece, mark :: rest, heq, hpiece, Or.inr ⟨rest, rfl⟩⟩
  · exact ⟨t, [], by simp, h, Or.inl rfl⟩

/-- A text without marks that ends where a stretch ends lies within the stretch. -/
theorem EndsStretch.exists_of_append_eq {front stretch left right : Text}
    (hfront : EndsStretch mark front) (hright : mark ∉ right)
    (h : front ++ stretch = left ++ right) :
    ∃ skipped, left = front ++ skipped ∧ stretch = skipped ++ right := by
  rcases List.append_eq_append_iff.1 h with ⟨skipped, hleft, hstretch⟩ | ⟨excess, hexcess, hsplit⟩
  · exact ⟨skipped, hleft, hstretch⟩
  · -- The text would reach over the mark at the end of `front`.
    have hfree : mark ∉ excess := fun hm => hright (hsplit ▸ List.mem_append_left stretch hm)
    have hnone : excess = [] := by
      rcases List.eq_nil_or_concat excess with hnil | ⟨others, last, rfl⟩
      · exact hnil
      · rcases hfront with rfl | ⟨g, rfl⟩
        · simp at hexcess
        · rw [List.concat_eq_append, ← List.append_assoc] at hexcess
          have hlast : mark = last := by simpa using List.append_inj_right' hexcess rfl
          simp [hlast] at hfree
    subst hnone
    exact ⟨[], by simpa using hexcess.symm, by simpa using hsplit.symm⟩

/-- The pieces of a text that a mark closes. -/
theorem mem_dropLast_splitOn_iff {stretch : Text} :
    stretch ∈ (t.splitOn mark).dropLast ↔
      ∃ front rest, t = front ++ stretch ++ mark :: rest ∧ EndsStretch mark front ∧
        mark ∉ stretch := by
  constructor
  · induction t using piece_induction mark with
    | last piece h =>
        intro hmem
        simp [List.splitOn_eq_singleton h] at hmem
    | cons piece rest h ih =>
        intro hmem
        rw [List.splitOn_append_cons_self_of_not_mem h,
          List.dropLast_cons_of_ne_nil (List.splitOn_ne_nil mark rest)] at hmem
        rcases List.mem_cons.1 hmem with rfl | hmem
        · exact ⟨[], rest, rfl, Or.inl rfl, h⟩
        · rcases ih hmem with ⟨front, rest, rfl, hfront, hfree⟩
          exact ⟨piece ++ mark :: front, rest, by simp, hfront.append_cons piece, hfree⟩
  · rintro ⟨front, rest, rfl, hfront, hfree⟩
    have hne : rest.splitOn mark ≠ [] := List.splitOn_ne_nil mark rest
    have hcut : (stretch ++ mark :: rest).splitOn mark = stretch :: rest.splitOn mark :=
      List.splitOn_append_cons_self_of_not_mem hfree rest
    rcases hfront with rfl | ⟨g, rfl⟩
    · rw [List.nil_append, hcut, List.dropLast_cons_of_ne_nil hne]
      exact List.mem_cons_self
    · have hwhole : g ++ [mark] ++ stretch ++ mark :: rest =
          g ++ mark :: (stretch ++ mark :: rest) := by
        simp
      rw [hwhole, List.splitOn_append_cons_self, hcut,
        List.dropLast_append_of_ne_nil (List.cons_ne_nil _ _), List.dropLast_cons_of_ne_nil hne]
      exact List.mem_append_right _ List.mem_cons_self

end Text

namespace Usage

/-! ## Openings -/

/-- Behind `before` the text opens a list: `function`, a name that may be missing, and a parenthesis
with `body` behind it. -/
def OpensAt (t before body : Text) : Prop :=
  ∃ word, (∀ c ∈ word, isWord c = true) ∧
    t = before ++ ("function ".toList ++ word ++ '(' :: body)

theorem isWord_opening : isWord '(' = false := isWord_of_ascii (by decide)

theorem isWord_closing : isWord ')' = false := isWord_of_ascii (by decide)

theorem closing_notMem_opening {word : Text} (hword : ∀ c ∈ word, isWord c = true)
    (hbody : ')' ∉ body) : ')' ∉ "function ".toList ++ word ++ '(' :: body := by
  have hname : ')' ∉ word := fun hm => by simpa [isWord_closing] using hword ')' hm
  simp [hname, hbody]

theorem OpensAt.notMem_closing (h : OpensAt t before body) (ht : ')' ∉ t) : ')' ∉ body := by
  rcases h with ⟨word, -, rfl⟩
  intro hm
  exact ht (by simp [hm])

theorem afterOpening?_eq_some_iff : afterOpening? t = some body ↔ OpensAt t [] body := by
  constructor
  · intro h
    unfold afterOpening? at h
    split at h
    · next opened hopened =>
      cases h
      rcases Option.map_eq_some_iff.1 hopened with ⟨behind, hbehind, hdrop⟩
      -- What is skipped behind the keyword is the name.
      refine ⟨behind.takeWhile isWord, fun c => List.mem_takeWhile_imp, ?_⟩
      have hsplit : behind.takeWhile isWord ++ '(' :: body = behind := by
        rw [← hdrop]
        exact List.takeWhile_append_dropWhile
      rw [after?_eq_some_iff.1 hbehind, List.nil_append, List.append_assoc, hsplit]
    · cases h
  · rintro ⟨word, hword, rfl⟩
    have hafter : after? "function ".toList ("function ".toList ++ word ++ '(' :: body) =
        some (word ++ '(' :: body) := by
      rw [after?_eq_some_iff, List.append_assoc]
    have hskip : (word ++ '(' :: body).dropWhile isWord = '(' :: body := by
      rw [List.dropWhile_append_of_pos hword, List.dropWhile_cons_of_neg (by simp [isWord_opening])]
    simp only [afterOpening?, List.nil_append, hafter, Option.map_some, hskip]

theorem opensAt_cons_iff {c : Char} :
    OpensAt (c :: t) before body ↔
      before = [] ∧ afterOpening? (c :: t) = some body ∨
        ∃ front, before = c :: front ∧ OpensAt t front body := by
  rw [afterOpening?_eq_some_iff]
  constructor
  · rintro ⟨word, hword, heq⟩
    cases before with
    | nil => exact Or.inl ⟨rfl, word, hword, heq⟩
    | cons d front =>
        rcases List.cons.inj heq with ⟨rfl, htail⟩
        exact Or.inr ⟨front, rfl, word, hword, htail⟩
  · rintro (⟨rfl, h⟩ | ⟨front, rfl, word, hword, rfl⟩)
    · exact h
    · exact ⟨word, hword, rfl⟩

/-- No opening of the text stands further to the left. -/
def IsLeftmost (t before : Text) : Prop :=
  ∀ before' body', OpensAt t before' body' → before.length ≤ before'.length

theorem isLeftmost_cons_of_none {c : Char} (h : afterOpening? (c :: t) = none) :
    IsLeftmost (c :: t) (c :: before) ↔ IsLeftmost t before := by
  constructor
  · intro hleft before' body' hopens
    have := hleft (c :: before') body' (opensAt_cons_iff.2 (Or.inr ⟨before', rfl, hopens⟩))
    simpa using this
  · intro hleft before' body' hopens
    rcases opensAt_cons_iff.1 hopens with ⟨-, hsome⟩ | ⟨front, rfl, hlater⟩
    · rw [h] at hsome
      cases hsome
    · simpa using hleft front body' hlater

/-- The scanner takes what stands behind the leftmost opening. -/
theorem parameters?_eq_some_iff :
    parameters? t = some body ↔ ∃ before, OpensAt t before body ∧ IsLeftmost t before := by
  induction t with
  | nil =>
      constructor
      · intro h
        cases h
      · rintro ⟨before, ⟨word, -, heq⟩, -⟩
        simp at heq
  | cons c t ih =>
      unfold parameters?
      cases hhere : afterOpening? (c :: t) with
      | some found =>
          have hopens : OpensAt (c :: t) [] found := afterOpening?_eq_some_iff.1 hhere
          constructor
          · intro h
            cases h
            exact ⟨[], hopens, fun _ _ _ => Nat.zero_le _⟩
          · rintro ⟨before, hbody, hleft⟩
            have hnil : before = [] :=
              List.eq_nil_of_length_eq_zero (Nat.le_zero.1 (hleft [] found hopens))
            subst hnil
            rw [afterOpening?_eq_some_iff.2 hbody] at hhere
            exact hhere.symm
      | none =>
          constructor
          · intro h
            rcases ih.1 h with ⟨before, hopens, hleft⟩
            refine ⟨c :: before, opensAt_cons_iff.2 (Or.inr ⟨before, rfl, hopens⟩), ?_⟩
            exact (isLeftmost_cons_of_none hhere).2 hleft
          · rintro ⟨before, hopens, hleft⟩
            rcases opensAt_cons_iff.1 hopens with ⟨-, hsome⟩ | ⟨front, rfl, hlater⟩
            · rw [hhere] at hsome
              cases hsome
            · exact ih.2 ⟨front, hlater, (isLeftmost_cons_of_none hhere).1 hleft⟩

/-! ## Lists in a text -/

/-- The text is `before`, then `function`, a name that may be missing and `body` in parentheses, and
then `rest`. The body goes up to the first closing parenthesis. -/
def HasListAt (text before body rest : Text) : Prop :=
  ∃ word, (∀ c ∈ word, isWord c = true) ∧ ')' ∉ body ∧
    text = before ++ "function ".toList ++ word ++ '(' :: body ++ ')' :: rest

theorem hasListAt_iff {stretch front skipped : Text} (hfree : ')' ∉ stretch)
    (htext : text = front ++ stretch ++ ')' :: rest) :
    HasListAt text (front ++ skipped) body rest ↔ OpensAt stretch skipped body := by
  subst htext
  constructor
  · rintro ⟨word, hword, -, heq⟩
    refine ⟨word, hword, ?_⟩
    have hsame : (front ++ stretch) ++ ')' :: rest =
        (front ++ (skipped ++ ("function ".toList ++ word ++ '(' :: body))) ++ ')' :: rest := by
      simpa using heq
    exact List.append_cancel_left (List.append_cancel_right hsame)
  · intro hopens
    have hbody : ')' ∉ body := hopens.notMem_closing hfree
    rcases hopens with ⟨word, hword, rfl⟩
    exact ⟨word, hword, hbody, by simp⟩

/-- A list that ends where a stretch ends is opened within the stretch. -/
theorem HasListAt.exists_skipped {stretch front : Text} (h : HasListAt text before body rest)
    (hfront : EndsStretch ')' front) (htext : text = front ++ stretch ++ ')' :: rest) :
    ∃ skipped, before = front ++ skipped := by
  rcases h with ⟨word, hword, hbody, heq⟩
  have hfree := closing_notMem_opening hword hbody
  have hsame : front ++ stretch = before ++ ("function ".toList ++ word ++ '(' :: body) := by
    have hends := htext.symm.trans heq
    simp only [← List.append_assoc] at hends ⊢
    exact List.append_cancel_right hends
  rcases hfront.exists_of_append_eq hfree hsame with ⟨skipped, hskipped, -⟩
  exact ⟨skipped, hskipped⟩

/-- The lists that the scanner finds: of all that end at one parenthesis, the one that starts first.
-/
theorem mem_parameterLists_iff :
    body ∈ parameterLists text ↔
      ∃ before rest, HasListAt text before body rest ∧
        ∀ before' body', HasListAt text before' body' rest → before.length ≤ before'.length := by
  rw [parameterLists, List.mem_filterMap]
  simp only [mem_dropLast_splitOn_iff, parameters?_eq_some_iff]
  constructor
  · rintro ⟨stretch, ⟨front, rest, htext, hfront, hfree⟩, skipped, hopens, hleft⟩
    refine ⟨front ++ skipped, rest, (hasListAt_iff hfree htext).2 hopens, ?_⟩
    intro before' body' hother
    rcases hother.exists_skipped hfront htext with ⟨skipped', rfl⟩
    have hle := hleft skipped' body' ((hasListAt_iff hfree htext).1 hother)
    simpa using hle
  · rintro ⟨before, rest, hlist, hleft⟩
    -- The stretch in which the list stands begins behind the last parenthesis before it.
    rcases exists_lastStretch ')' before with ⟨front, skipped, rfl, hfront, hskipped⟩
    rcases hlist with ⟨word, hword, hbody, htext⟩
    have hfree : ')' ∉ skipped ++ ("function ".toList ++ word ++ '(' :: body) := by
      intro hm
      exact (List.mem_append.1 hm).elim hskipped (closing_notMem_opening hword hbody)
    have htext' : text =
        front ++ (skipped ++ ("function ".toList ++ word ++ '(' :: body)) ++ ')' :: rest := by
      rw [htext]
      simp
    refine ⟨_, ⟨front, rest, htext', hfront, hfree⟩, skipped, ⟨word, hword, rfl⟩, ?_⟩
    intro skipped' body' hopens
    have hle := hleft _ body' ((hasListAt_iff hfree htext').2 hopens)
    simpa using hle

/-! ## Types in a list -/

/-- A name that is not empty and does not start with a blank is listed where the list starts, or
behind a comma and blanks. It must be free of commas, because a comma ends an item. -/
theorem isListed_iff (hne : name ≠ []) (hhead : ∀ c, name.head? = some c → isBlank c = false) :
    isListed name list = true ↔
      ',' ∉ name ∧ ∃ left right, list = left ++ name ++ right ∧
        (left = [] ∨ ∃ front blanks, left = front ++ ',' :: blanks ∧
          ∀ c ∈ blanks, isBlank c = true) := by
  simp only [isListed, List.any_eq_true, mem_items_iff, List.isPrefixOf_iff_prefix]
  constructor
  · rintro ⟨item, ⟨hfree, left, right, rfl, hleft, -⟩, behind, rfl⟩
    refine ⟨fun hm => hfree (List.mem_append_left behind hm), left, behind ++ right, by simp, ?_⟩
    rcases hleft with rfl | ⟨front, blanks, rfl, hblanks, -⟩
    · exact Or.inl rfl
    · exact Or.inr ⟨front, blanks, rfl, hblanks⟩
  · rintro ⟨hfree, left, right, rfl, hleft⟩
    -- The item goes on up to the next comma.
    rcases exists_firstStretch ',' right with ⟨behind, rest, rfl, hbehind, hrest⟩
    refine ⟨name ++ behind, ⟨?_, left, rest, by simp, ?_, hrest⟩, List.prefix_append name behind⟩
    · intro hm
      exact (List.mem_append.1 hm).elim hfree hbehind
    · rcases hleft with rfl | ⟨front, blanks, rfl, hblanks⟩
      · exact Or.inl rfl
      · refine Or.inr ⟨front, blanks, rfl, hblanks, ?_⟩
        intro c hc
        rw [List.head?_append_of_ne_nil _ hne] at hc
        exact hhead c hc

/-- A text uses a name as the type of a parameter exactly if the name has no comma and stands at the
start of a list, or behind a comma and blanks in it, where a list is one that no other list with the
same closing parenthesis starts before. -/
theorem parameterType_iff (hne : name ≠ []) (hhead : ∀ c, name.head? = some c → isBlank c = false) :
    holds name text parameterType = true ↔
      ',' ∉ name ∧ ∃ before body rest, HasListAt text before body rest ∧
        (∀ before' body', HasListAt text before' body' rest → before.length ≤ before'.length) ∧
        ∃ left right, body = left ++ name ++ right ∧
          (left = [] ∨ ∃ front blanks, left = front ++ ',' :: blanks ∧
            ∀ c ∈ blanks, isBlank c = true) := by
  rw [holds, List.any_eq_true]
  simp only [mem_parameterLists_iff, isListed_iff hne hhead]
  constructor
  · rintro ⟨body, ⟨before, rest, hlist, hleft⟩, hcomma, hstands⟩
    exact ⟨hcomma, before, body, rest, hlist, hleft, hstands⟩
  · rintro ⟨hcomma, before, body, rest, hlist, hleft, hstands⟩
    exact ⟨body, ⟨before, rest, hlist, hleft⟩, hcomma, hstands⟩

/-- A list inside a list, over two lines. Both end at the same parenthesis, so only the outer one is
read: the last type is listed in it, and the first type of the inner list is not. -/
theorem parameterType_iff_nested :
    let text := "function a(B $b, function (C $c,\n  D $d) \x7b\x7d".toList
    let stands := fun name => ∃ before body rest, HasListAt text before body rest ∧
      (∀ before' body', HasListAt text before' body' rest → before.length ≤ before'.length) ∧
      ∃ left right, body = left ++ name ++ right ∧
        (left = [] ∨ ∃ front blanks, left = front ++ ',' :: blanks ∧ ∀ c ∈ blanks, isBlank c = true)
    (holds "D".toList text parameterType = true ∧ stands "D".toList) ∧
      holds "C".toList text parameterType = false ∧ ¬ stands "C".toList := by
  intro text stands
  have hblank : ∀ name ∈ ["C".toList, "D".toList],
      name ≠ [] ∧ ∀ c, name.head? = some c → isBlank c = false := by
    intro name hname
    rcases List.mem_pair.1 hname with rfl | rfl
    · exact ⟨by decide, fun c hc => by cases hc; decide⟩
    · exact ⟨by decide, fun c hc => by cases hc; decide⟩
  have hlisted : holds "D".toList text parameterType = true := by decide +kernel
  have hunlisted : holds "C".toList text parameterType = false := by decide +kernel
  have hD := hblank "D".toList (by decide)
  have hC := hblank "C".toList (by decide)
  refine ⟨⟨hlisted, ((parameterType_iff hD.1 hD.2).1 hlisted).2⟩, hunlisted, ?_⟩
  intro hstands
  have hholds := (parameterType_iff hC.1 hC.2).2 ⟨by decide, hstands⟩
  rw [hunlisted] at hholds
  cases hholds

end Usage

end ImportLint
