import ImportLint.Proofs.Tree.Places
import ImportLint.Tree.Access

/-!
# Directories in another order

Directories list their entries in some order, and which one is of no meaning. Two trees that differ
only in that hold the same at every place, as long as no name is listed twice: the same file, the
same link, or a directory on both sides. Following a path asks for nothing else, so every path
leads to the same place in both.
-/

namespace ImportLint

namespace Node

variable {s t tree tree' : Node}

/-! ## Listing again -/

/-- One tree is the other with directories, anywhere in it, that list their entries in another
order. -/
inductive Relisted : Node → Node → Prop
  | refl (tree : Node) : Relisted tree tree
  | here {entries entries' : Entries} : entries.Perm entries' → Relisted (dir entries) (dir entries')
  | inside {before after : Entries} {name : Text} {node node' : Node} : Relisted node node' →
      Relisted (dir (before ++ (name, node) :: after)) (dir (before ++ (name, node') :: after))
  | trans {first second third : Node} :
      Relisted first second → Relisted second third → Relisted first third

/-- A directory without its entries, anything else as it is. -/
def outline : Node → Node
  | dir _ => dir []
  | node => node

/-- At every place both trees have the same file, the same link, a directory, or nothing. -/
def Alike (s t : Node) : Prop := ∀ place, (s.at? place).map outline = (t.at? place).map outline

theorem lookup_middle {before after : Entries} {name : Text} {node : Node}
    (hnodup : ((before ++ (name, node) :: after).map (·.1)).Nodup) :
    (before ++ (name, node) :: after).lookup name = some node :=
  (Entries.lookup_eq_some_iff_mem hnodup).2 (by simp)

theorem lookup_middle_of_ne {before after : Entries} {name other : Text} (node : Node)
    (h : other ≠ name) :
    (before ++ (name, node) :: after).lookup other = (before ++ after).lookup other := by
  have hb : (other == name) = false := beq_false_of_ne h
  simp [List.lookup_append, List.lookup_cons, hb]

theorem Relisted.wellNamed (h : Relisted s t) : s.WellNamed → t.WellNamed := by
  induction h with
  | refl tree => exact id
  | here hperm =>
      intro hnamed
      rcases wellNamed_dir_iff.1 hnamed with ⟨hnodup, hentries⟩
      refine wellNamed_dir_iff.2 ⟨(hperm.map (·.1)).nodup_iff.1 hnodup, ?_⟩
      intro entry hentry
      exact hentries entry (hperm.mem_iff.2 hentry)
  | @inside before after name node node' _ ih =>
      intro hnamed
      rcases wellNamed_dir_iff.1 hnamed with ⟨hnodup, hentries⟩
      refine wellNamed_dir_iff.2 ⟨by simpa using hnodup, ?_⟩
      intro entry hentry
      -- Only the entry in the middle has changed, and it has kept its name.
      rcases List.mem_append.1 hentry with hentry | hentry
      · exact hentries entry (List.mem_append_left _ hentry)
      · rcases List.mem_cons.1 hentry with rfl | hentry
        · rcases hentries (name, node) (by simp) with ⟨hslash, hnode⟩
          exact ⟨hslash, ih hnode⟩
        · exact hentries entry (List.mem_append_right _ (List.mem_cons_of_mem _ hentry))
  | trans _ _ ihfirst ihsecond =>
      intro hnamed
      exact ihsecond (ihfirst hnamed)

theorem Relisted.alike (h : Relisted s t) : s.WellNamed → Alike s t := by
  induction h with
  | refl tree =>
      intro _ place
      rfl
  | here hperm =>
      intro hnamed place
      cases place with
      | nil => rfl
      | cons name place =>
          simp only [at?, Entries.lookup_perm hperm (wellNamed_dir_iff.1 hnamed).1 name]
  | @inside before after name node node' hnode ih =>
      intro hnamed place
      have hnamed' := (Relisted.inside hnode).wellNamed hnamed
      rcases wellNamed_dir_iff.1 hnamed with ⟨hnodup, hentries⟩
      rcases wellNamed_dir_iff.1 hnamed' with ⟨hnodup', -⟩
      cases place with
      | nil => rfl
      | cons first place =>
          by_cases hfirst : first = name
          · subst hfirst
            have hsame := ih (hentries (first, node) (by simp)).2 place
            simpa only [at?, lookup_middle hnodup, lookup_middle hnodup', Option.bind_some]
              using hsame
          · simp only [at?, lookup_middle_of_ne _ hfirst]
  | trans hfirst _ ihfirst ihsecond =>
      intro hnamed place
      exact (ihfirst hnamed place).trans (ihsecond (hfirst.wellNamed hnamed) place)

/-! ## Following paths -/

theorem outline_cases {a b : Option Node} (h : a.map outline = b.map outline) :
    a = b ∨ ∃ entries entries', a = some (dir entries) ∧ b = some (dir entries') := by
  rcases a with _ | a
  · rcases b with _ | b
    · exact Or.inl rfl
    · cases h
  · rcases b with _ | b
    · cases h
    · have hout : outline a = outline b := Option.some.inj h
      cases a with
      | dir entries =>
          cases b with
          | dir entries' => exact Or.inr ⟨entries, entries', rfl, rfl⟩
          | file bytes => cases hout
          | link target => cases hout
      | file bytes =>
          cases b with
          | dir entries' => cases hout
          | file bytes' => exact Or.inl (congrArg some hout)
          | link target => cases hout
      | link target =>
          cases b with
          | dir entries' => cases hout
          | file bytes => cases hout
          | link target' => exact Or.inl (congrArg some hout)

theorem Alike.descend_eq (h : Alike s t) (purpose : Purpose) (place : Place) (parts : List Text) :
    s.descend purpose place parts = t.descend purpose place parts := by
  induction parts generalizing place with
  | nil => rfl
  | cons part rest ih =>
      rcases outline_cases (h place) with hsame | ⟨entries, entries', hs, ht⟩
      · simp only [descend, hsame, ih]
      · -- What a name leads to is told by the place below.
        have hpart : (entries.lookup part).map outline = (entries'.lookup part).map outline := by
          rw [lookup_eq_at? hs, lookup_eq_at? ht]
          exact h (place ++ [part])
        rcases outline_cases hpart with hsame | ⟨inner, inner', hs', ht'⟩
        · simp only [descend, hs, ht, hsame, ih]
        · simp only [descend, hs, ht, hs', ht', ih]

theorem Alike.follow_eq (h : Alike s t) (purpose : Purpose) (links : Nat) (place : Place)
    (parts : List Text) : s.follow purpose links place parts = t.follow purpose links place parts := by
  -- On the number of links that may still be followed. Each of them starts one descent anew.
  induction links generalizing place parts with
  | zero => simp only [follow, h.descend_eq]
  | succ links ih => simp only [follow, h.descend_eq, ih]

theorem Alike.locate_eq (h : Alike s t) (path : Path) : s.locate path = t.locate path := by
  simp only [locate, reach, h.follow_eq]

theorem Alike.find?_bind_at? (h : Alike s t) (path : Path) (place : Place) :
    ((s.find? path).bind (at? place)).map outline = ((t.find? path).bind (at? place)).map outline := by
  simp only [find?, h.locate_eq]
  cases t.locate path with
  | error error => rfl
  | ok goal => simpa only [at?_append] using h (goal ++ place)

theorem Alike.isDirAt_eq (h : Alike s t) (path : Path) : s.isDirAt path = t.isDirAt path := by
  have htop : (s.find? path).map outline = (t.find? path).map outline := by
    simpa [at?] using h.find?_bind_at? path []
  rcases outline_cases htop with hsame | ⟨entries, entries', hs, ht⟩
  · simp only [isDirAt, hsame]
  · simp only [isDirAt, hs, ht, Option.map_some, isDir]

end Node

end ImportLint
