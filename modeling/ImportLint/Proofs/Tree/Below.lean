import ImportLint.Proofs.Tree.Writing

/-!
# Paths below a directory

A path that names something below a directory is followed through that directory. If the tree is
changed at some places, as in `SameShapeBut`, the path leads where it led before, unless what it names
is one of these places itself or a link that leads to one of them (`locate_frame`).

A link leads to a place in two ways. What it is followed for may be at its end (`LinkLeadsTo`), or its
target may only pass there and go on (`LinkLeadsBy`).
-/

namespace ImportLint

namespace Node

variable {tree s t : Node} {apart : Place → Prop} {purpose : Purpose}
  {place goal directory way : Place} {name : Text} {rest : List Text} {root path : Path}
  {entries : Entries} {links n : Nat}

/-! ## Links -/

/-- A link of the tree leads to a place, at which there need not be anything yet: what is written
through the link is written there. -/
def LinkLeadsTo (tree : Node) (goal : Place) : Prop :=
  ∃ place target links, tree.at? place = some (link target) ∧
    tree.follow .write links (linkStart place.dropLast target) (Path.split target) = .ok goal

/-- A link of the tree leads to a place or by it: the target, or a part of it from its start, leads
there. -/
def LinkLeadsBy (tree : Node) (goal : Place) : Prop :=
  ∃ place target links before, tree.at? place = some (link target) ∧
    before <+: Path.split target ∧
    tree.follow .write links (linkStart place.dropLast target) before = .ok goal

theorem linkLeadsBy_of_linkMeets (h : LinkMeets tree goal rest) : tree.LinkLeadsBy goal := by
  rcases h with ⟨place, target, links, hlink, before, name, hsplit, -, hfollow⟩
  refine ⟨place, target, links, before ++ [name], hlink, ⟨rest, ?_⟩, hfollow⟩
  rw [hsplit, List.append_assoc, List.singleton_append]

/-- A name below a directory, followed in order to write, leads to its own place or along a link. -/
theorem goal_of_follow_name (hdir : tree.at? place = some (dir entries)) (hname : IsName name)
    (h : tree.follow .write n place [name] = .ok goal) :
    goal = place ++ [name] ∨ tree.LinkLeadsTo goal := by
  have hlast : ([] : List Text) = [] ∨ GoesOn .write [] := Or.inl rfl
  have hdown := descend_name hdir hname hlast
  cases hlong : Path.isLongName name with
  | true =>
      rw [hlong] at hdown
      rw [follow_failed hdown] at h
      cases h
  | false =>
      rw [hlong] at hdown
      cases hnode : tree.at? (place ++ [name]) with
      | none =>
          rw [hnode] at hdown
          rw [follow_arrived hdown] at h
          cases h
          exact Or.inl rfl
      | some node =>
          rw [hnode] at hdown
          cases node with
          | file bytes =>
              rw [follow_arrived hdown] at h
              cases h
              exact Or.inl rfl
          | dir inner =>
              rw [follow_arrived hdown] at h
              cases h
              exact Or.inl rfl
          | link target =>
              cases n with
              | zero =>
                  have hdown : tree.descend .write place [name] = .linked place target [] := hdown
                  simp only [follow, hdown] at h
                  cases h
              | succ n =>
                  rw [follow_linked hdown, List.append_nil] at h
                  refine Or.inr ⟨place ++ [name], target, n, hnode, ?_⟩
                  rw [List.dropLast_concat]
                  exact h

/-! ## Standing directories -/

theorem exists_dir_of_prefix {before : Place} (h : tree.at? (place ++ way) = some (dir entries))
    (hbefore : before <+: way) : ∃ entries, tree.at? (place ++ before) = some (dir entries) := by
  rcases hbefore with ⟨after, rfl⟩
  induction after using List.reverseRecOn generalizing entries with
  | nil =>
      rw [List.append_nil] at h
      exact ⟨entries, h⟩
  | append_singleton after name ih =>
      rw [← List.append_assoc, ← List.append_assoc] at h
      rcases exists_dir_of_at?_concat h with ⟨above, habove⟩
      rw [List.append_assoc] at habove
      exact ih habove

/-- Names of directories, one below the other, are followed one by one, unless one is too long. -/
theorem follow_way : ∀ {way place : Place} {entries : Entries},
    tree.at? (place ++ way) = some (dir entries) → (∀ name ∈ way, IsName name) →
      GoesOn purpose rest →
      tree.follow purpose n place (way ++ rest) = tree.follow purpose n (place ++ way) rest ∨
        tree.follow purpose n place (way ++ rest) = .error .nameTooLong := by
  intro way
  induction way with
  | nil =>
      intro place entries _ _ _
      left
      rw [List.append_nil, List.nil_append]
  | cons name way ih =>
      intro place entries hdir hnames hrest
      have hname : IsName name := hnames name (List.mem_cons_self ..)
      have hassoc : place ++ name :: way = (place ++ [name]) ++ way := by simp
      rcases exists_dir_of_prefix hdir (List.prefix_append [name] way) with ⟨inner, hinner⟩
      rcases exists_dir_of_at?_concat hinner with ⟨above, habove⟩
      have hgoes : GoesOn purpose (way ++ rest) := hrest.append way
      cases hlong : Path.isLongName name with
      | true =>
          right
          have hdown := descend_name habove hname (Or.inr hgoes)
          rw [hlong] at hdown
          rw [List.cons_append, follow_failed hdown]
      | false =>
          have hdown := descend_name_of_not_link hname hlong hinner (by simp)
            (Or.inr hgoes)
          rw [List.cons_append, follow_congr hdown, hassoc]
          rw [hassoc] at hdir
          exact ih hdir (fun other hother => hnames other (List.mem_cons_of_mem _ hother)) hrest

/-- A way along directories meets a place apart only at its end, or along a link. -/
theorem goal_of_meets (hfree : tree.IsFree goal)
    (hway : tree.at? (directory ++ way) = some (dir entries))
    (hnames : ∀ part ∈ way ++ [name], IsName part)
    (h : Meets tree n directory (way ++ [name]) goal rest) :
    goal = directory ++ way ++ [name] ∨ tree.LinkLeadsTo goal := by
  rcases h with ⟨before, last, hsplit, hlast, hfollow⟩
  have hstart : before ++ [last] <+: way ++ [name] :=
    ⟨rest, by rw [hsplit, List.append_assoc, List.singleton_append]⟩
  have hnamed : ∀ part ∈ before ++ [last], IsName part :=
    fun part hpart => hnames part (hstart.subset hpart)
  have hbefore : before <+: way := by
    refine List.prefix_of_prefix_length_le ((List.prefix_append before [last]).trans hstart)
      (List.prefix_append way [name]) ?_
    have hlength := congrArg List.length hsplit
    simp only [List.length_append, List.length_cons, List.length_nil] at hlength
    omega
  rcases exists_dir_of_prefix hway hbefore with ⟨inner, hinner⟩
  have hgoes : GoesOn .write [last] := Or.inr ⟨last, List.mem_singleton.2 rfl, hlast⟩
  rcases follow_way (n := n) hinner (fun part hpart => hnamed part (List.mem_append_left _ hpart))
    hgoes with hdown | hlong
  · rw [hdown] at hfollow
    rcases goal_of_follow_name hinner (hnamed last (by simp)) hfollow with hgoal | hlink
    · left
      rcases List.prefix_concat_iff.1 hstart with heq | hshort
      · rw [hgoal, List.append_assoc, heq, List.append_assoc]
      · -- Before the end there are directories only.
        rcases exists_dir_of_prefix hway hshort with ⟨there, hthere⟩
        rw [← List.append_assoc, ← hgoal] at hthere
        exact absurd hthere (hfree.not_dir there)
    · exact Or.inr hlink
  · rw [hlong] at hfollow
    cases hfollow

/-! ## Located paths -/

theorem reach_of_follow (hnull : path.holdsNull = false) (hlong : path.isLong = false) :
    tree.reach purpose path =
      match tree.follow purpose linkLimit [] path.parts with
      | .ok place => .ok place
      | .error fault => .error (.fault fault path.text) := by
  rw [reach, hnull, hlong]
  rfl

theorem bounds_of_locate (h : tree.locate path = .ok place) :
    path.holdsNull = false ∧ path.isLong = false := by
  rw [locate, reach] at h
  split at h
  · cases h
  · next hnull =>
    split at h
    · cases h
    · next hlong => exact ⟨Bool.eq_false_iff.2 hnull, Bool.eq_false_iff.2 hlong⟩

theorem leads_of_locate (h : tree.locate path = .ok place) :
    ∃ links, links ≤ linkLimit ∧ Leads tree links [] path.parts place := by
  rcases bounds_of_locate h with ⟨hnull, hlong⟩
  rw [locate, reach_of_follow hnull hlong] at h
  split at h
  · next hfollow =>
    cases h
    exact leads_of_follow hfollow
  · cases h

theorem locate_of_leads (hnull : path.holdsNull = false) (hlong : path.isLong = false)
    (hle : links ≤ linkLimit) (h : Leads tree links [] path.parts place) :
    tree.locate path = .ok place := by
  rcases Nat.exists_eq_add_of_le hle with ⟨more, hlimit⟩
  rw [locate, reach_of_follow hnull hlong, hlimit, follow_of_leads h more]

/-- What the paths below a directory lead to, in two trees in which the directory is found by the
same path. -/
theorem locate_frame (h : SameShapeBut apart s t)
    (hlinks : ∀ goal, apart goal → ¬ s.LinkLeadsTo goal) (hroot : s.locate root = .ok directory)
    (hdir : s.at? directory = some (dir entries)) {inner : Entries}
    (hway : s.at? (directory ++ way) = some (dir inner))
    (hnames : ∀ part ∈ way ++ [name], IsName part) (hnot : ¬ apart (directory ++ way ++ [name])) :
    (s.locate (root.below (way ++ [name])) = t.locate (root.below (way ++ [name])) ∧
        ∀ goal, s.locate (root.below (way ++ [name])) = .ok goal → ¬ apart goal) ∨
      (∃ f g, s.locate (root.below (way ++ [name])) =
            .error (.fault f (root.below (way ++ [name])).text) ∧
          t.locate (root.below (way ++ [name])) =
            .error (.fault g (root.below (way ++ [name])).text) ∧ IsWant f ∧ IsWant g) ∧
        ∃ goal, apart goal ∧ s.LinkLeadsBy goal := by
  cases hnull : (root.below (way ++ [name])).holdsNull with
  | true =>
      left
      simp [locate, reach, hnull]
  | false =>
      cases hlong : (root.below (way ++ [name])).isLong with
      | true =>
          left
          simp [locate, reach, hnull, hlong]
      | false =>
          rcases leads_of_locate hroot with ⟨links, hle, hleads⟩
          rcases Nat.exists_eq_add_of_le hle with ⟨more, hlimit⟩
          have hleads' : Leads t links [] root.parts directory := hleads.frame h hdir
          have hfind : GoesOn .find (way ++ [name]) := Or.inl rfl
          have hparts : (root.below (way ++ [name])).parts = root.parts ++ (way ++ [name]) := rfl
          have hplace : ¬ apart directory :=
            fun hapart => (h.freeLeft _ hapart).not_dir entries hdir
          -- Both trees lead to the directory through the same links, so what is left is the way below.
          simp only [locate, reach_of_follow hnull hlong, hparts, hlimit,
            follow_append_of_leads hleads more _ hfind, follow_append_of_leads hleads' more _ hfind]
          have hmeets : ∀ goal rest, apart goal →
              ¬ Meets s more directory (way ++ [name]) goal rest := by
            intro goal rest hapart hmeets
            rcases goal_of_meets (h.freeLeft _ hapart) hway hnames hmeets with rfl | hlink
            · exact hnot hapart
            · exact hlinks goal hapart hlink
          rcases follow_frame h .find more hplace (way ++ [name]) with
            ⟨heq, hgoal⟩ | ⟨goal, hapart, hends⟩ | ⟨⟨f, g, hf, hg, hwant⟩, goal, rest, hapart, hmet⟩
          · left
            rw [← heq]
            refine ⟨rfl, ?_⟩
            intro goal hok
            refine hgoal goal ?_
            split at hok
            · next hfollow =>
              cases hok
              exact hfollow
            · cases hok
          · exact absurd hends (hmeets goal [] hapart)
          · right
            rw [hf, hg]
            refine ⟨⟨f, g, rfl, rfl, hwant⟩, goal, hapart, ?_⟩
            rcases hmet with hmet | hmet
            · exact absurd hmet (hmeets goal rest hapart)
            · exact linkLeadsBy_of_linkMeets hmet

/-! ## What is found at the end -/

theorem isDirAt_eq_of_locate (hlocate : s.locate path = t.locate path)
    (hend : ∀ goal, s.locate path = .ok goal → (s.at? goal).map shape = (t.at? goal).map shape) :
    s.isDirAt path = t.isDirAt path := by
  simp only [isDirAt, find?, ← hlocate]
  cases hgoal : s.locate path with
  | error error => rfl
  | ok goal =>
      rcases shape_cases (hend goal hgoal) with ⟨hs, ht⟩ | ⟨_, _, hs, ht⟩ | ⟨_, hs, ht⟩ | ⟨_, _, hs, ht⟩
      · simp [hs, ht]
      · simp [hs, ht, isDir]
      · simp [hs, ht]
      · simp [hs, ht, isDir]

theorem readBytes_eq_of_locate (hlocate : s.locate path = t.locate path)
    (hend : ∀ goal, s.locate path = .ok goal → (s.at? goal).map outline = (t.at? goal).map outline) :
    s.readBytes path = t.readBytes path := by
  simp only [readBytes, ← hlocate]
  cases hgoal : s.locate path with
  | error error => rfl
  | ok goal =>
      rcases outline_cases (hend goal hgoal) with hsame | ⟨_, _, hs, ht⟩
      · simp only [hsame]
      · simp only [hs, ht]

/-- Trees of the same shape lead every path to the same place. -/
theorem locate_eq_of_shape (h : ∀ place, (s.at? place).map shape = (t.at? place).map shape)
    (path : Path) : s.locate path = t.locate path := by
  simp only [locate, reach, follow_eq_of_shape h]

/-- A path to a directory leads there in both trees. -/
theorem locate_dir_frame (h : SameShapeBut apart s t) (hroot : s.locate root = .ok directory)
    (hdir : s.at? directory = some (dir entries)) : t.locate root = .ok directory := by
  rcases bounds_of_locate hroot with ⟨hnull, hlong⟩
  rcases leads_of_locate hroot with ⟨links, hle, hleads⟩
  exact locate_of_leads hnull hlong hle (hleads.frame h hdir)

end Node

end ImportLint
