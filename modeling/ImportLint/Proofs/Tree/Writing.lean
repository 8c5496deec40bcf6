import ImportLint.Proofs.Tree.Apart
import Mathlib.Data.List.Induction

/-!
# Writing files into a tree

A file system allows only some names, and no directory lists one twice; the trees that it can hold
are called file trees. Writing a file where there was one, or nothing, gives a file tree again.
Nothing but that file has changed, and without its files the tree is what it was (`rewritten_put`).
Writing what is there already changes nothing at all (`put_eq_self`).
-/

namespace ImportLint

namespace Entries

variable {name : Text} {node old : Node} {entries : Entries}

theorem map_fst_put (name : Text) (node : Node) (entries : Entries) :
    (put name node entries).map (·.1) =
      if name ∈ entries.map (·.1) then entries.map (·.1) else entries.map (·.1) ++ [name] := by
  induction entries with
  | nil => simp [put]
  | cons entry rest ih =>
      rcases entry with ⟨other, first⟩
      by_cases h : other = name
      · simp [put, h]
      · have hne : name ≠ other := Ne.symm h
        simp only [put, if_neg h, List.map_cons, ih, List.mem_cons, hne, false_or]
        split
        · rfl
        · rfl

theorem mem_map_fst_of_lookup (h : entries.lookup name = some node) : name ∈ entries.map (·.1) := by
  rcases List.lookup_eq_some_iff.1 h with ⟨before, after, rfl, -⟩
  simp

/-- An entry matters only by what it is without files. -/
theorem withoutFilesIn_put_of_lookup (h : entries.lookup name = some old)
    (hsame : node.withoutFiles = old.withoutFiles) :
    Node.withoutFilesIn (put name node entries) = Node.withoutFilesIn entries := by
  induction entries with
  | nil => cases h
  | cons entry rest ih =>
      rcases entry with ⟨other, first⟩
      by_cases hother : other = name
      · subst hother
        simp only [List.lookup_cons, beq_self_eq_true, Option.some.injEq] at h
        simp [put, Node.withoutFilesIn, hsame, h]
      · have hb : (name == other) = false := beq_false_of_ne (Ne.symm hother)
        simp only [List.lookup_cons, hb] at h
        simp [put, hother, Node.withoutFilesIn, ih h]

theorem withoutFilesIn_put_file (h : entries.lookup name = none) (bytes : List UInt8) :
    Node.withoutFilesIn (put name (.file bytes) entries) = Node.withoutFilesIn entries := by
  induction entries with
  | nil => simp [put, Node.withoutFilesIn, Node.withoutFiles]
  | cons entry rest ih =>
      rcases entry with ⟨other, first⟩
      by_cases hother : other = name
      · subst hother
        simp at h
      · have hb : (name == other) = false := beq_false_of_ne (Ne.symm hother)
        simp only [List.lookup_cons, hb] at h
        simp [put, hother, Node.withoutFilesIn, ih h]

end Entries

namespace Node

variable {tree s t u node child : Node} {entries : Entries} {apart : Place → Prop}
  {place directory : Place} {name : Text} {bytes : List UInt8}

/-! ## File trees -/

structure IsFileName (name : Text) : Prop where
  isName : IsName name
  noSlash : '/' ∉ name
  noNull : '\x00' ∉ name

instance (name : Text) : Decidable (IsFileName name) :=
  decidable_of_iff (Path.isIdle name = false ∧ Path.isUp name = false ∧ '/' ∉ name ∧ '\x00' ∉ name)
    ⟨fun h => ⟨⟨h.1, h.2.1⟩, h.2.2.1, h.2.2.2⟩,
      fun h => ⟨h.isName.notIdle, h.isName.notUp, h.noSlash, h.noNull⟩⟩

theorem IsFileName.contains_null (h : IsFileName name) : name.contains '\x00' = false := by
  simpa using h.noNull

/-- A tree that a file system can hold: every directory lists names that are allowed, and none of
them twice. -/
def IsFileTree (tree : Node) : Prop :=
  ∀ place entries, tree.at? place = some (dir entries) →
    (entries.map (·.1)).Nodup ∧ ∀ name ∈ entries.map (·.1), IsFileName name

theorem IsFileTree.wellNamed (h : tree.IsFileTree) : tree.WellNamed := by
  intro place entries hdir
  rcases h place entries hdir with ⟨hnodup, hnames⟩
  refine ⟨hnodup, ?_⟩
  intro entry hentry
  exact (hnames entry.1 (List.mem_map.2 ⟨entry, hentry, rfl⟩)).noSlash

theorem IsFileTree.isFileName (h : tree.IsFileTree) (hnode : tree.at? (place ++ [name]) = some node) :
    IsFileName name := by
  rcases exists_dir_of_at?_concat hnode with ⟨entries, hdir⟩
  rcases h place entries hdir with ⟨hnodup, hnames⟩
  rw [← lookup_eq_at? hdir, Entries.lookup_eq_some_iff_mem hnodup] at hnode
  exact hnames name (List.mem_map.2 ⟨_, hnode, rfl⟩)

/-- All names on the way to a node are allowed. -/
theorem IsFileTree.isFileName_of_mem (h : tree.IsFileTree) :
    ∀ {place node}, tree.at? place = some node → ∀ name ∈ place, IsFileName name := by
  intro place
  induction place using List.reverseRecOn with
  | nil =>
      intro node _ name hname
      exact absurd hname List.not_mem_nil
  | append_singleton place last ih =>
      intro node hnode name hname
      rcases exists_dir_of_at?_concat hnode with ⟨entries, hdir⟩
      rcases List.mem_append.1 hname with hname | hname
      · exact ih hdir name hname
      · rw [List.mem_singleton.1 hname]
        exact h.isFileName hnode

theorem isFileTree_file (bytes : List UInt8) : (file bytes).IsFileTree := by
  intro place entries h
  cases place with
  | nil => simp [at?] at h
  | cons name place => simp [at?] at h

theorem isFileTree_link (target : Text) : (link target).IsFileTree := by
  intro place entries h
  cases place with
  | nil => simp [at?] at h
  | cons name place => simp [at?] at h

theorem isFileTree_dir (hnodup : (entries.map (·.1)).Nodup)
    (hentries : ∀ entry ∈ entries, IsFileName entry.1 ∧ entry.2.IsFileTree) :
    (dir entries).IsFileTree := by
  intro place inner h
  cases place with
  | nil =>
      cases h
      refine ⟨hnodup, ?_⟩
      intro name hname
      rcases List.mem_map.1 hname with ⟨entry, hentry, rfl⟩
      exact (hentries entry hentry).1
  | cons name place =>
      rcases Option.bind_eq_some_iff.1 h with ⟨child, hchild, hinner⟩
      have hmem := (Entries.lookup_eq_some_iff_mem hnodup).1 hchild
      exact (hentries _ hmem).2 place inner hinner

mutual

def passes : Node → Bool
  | file _ => true
  | link _ => true
  | dir entries => decide (entries.map (·.1)).Nodup && passesIn entries

def passesIn : Entries → Bool
  | [] => true
  | (name, node) :: rest => decide (IsFileName name) && passes node && passesIn rest

end

theorem of_passesIn {entry : Text × Node} (h : passesIn entries = true) (hentry : entry ∈ entries) :
    IsFileName entry.1 ∧ passes entry.2 = true := by
  induction entries with
  | nil => exact absurd hentry List.not_mem_nil
  | cons first rest ih =>
      simp only [passesIn, Bool.and_eq_true, decide_eq_true_eq] at h
      rcases List.mem_cons.1 hentry with rfl | hentry
      · exact h.1
      · exact ih h.2 hentry

theorem isFileTree_of_passes (h : passes tree = true) : tree.IsFileTree := by
  induction tree using entry_induction with
  | file bytes => exact isFileTree_file bytes
  | link target => exact isFileTree_link target
  | dir entries ih =>
      simp only [passes, Bool.and_eq_true, decide_eq_true_eq] at h
      refine isFileTree_dir h.1 ?_
      intro entry hentry
      rcases of_passesIn h.2 hentry with ⟨hname, hnode⟩
      exact ⟨hname, ih entry hentry hnode⟩

/-! ## One file written -/

theorem put_cons (h : entries.lookup name = some child) (hplace : place ≠ []) (node : Node) :
    (dir entries).put (name :: place) node = dir (Entries.put name (child.put place node) entries) := by
  cases place with
  | nil => exact absurd rfl hplace
  | cons second rest => simp [put, h]

/-- What a place with a directory consists of, from the top. -/
theorem exists_child_of_at? {first : Text} {rest : Place}
    (h : tree.at? (first :: rest) = some node) :
    ∃ entries child, tree = dir entries ∧ entries.lookup first = some child ∧
      child.at? rest = some node := by
  cases tree with
  | file bytes => simp [at?] at h
  | link target => simp [at?] at h
  | dir entries =>
      rcases Option.bind_eq_some_iff.1 h with ⟨child, hchild, hrest⟩
      exact ⟨entries, child, rfl, hchild, hrest⟩

theorem at?_put_self (node : Node) : ∀ {directory : Place} {tree : Node},
    tree.at? directory = some (dir entries) →
      (tree.put (directory ++ [name]) node).at? (directory ++ [name]) = some node := by
  intro directory
  induction directory with
  | nil =>
      intro tree h
      cases h
      simp [put, at?, Entries.lookup_put_self]
  | cons first rest ih =>
      intro tree h
      rcases exists_child_of_at? h with ⟨entries, child, rfl, hchild, hrest⟩
      rw [List.cons_append, put_cons hchild (by simp)]
      simp only [at?, Entries.lookup_put_self, Option.bind_some]
      exact ih hrest

theorem at?_cons_of_free {rest : Place} (hfree : tree.IsFree [name]) (hne : rest ≠ []) :
    tree.at? (name :: rest) = none := by
  have happend : tree.at? (name :: rest) = (tree.at? [name]).bind (at? rest) := at?_append tree [name] rest
  rw [happend]
  cases hnode : tree.at? [name] with
  | none => rfl
  | some node =>
      rcases hfree node hnode with ⟨bytes, rfl⟩
      cases rest with
      | nil => exact absurd rfl hne
      | cons second rest => rfl

theorem isFree_of_lookup {first : Text} {rest : Place} (h : (dir entries).IsFree (first :: rest))
    (hchild : entries.lookup first = some child) : child.IsFree rest := by
  intro node hnode
  refine h node ?_
  simp [at?, hchild, hnode]

/-- A file written where there was one, or nothing, leaves all other places as they are. -/
theorem outline_at?_put (bytes : List UInt8) : ∀ {directory place : Place} {tree : Node},
    tree.at? directory = some (dir entries) → tree.IsFree (directory ++ [name]) →
      place ≠ directory ++ [name] →
      ((tree.put (directory ++ [name]) (file bytes)).at? place).map outline =
        (tree.at? place).map outline := by
  intro directory
  induction directory with
  | nil =>
      intro place tree h hfree hne
      cases h
      cases place with
      | nil => rfl
      | cons first rest =>
          by_cases hfirst : first = name
          · -- Below a file there is nothing, neither before nor after.
            subst hfirst
            have hrest : rest ≠ [] := by
              rintro rfl
              exact hne rfl
            rw [at?_cons_of_free hfree hrest]
            cases rest with
            | nil => exact absurd rfl hrest
            | cons second rest =>
                rw [List.nil_append, put]
                simp only [at?, Entries.lookup_put_self, Option.bind_some, Option.map_none]
          · rw [List.nil_append, put]
            simp only [at?, Entries.lookup_put_of_ne hfirst]
  | cons first further ih =>
      intro place tree h hfree hne
      rcases exists_child_of_at? h with ⟨entries, child, rfl, hchild, hrest⟩
      rw [List.cons_append, put_cons hchild (by simp)]
      cases place with
      | nil => rfl
      | cons other rest =>
          by_cases hother : other = first
          · subst hother
            have hne' : rest ≠ further ++ [name] := by
              rintro rfl
              exact hne rfl
            simp only [at?, Entries.lookup_put_self, hchild, Option.bind_some]
            exact ih hrest (isFree_of_lookup hfree hchild) hne'
          · simp only [at?, Entries.lookup_put_of_ne hother]

theorem withoutFiles_put (bytes : List UInt8) : ∀ {directory : Place} {tree : Node},
    tree.at? directory = some (dir entries) → tree.IsFree (directory ++ [name]) →
      (tree.put (directory ++ [name]) (file bytes)).withoutFiles = tree.withoutFiles := by
  intro directory
  induction directory with
  | nil =>
      intro tree h hfree
      cases h
      rw [List.nil_append, put, withoutFiles, withoutFiles]
      congr 1
      cases hold : entries.lookup name with
      | none => exact Entries.withoutFilesIn_put_file hold bytes
      | some old =>
          rcases hfree old (by simp [at?, hold]) with ⟨oldBytes, rfl⟩
          exact Entries.withoutFilesIn_put_of_lookup hold (by rw [withoutFiles, withoutFiles])
  | cons first rest ih =>
      intro tree h hfree
      rcases exists_child_of_at? h with ⟨inner, child, rfl, hchild, hrest⟩
      rw [List.cons_append, put_cons hchild (by simp), withoutFiles, withoutFiles]
      congr 1
      exact Entries.withoutFilesIn_put_of_lookup hchild (ih hrest (isFree_of_lookup hfree hchild))

/-- A directory lists the names that it listed before, and at most one more. -/
theorem names_put (bytes : List UInt8) : ∀ {directory place : Place} {tree : Node} {listed : Entries},
    tree.at? directory = some (dir entries) →
      (tree.put (directory ++ [name]) (file bytes)).at? place = some (dir listed) →
      ∃ before, tree.at? place = some (dir before) ∧
        (listed.map (·.1) = before.map (·.1) ∨
          name ∉ before.map (·.1) ∧ listed.map (·.1) = before.map (·.1) ++ [name]) := by
  intro directory
  induction directory with
  | nil =>
      intro place tree listed h hlisted
      cases h
      rw [List.nil_append, put] at hlisted
      cases place with
      | nil =>
          cases hlisted
          refine ⟨entries, rfl, ?_⟩
          rw [Entries.map_fst_put]
          by_cases hname : name ∈ entries.map (·.1)
          · exact Or.inl (if_pos hname)
          · exact Or.inr ⟨hname, if_neg hname⟩
      | cons first rest =>
          by_cases hfirst : first = name
          · -- A file lists nothing.
            subst hfirst
            simp only [at?, Entries.lookup_put_self, Option.bind_some] at hlisted
            cases rest with
            | nil => cases hlisted
            | cons second rest => cases hlisted
          · simp only [at?, Entries.lookup_put_of_ne hfirst] at hlisted
            exact ⟨listed, hlisted, Or.inl rfl⟩
  | cons first further ih =>
      intro place tree listed h hlisted
      rcases exists_child_of_at? h with ⟨inner, child, rfl, hchild, hrest⟩
      rw [List.cons_append, put_cons hchild (by simp)] at hlisted
      cases place with
      | nil =>
          -- The way to the file passes an entry of this directory, so no name is added here.
          cases hlisted
          have hmem : first ∈ inner.map (·.1) := Entries.mem_map_fst_of_lookup hchild
          exact ⟨inner, rfl, Or.inl (by rw [Entries.map_fst_put, if_pos hmem])⟩
      | cons other rest =>
          by_cases hother : other = first
          · subst hother
            simp only [at?, Entries.lookup_put_self, Option.bind_some] at hlisted
            rcases ih hrest hlisted with ⟨before, hbefore, hnames⟩
            exact ⟨before, by simp [at?, hchild, hbefore], hnames⟩
          · simp only [at?, Entries.lookup_put_of_ne hother] at hlisted
            exact ⟨listed, hlisted, Or.inl rfl⟩

theorem IsFileTree.put (h : tree.IsFileTree) (hdir : tree.at? directory = some (dir entries))
    (hname : IsFileName name) (bytes : List UInt8) :
    (tree.put (directory ++ [name]) (file bytes)).IsFileTree := by
  intro place listed hlisted
  rcases names_put bytes hdir hlisted with ⟨before, hbefore, hsame | ⟨hnew, hmore⟩⟩
  · rw [hsame]
    exact h place before hbefore
  · rcases h place before hbefore with ⟨hnodup, hnames⟩
    rw [hmore]
    refine ⟨List.nodup_append.2 ⟨hnodup, List.nodup_singleton name, ?_⟩, ?_⟩
    · intro other hother last hlast heq
      rw [List.mem_singleton.1 hlast] at heq
      exact hnew (heq ▸ hother)
    · intro other hother
      rcases List.mem_append.1 hother with hother | hother
      · exact hnames other hother
      · rw [List.mem_singleton.1 hother]
        exact hname

/-! ## Some files written -/

/-- One tree has become the other by writing files at some places, where there was a file or
nothing. -/
structure Rewritten (apart : Place → Prop) (s t : Node) : Prop where
  same : ∀ place, ¬ apart place → (s.at? place).map outline = (t.at? place).map outline
  freeLeft : ∀ place, apart place → s.IsFree place
  freeRight : ∀ place, apart place → t.IsFree place
  fileTree : s.IsFileTree → t.IsFileTree
  withoutFiles : t.withoutFiles = s.withoutFiles

theorem Rewritten.refl (h : ∀ place, apart place → s.IsFree place) : Rewritten apart s s :=
  ⟨fun _ _ => rfl, h, h, id, rfl⟩

theorem Rewritten.trans (h : Rewritten apart s t) (h' : Rewritten apart t u) :
    Rewritten apart s u where
  same := fun place hplace => (h.same place hplace).trans (h'.same place hplace)
  freeLeft := h.freeLeft
  freeRight := h'.freeRight
  fileTree := fun hs => h'.fileTree (h.fileTree hs)
  withoutFiles := h'.withoutFiles.trans h.withoutFiles

theorem shape_eq_of_outline_eq {a b : Option Node} (h : a.map outline = b.map outline) :
    a.map shape = b.map shape := by
  rcases outline_cases h with rfl | ⟨entries, entries', rfl, rfl⟩
  · rfl
  · rfl

theorem Rewritten.sameShapeBut (h : Rewritten apart s t) : SameShapeBut apart s t :=
  ⟨fun place hplace => shape_eq_of_outline_eq (h.same place hplace), h.freeLeft, h.freeRight⟩

theorem rewritten_put (hdir : s.at? directory = some (dir entries)) (hname : IsFileName name)
    (hfree : ∀ place, apart place → s.IsFree place) (hapart : apart (directory ++ [name]))
    (bytes : List UInt8) : Rewritten apart s (s.put (directory ++ [name]) (file bytes)) where
  same := by
    intro place hplace
    have hne : place ≠ directory ++ [name] := by
      rintro rfl
      exact hplace hapart
    exact (outline_at?_put bytes hdir (hfree _ hapart) hne).symm
  freeLeft := hfree
  freeRight := by
    intro place hplace node hnode
    by_cases heq : place = directory ++ [name]
    · subst heq
      rw [at?_put_self _ hdir] at hnode
      cases hnode
      exact ⟨bytes, rfl⟩
    · rcases outline_cases (outline_at?_put bytes hdir (hfree _ hapart) heq) with
        hsame | ⟨_, entries', -, hdir'⟩
      · exact hfree place hplace node (hsame ▸ hnode)
      · exact absurd hdir' ((hfree place hplace).not_dir entries')
  fileTree := fun hs => hs.put hdir hname bytes
  withoutFiles := withoutFiles_put bytes hdir (hfree _ hapart)

end Node

end ImportLint
