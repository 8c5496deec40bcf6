import ImportLint.Discovery
import ImportLint.Proofs.Tree.Places

/-!
# What a walk finds

The walk goes down a tree and stops wherever a directory is not to be entered. It finds a file just
if no directory on the way there stops it (`mem_filesAt_iff`), and it finds no file twice.
-/

namespace ImportLint

namespace Node

variable {enters isDirLink : Place → Bool} {place file rest : Place} {node : Node}
  {entries : Entries}

/-- What counts as a file: all but directories and links to directories, where `leadsToDir` says
whether following the node ends at one. -/
def CountsAsFile (leadsToDir : Bool) : Node → Prop
  | .file _ => True
  | .link _ => leadsToDir = false
  | .dir _ => False

/-- A walk that has come to a node at `place` finds a file if it goes on along `rest`: it enters
every directory on the way, the one at `place` included, and there is a file at the end. -/
structure Finds (enters isDirLink : Place → Bool) (place : Place) (node : Node)
    (rest : Place) : Prop where
  entered : ∀ way, way <+: rest → way ≠ rest → enters (place ++ way) = true
  found : ∃ leaf, node.at? rest = some leaf ∧ leaf.CountsAsFile (isDirLink (place ++ rest))

/-- The same for a walk that starts among the entries of a directory at `place`, where no one asks
whether that directory is to be entered. -/
def FindsBelow (enters isDirLink : Place → Bool) (place : Place) (entries : Entries)
    (file : Place) : Prop :=
  ∃ name rest child, file = place ++ name :: rest ∧ entries.lookup name = some child ∧
    Finds enters isDirLink (place ++ [name]) child rest

/-! ## Step by step -/

theorem finds_nil_iff :
    Finds enters isDirLink place node [] ↔ node.CountsAsFile (isDirLink place) := by
  constructor
  · intro h
    rcases h.found with ⟨leaf, hleaf, hcounts⟩
    cases hleaf
    simpa using hcounts
  · intro h
    refine ⟨?_, node, rfl, by simpa using h⟩
    intro way hway hne
    exact absurd (List.prefix_nil.1 hway) hne

/-- The first step of a walk below a directory. -/
theorem finds_cons_iff {name : Text} :
    Finds enters isDirLink place (dir entries) (name :: rest) ↔
      enters place = true ∧ ∃ child, entries.lookup name = some child ∧
        Finds enters isDirLink (place ++ [name]) child rest := by
  constructor
  · intro h
    rcases h.found with ⟨leaf, hleaf, hcounts⟩
    rcases Option.bind_eq_some_iff.1 hleaf with ⟨child, hchild, hrest⟩
    refine ⟨?_, child, hchild, ?_, leaf, hrest, by simpa using hcounts⟩
    · simpa using h.entered [] List.nil_prefix (List.cons_ne_nil name rest).symm
    · intro way hway hne
      have hlonger : name :: way ≠ name :: rest := fun heq => hne (List.cons.inj heq).2
      simpa using h.entered (name :: way) (List.cons_prefix_cons.2 ⟨rfl, hway⟩) hlonger
  · rintro ⟨hplace, child, hchild, h⟩
    rcases h.found with ⟨leaf, hleaf, hcounts⟩
    refine ⟨?_, leaf, by simp [at?, hchild, hleaf], by simpa using hcounts⟩
    intro way hway hne
    rcases List.prefix_cons_iff.1 hway with rfl | ⟨further, rfl, hfurther⟩
    · simpa using hplace
    · have hshorter : further ≠ rest := fun heq => hne (congrArg (name :: ·) heq)
      simpa using h.entered further hfurther hshorter

theorem not_finds_cons {name : Text} (h : node.isDir = false) :
    ¬ Finds enters isDirLink place node (name :: rest) := by
  intro hfinds
  rcases hfinds.found with ⟨leaf, hleaf, -⟩
  cases node with
  | file bytes => simp [at?] at hleaf
  | link target => simp [at?] at hleaf
  | dir entries => simp [isDir] at h

/-- A walk goes nowhere from what is no directory. -/
theorem exists_finds_iff (h : node.isDir = false) :
    (∃ rest, file = place ++ rest ∧ Finds enters isDirLink place node rest) ↔
      file = place ∧ node.CountsAsFile (isDirLink place) := by
  constructor
  · rintro ⟨rest, rfl, hfinds⟩
    cases rest with
    | nil => exact ⟨List.append_nil place, finds_nil_iff.1 hfinds⟩
    | cons name rest => exact absurd hfinds (not_finds_cons h)
  · rintro ⟨rfl, hcounts⟩
    exact ⟨[], (List.append_nil file).symm, finds_nil_iff.2 hcounts⟩

/-! ## Whole walks -/

theorem filesBelow_eq_flatMap (enters isDirLink : Place → Bool) (place : Place)
    (entries : Entries) :
    filesBelow enters isDirLink place entries =
      entries.flatMap fun entry => filesAt enters isDirLink (place ++ [entry.1]) entry.2 := by
  induction entries with
  | nil => simp [filesBelow]
  | cons entry rest ih => simp [filesBelow, ih]

/-- A walk below a directory is a walk below one of its entries. -/
theorem mem_filesBelow_iff_of_entries (hnodup : (entries.map (·.1)).Nodup)
    (heach : ∀ entry ∈ entries, file ∈ filesAt enters isDirLink (place ++ [entry.1]) entry.2 ↔
      ∃ rest, file = place ++ [entry.1] ++ rest ∧
        Finds enters isDirLink (place ++ [entry.1]) entry.2 rest) :
    file ∈ filesBelow enters isDirLink place entries ↔
      FindsBelow enters isDirLink place entries file := by
  rw [filesBelow_eq_flatMap]
  constructor
  · intro hfile
    rcases List.mem_flatMap.1 hfile with ⟨⟨name, child⟩, hentry, hbelow⟩
    rcases (heach _ hentry).1 hbelow with ⟨rest, heq, hfinds⟩
    have hchild := (Entries.lookup_eq_some_iff_mem hnodup).2 hentry
    exact ⟨name, rest, child, by simpa using heq, hchild, hfinds⟩
  · rintro ⟨name, rest, child, heq, hchild, hfinds⟩
    have hentry := (Entries.lookup_eq_some_iff_mem hnodup).1 hchild
    refine List.mem_flatMap.2 ⟨(name, child), hentry, ?_⟩
    exact (heach _ hentry).2 ⟨rest, by simpa using heq, hfinds⟩

theorem mem_filesAt_iff (h : node.WellNamed) :
    file ∈ filesAt enters isDirLink place node ↔
      ∃ rest, file = place ++ rest ∧ Finds enters isDirLink place node rest := by
  -- Over the tree, for every place at once: the entries stand at places of their own.
  induction node using entry_induction generalizing place with
  | file bytes =>
      rw [exists_finds_iff rfl]
      simp [filesAt, CountsAsFile]
  | link target =>
      rw [exists_finds_iff rfl]
      cases hlink : isDirLink place with
      | true => simp [filesAt, CountsAsFile, hlink]
      | false => simp [filesAt, CountsAsFile, hlink]
  | dir entries ih =>
      rcases wellNamed_dir_iff.1 h with ⟨hnodup, hentries⟩
      have hbelow : file ∈ filesBelow enters isDirLink place entries ↔
          FindsBelow enters isDirLink place entries file :=
        mem_filesBelow_iff_of_entries hnodup
          fun entry hentry => ih entry hentry (hentries entry hentry).2
      constructor
      · intro hfile
        by_cases hplace : enters place = true
        · rw [filesAt, if_pos hplace] at hfile
          rcases hbelow.1 hfile with ⟨name, rest, child, heq, hchild, hfinds⟩
          exact ⟨name :: rest, heq, finds_cons_iff.2 ⟨hplace, child, hchild, hfinds⟩⟩
        · simp [filesAt, hplace] at hfile
      · rintro ⟨rest, heq, hfinds⟩
        cases rest with
        | nil =>
            -- A directory is no file itself.
            exact absurd (finds_nil_iff.1 hfinds) id
        | cons name rest =>
            rcases finds_cons_iff.1 hfinds with ⟨hplace, child, hchild, hfurther⟩
            rw [filesAt, if_pos hplace]
            exact hbelow.2 ⟨name, rest, child, heq, hchild, hfurther⟩

theorem mem_filesBelow_iff (h : (dir entries).WellNamed) :
    file ∈ filesBelow enters isDirLink place entries ↔
      FindsBelow enters isDirLink place entries file := by
  rcases wellNamed_dir_iff.1 h with ⟨hnodup, hentries⟩
  refine mem_filesBelow_iff_of_entries hnodup ?_
  intro entry hentry
  exact mem_filesAt_iff (hentries entry hentry).2

/-- The walks below different names find different files. -/
theorem nodup_filesBelow_of_entries (h : (dir entries).WellNamed)
    (heach : ∀ entry ∈ entries, (filesAt enters isDirLink (place ++ [entry.1]) entry.2).Nodup) :
    (filesBelow enters isDirLink place entries).Nodup := by
  rcases wellNamed_dir_iff.1 h with ⟨hnodup, hentries⟩
  rw [filesBelow_eq_flatMap]
  refine List.nodup_flatMap.2 ⟨heach, ?_⟩
  refine (List.pairwise_map.1 hnodup).imp_of_mem ?_
  intro first second hfirst hsecond hne file hmem hmem'
  rcases (mem_filesAt_iff (hentries first hfirst).2).1 hmem with ⟨rest, rfl, -⟩
  rcases (mem_filesAt_iff (hentries second hsecond).2).1 hmem' with ⟨rest', heq, -⟩
  simp only [List.append_assoc, List.append_cancel_left_eq, List.singleton_append] at heq
  exact hne (List.cons.inj heq).1

theorem nodup_filesAt (h : node.WellNamed) : (filesAt enters isDirLink place node).Nodup := by
  induction node using entry_induction generalizing place with
  | file bytes => simp [filesAt]
  | link target =>
      cases hlink : isDirLink place with
      | true => simp [filesAt, hlink]
      | false => simp [filesAt, hlink]
  | dir entries ih =>
      by_cases hplace : enters place = true
      · rw [filesAt, if_pos hplace]
        refine nodup_filesBelow_of_entries h ?_
        intro entry hentry
        exact ih entry hentry ((wellNamed_dir_iff.1 h).2 entry hentry).2
      · simp [filesAt, hplace]

theorem nodup_filesBelow (h : (dir entries).WellNamed) :
    (filesBelow enters isDirLink place entries).Nodup := by
  refine nodup_filesBelow_of_entries h ?_
  intro entry hentry
  exact nodup_filesAt ((wellNamed_dir_iff.1 h).2 entry hentry).2

end Node

end ImportLint
