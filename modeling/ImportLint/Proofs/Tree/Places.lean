import ImportLint.Tree.Node
import Mathlib.Data.List.Nodup
import Mathlib.Data.List.Perm.Basic

/-!
# Places in a tree

A tree of files has no directory that lists a name twice and no name with a slash. Such trees are
called well-named. In them a directory is known by what its names lead to, in whatever order it
lists them, and a place is known by its relative path.
-/

namespace ImportLint

open Node

/-! ## Named entries -/

namespace Entries

variable {α : Type*} {name : Text} {node : α} {entries : List (Text × α)}

theorem lookup_eq_some_iff_mem :
    (entries.map (·.1)).Nodup → (entries.lookup name = some node ↔ (name, node) ∈ entries) := by
  induction entries with
  | nil =>
      intro _
      simp
  | cons entry rest ih =>
      intro hnodup
      rcases entry with ⟨first, old⟩
      rcases List.nodup_cons.1 hnodup with ⟨hfirst, hrest⟩
      by_cases h : name = first
      · -- The name stands here and therefore nowhere below.
        subst h
        have hbelow : (name, node) ∉ rest := fun hmem => hfirst (List.mem_map.2 ⟨_, hmem, rfl⟩)
        simp [hbelow, eq_comm]
      · have hb : (name == first) = false := beq_false_of_ne h
        simp [List.lookup_cons, hb, h, ih hrest]

theorem lookup_perm {entries' : List (Text × α)} (h : entries.Perm entries')
    (hnodup : (entries.map (·.1)).Nodup) (name : Text) :
    entries.lookup name = entries'.lookup name := by
  have hnodup' : (entries'.map (·.1)).Nodup := (h.map (·.1)).nodup_iff.1 hnodup
  refine Option.ext ?_
  intro node
  rw [lookup_eq_some_iff_mem hnodup, lookup_eq_some_iff_mem hnodup', h.mem_iff]

end Entries

namespace Node

variable {tree node : Node} {entries : Entries} {place rest : Place}

/-! ## Going down -/

theorem at?_append (tree : Node) (place rest : Place) :
    tree.at? (place ++ rest) = (tree.at? place).bind (at? rest) := by
  induction place generalizing tree with
  | nil => rfl
  | cons name place ih =>
      cases tree with
      | file bytes => rfl
      | link target => rfl
      | dir entries =>
          cases h : entries.lookup name with
          | none => simp [at?, h]
          | some child => simp [at?, h, ih]

theorem lookup_eq_at? (h : tree.at? place = some (dir entries)) (name : Text) :
    entries.lookup name = tree.at? (place ++ [name]) := by
  rw [at?_append, h]
  simp [at?]

/-- To prove something of every node, prove it of a directory for whose entries it is known. -/
theorem entry_induction {motive : Node → Prop} (file : ∀ bytes, motive (file bytes))
    (link : ∀ target, motive (link target))
    (dir : ∀ entries, (∀ entry ∈ entries, motive entry.2) → motive (dir entries)) (node : Node) :
    motive node := by
  cases node with
  | file bytes => exact file bytes
  | link target => exact link target
  | dir entries =>
      refine dir entries ?_
      intro entry hentry
      have hlist : sizeOf entry < sizeOf entries := List.sizeOf_lt_of_mem hentry
      have hpair : sizeOf entry = 1 + sizeOf entry.1 + sizeOf entry.2 := by
        rcases entry with ⟨name, child⟩
        rfl
      exact entry_induction file link dir entry.2
termination_by sizeOf node
decreasing_by
  simp only [Node.dir.sizeOf_spec]
  omega

/-! ## Well-named trees -/

/-- Every directory of the tree lists names without slashes, and none of them twice. -/
def WellNamed (tree : Node) : Prop :=
  ∀ place entries, tree.at? place = some (dir entries) →
    (entries.map (·.1)).Nodup ∧ ∀ entry ∈ entries, '/' ∉ entry.1

theorem WellNamed.of_at? (h : tree.WellNamed) (hnode : tree.at? place = some node) :
    node.WellNamed := by
  intro rest entries hrest
  refine h (place ++ rest) entries ?_
  rw [at?_append, hnode]
  exact hrest

theorem wellNamed_file (bytes : List UInt8) : (file bytes).WellNamed := by
  intro place entries h
  cases place with
  | nil => simp [at?] at h
  | cons name place => simp [at?] at h

theorem wellNamed_link (target : Text) : (link target).WellNamed := by
  intro place entries h
  cases place with
  | nil => simp [at?] at h
  | cons name place => simp [at?] at h

theorem wellNamed_dir_iff :
    (dir entries).WellNamed ↔
      (entries.map (·.1)).Nodup ∧ ∀ entry ∈ entries, '/' ∉ entry.1 ∧ entry.2.WellNamed := by
  constructor
  · intro h
    rcases h [] entries rfl with ⟨hnodup, hslash⟩
    refine ⟨hnodup, ?_⟩
    intro entry hentry
    have hthere : (dir entries).at? [entry.1] = some entry.2 := by
      simp [at?, (Entries.lookup_eq_some_iff_mem hnodup).2 hentry]
    exact ⟨hslash entry hentry, h.of_at? hthere⟩
  · rintro ⟨hnodup, hentries⟩ place inner h
    cases place with
    | nil =>
        cases h
        exact ⟨hnodup, fun entry hentry => (hentries entry hentry).1⟩
    | cons name place =>
        rcases Option.bind_eq_some_iff.1 h with ⟨child, hchild, hinner⟩
        have hmem := (Entries.lookup_eq_some_iff_mem hnodup).1 hchild
        exact (hentries _ hmem).2 place inner hinner

theorem WellNamed.slash_notMem :
    ∀ {place : Place} {tree : Node}, tree.WellNamed → tree.at? place = some node →
      ∀ name ∈ place, '/' ∉ name := by
  intro place
  induction place with
  | nil =>
      intro tree _ _ name hname
      exact absurd hname List.not_mem_nil
  | cons first place ih =>
      intro tree hnamed hnode
      cases tree with
      | file bytes => simp [at?] at hnode
      | link target => simp [at?] at hnode
      | dir entries =>
          rcases Option.bind_eq_some_iff.1 hnode with ⟨child, hchild, hrest⟩
          rcases wellNamed_dir_iff.1 hnamed with ⟨hnodup, hentries⟩
          have hmem := (Entries.lookup_eq_some_iff_mem hnodup).1 hchild
          intro name hname
          rcases List.mem_cons.1 hname with rfl | hname
          · exact (hentries _ hmem).1
          · exact ih (hentries _ hmem).2 hrest name hname

end Node

/-- The relative path of a place goes on behind a slash. -/
theorem Place.relative_append {place rest : Place} (hplace : place ≠ []) (hrest : rest ≠ []) :
    (place ++ rest).relative = place.relative ++ '/' :: rest.relative := by
  induction place with
  | nil => exact absurd rfl hplace
  | cons name place ih =>
      by_cases hlast : place = []
      · subst hlast
        simp [relative, Path.unsplit, Text.join, List.intercalate_cons_of_ne_nil hrest]
      · have hmore : place ++ rest ≠ [] := by simp [hlast]
        have htail := ih hlast
        simp only [relative, Path.unsplit, Text.join] at htail ⊢
        rw [List.cons_append, List.intercalate_cons_of_ne_nil hmore, htail,
          List.intercalate_cons_of_ne_nil hlast]
        simp only [List.append_assoc]

/-- Names without slashes can be read off the path they are joined to. -/
theorem Place.relative_inj {place other : Place} (hplace : ∀ name ∈ place, '/' ∉ name)
    (hother : ∀ name ∈ other, '/' ∉ name) (hne : place ≠ []) (hne' : other ≠ [])
    (h : place.relative = other.relative) : place = other := by
  have hcut : ∀ names : Place, (∀ name ∈ names, '/' ∉ name) → names ≠ [] →
      Path.split names.relative = names :=
    fun names hnames hne => List.splitOn_intercalate '/' hnames hne
  rw [← hcut place hplace hne, ← hcut other hother hne', h]

end ImportLint
