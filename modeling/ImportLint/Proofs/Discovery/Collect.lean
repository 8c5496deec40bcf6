import ImportLint.Proofs.Discovery.Walk
import ImportLint.Proofs.Text.Order
import ImportLint.Proofs.Tree.Relisting
import Mathlib.Data.List.Infix

/-!
# Discovery is exact

The files that are collected below a directory are described without the walk: by where they stand
(`HasFileBelow`), by what the patterns say about them and about the directories above them
(`IsWanted`), and by whether the paths of these directories can be followed (`Path.FitsAbove`). The
description does not mention the order in which directories list their entries, and a strictly
increasing list is known by its elements, so the result does not depend on it either.
-/

namespace ImportLint

open Node

variable {tree tree' : Node} {root : Path} {selection : Selection} {file : Place}
  {included excluded extensions : List Text}

/-! ## Wanted files -/

/-- A file stands at a place below the directory to which `root` leads: the names of the place lead
there through directories only, and what stands there is neither a directory nor a link to one. A link
whose own path is too long to be followed counts as a file, whatever its target is. -/
def Node.HasFileBelow (tree : Node) (root : Path) (file : Place) : Prop :=
  file ≠ [] ∧ ∃ node, (tree.find? root).bind (at? file) = some node ∧
    node.CountsAsFile (tree.isDirAt (root.below file))

/-- What makes a file wanted. Patterns are matched against relative paths, and those of directories
end with a slash. -/
structure IsWanted (tree : Node) (root : Path) (included excluded extensions : List Text)
    (file : Place) : Prop where
  reached : tree.HasFileBelow root file
  extension : ∃ name, file.getLast? = some name ∧ Text.lower (Extension.ofName name) ∈ extensions
  directories : ∀ directory : Place, directory <+: file → directory ≠ [] → directory ≠ file →
    ∀ pattern ∈ Selection.alwaysExcluded ++ excluded,
      (Glob.ofText pattern).accepts (directory.relative ++ ['/']) = false
  notExcluded : ∀ pattern ∈ Selection.alwaysExcluded ++ excluded,
    (Glob.ofText pattern).accepts file.relative = false
  isIncluded : included = [] ∨
    ∃ pattern ∈ included, (Glob.ofText pattern).accepts file.relative = true

/-- The paths of all directories between a root and a file below it are short enough to be followed. -/
def Path.FitsAbove (root : Path) (file : Place) : Prop :=
  ∀ directory : Place, directory <+: file → directory ≠ [] → directory ≠ file →
    (root.below directory).isLong = false

/-! ## What a selection asks -/

theorem anyAccepts_ofText {patterns : List Text} {t : Text} :
    Glob.anyAccepts (patterns.map Glob.ofText) t = true ↔
      ∃ pattern ∈ patterns, (Glob.ofText pattern).accepts t = true := by
  simp [Glob.anyAccepts]

theorem anyAccepts_ofText_eq_false {patterns : List Text} {t : Text} :
    Glob.anyAccepts (patterns.map Glob.ofText) t = false ↔
      ∀ pattern ∈ patterns, (Glob.ofText pattern).accepts t = false := by
  simp [Glob.anyAccepts]

theorem enters_ofPatterns_iff {directory : Place} :
    (Selection.ofPatterns included excluded extensions).enters directory = true ↔
      ∀ pattern ∈ Selection.alwaysExcluded ++ excluded,
        (Glob.ofText pattern).accepts (directory.relative ++ ['/']) = false := by
  rw [← anyAccepts_ofText_eq_false]
  simp only [Selection.enters, Selection.ofPatterns, Bool.not_eq_true']

theorem opens_iff {directory : Place} :
    selection.opens root directory = true ↔
      (root.below directory).isLong = false ∧ selection.enters directory = true := by
  rw [Selection.opens, Bool.and_eq_true, Bool.not_eq_true']

theorem wants_ofPatterns_iff (hne : file ≠ []) :
    (Selection.ofPatterns included excluded extensions).wants file = true ↔
      (∃ name, file.getLast? = some name ∧
        Text.lower (Extension.ofName name) ∈ extensions) ∧
      (∀ pattern ∈ Selection.alwaysExcluded ++ excluded,
        (Glob.ofText pattern).accepts file.relative = false) ∧
      (included = [] ∨
        ∃ pattern ∈ included, (Glob.ofText pattern).accepts file.relative = true) := by
  rw [← anyAccepts_ofText_eq_false, ← anyAccepts_ofText]
  cases hlast : file.getLast? with
  | none => exact absurd (List.getLast?_eq_none_iff.1 hlast) hne
  | some name => simp [Selection.wants, Selection.ofPatterns, hlast, and_assoc]

/-! ## The collected files -/

theorem findsBelow_iff {enters isDirLink : Place → Bool} {entries : Entries} :
    FindsBelow enters isDirLink [] entries file ↔
      file ≠ [] ∧
      (∀ directory, directory <+: file → directory ≠ [] → directory ≠ file →
        enters directory = true) ∧
      ∃ leaf, (dir entries).at? file = some leaf ∧ leaf.CountsAsFile (isDirLink file) := by
  constructor
  · rintro ⟨name, rest, child, rfl, hchild, hfinds⟩
    rcases hfinds.found with ⟨leaf, hleaf, hcounts⟩
    refine ⟨List.cons_ne_nil name rest, ?_, leaf, by simp [at?, hchild, hleaf], hcounts⟩
    intro directory hbefore hne hnotfile
    rcases List.prefix_cons_iff.1 hbefore with rfl | ⟨way, rfl, hway⟩
    · exact absurd rfl hne
    · refine hfinds.entered way hway ?_
      rintro rfl
      exact hnotfile rfl
  · rintro ⟨hne, hentered, leaf, hleaf, hcounts⟩
    cases file with
    | nil => exact absurd rfl hne
    | cons name rest =>
        rcases Option.bind_eq_some_iff.1 hleaf with ⟨child, hchild, hrest⟩
        refine ⟨name, rest, child, rfl, hchild, ?_, leaf, hrest, hcounts⟩
        intro way hway hnotrest
        refine hentered (name :: way) (List.cons_prefix_cons.2 ⟨rfl, hway⟩) (by simp) ?_
        intro heq
        exact hnotrest (List.cons.inj heq).2

theorem wellNamed_of_find? {top : Node} (h : tree.WellNamed) (htop : tree.find? root = some top) :
    top.WellNamed := by
  rw [find?] at htop
  split at htop
  · exact h.of_at? htop
  · cases htop

theorem mem_collect_of_find? {entries : Entries} (htop : tree.find? root = some (dir entries)) :
    file ∈ tree.collect root selection ↔
      file ∈ (filesBelow (selection.opens root) (fun place => tree.isDirAt (root.below place)) []
        entries).filter selection.wants := by
  simp only [collect, htop, List.mem_mergeSort]

/-- What is collected, for any selection. -/
theorem mem_collect_iff (h : tree.WellNamed) :
    file ∈ tree.collect root selection ↔
      tree.HasFileBelow root file ∧
      (∀ directory, directory <+: file → directory ≠ [] → directory ≠ file →
        selection.opens root directory = true) ∧
      selection.wants file = true := by
  cases htop : tree.find? root with
  | none => simp [collect, HasFileBelow, htop]
  | some top =>
      cases top with
      | dir entries =>
          have hnamed := wellNamed_of_find? h htop
          simp only [mem_collect_of_find? htop, List.mem_filter, mem_filesBelow_iff hnamed,
            findsBelow_iff, HasFileBelow, htop, Option.bind_some]
          constructor
          · rintro ⟨⟨hne, hentered, hleaf⟩, hwants⟩
            exact ⟨⟨hne, hleaf⟩, hentered, hwants⟩
          · rintro ⟨⟨hne, hleaf⟩, hentered, hwants⟩
            exact ⟨⟨hne, hentered, hleaf⟩, hwants⟩
      | file bytes =>
          cases file with
          | nil => simp [collect, HasFileBelow, htop]
          | cons name rest => simp [collect, HasFileBelow, htop, at?]
      | link target =>
          cases file with
          | nil => simp [collect, HasFileBelow, htop]
          | cons name rest => simp [collect, HasFileBelow, htop, at?]

theorem mem_collect_ofPatterns_iff (h : tree.WellNamed) :
    file ∈ tree.collect root (Selection.ofPatterns included excluded extensions) ↔
      IsWanted tree root included excluded extensions file ∧ root.FitsAbove file := by
  rw [mem_collect_iff h]
  constructor
  · rintro ⟨hreached, hopened, hwants⟩
    rcases (wants_ofPatterns_iff hreached.1).1 hwants with ⟨hextension, hnot, hincluded⟩
    refine ⟨⟨hreached, hextension, ?_, hnot, hincluded⟩, ?_⟩
    · intro directory hbefore hne hnotfile
      exact enters_ofPatterns_iff.1 (opens_iff.1 (hopened directory hbefore hne hnotfile)).2
    · intro directory hbefore hne hnotfile
      exact (opens_iff.1 (hopened directory hbefore hne hnotfile)).1
  · rintro ⟨hwanted, hfits⟩
    refine ⟨hwanted.reached, ?_, ?_⟩
    · intro directory hbefore hne hnotfile
      apply opens_iff.2
      exact ⟨hfits directory hbefore hne hnotfile,
        enters_ofPatterns_iff.2 (hwanted.directories directory hbefore hne hnotfile)⟩
    · exact (wants_ofPatterns_iff hwanted.reached.1).2
        ⟨hwanted.extension, hwanted.notExcluded, hwanted.isIncluded⟩

/-- Different files below a directory have different relative paths. -/
theorem relative_injOn_hasFileBelow (h : tree.WellNamed) {other : Place}
    (hfile : tree.HasFileBelow root file) (hother : tree.HasFileBelow root other)
    (heq : file.relative = other.relative) : file = other := by
  have hslash : ∀ place : Place, tree.HasFileBelow root place → ∀ name ∈ place, '/' ∉ name := by
    rintro place ⟨-, node, hnode, -⟩
    rcases Option.bind_eq_some_iff.1 hnode with ⟨top, htop, hplace⟩
    exact (wellNamed_of_find? h htop).slash_notMem hplace
  exact Place.relative_inj (hslash file hfile) (hslash other hother) hfile.1 hother.1 heq

theorem pairwise_collect (h : tree.WellNamed) (root : Path) (selection : Selection) :
    (tree.collect root selection).Pairwise fun a b => a.relative < b.relative := by
  cases htop : tree.find? root with
  | none => simp [collect, htop]
  | some top =>
      cases top with
      | dir entries =>
          have hnamed := wellNamed_of_find? h htop
          have hmem : ∀ place ∈ (filesBelow (selection.opens root)
                (fun place => tree.isDirAt (root.below place)) [] entries).filter selection.wants,
              tree.HasFileBelow root place := by
            intro place hplace
            exact ((mem_collect_iff h).1 ((mem_collect_of_find? htop).2 hplace)).1
          simp only [collect, htop]
          -- The sort leaves equal keys side by side. That there are none is due to the tree.
          refine Text.pairwise_lt_mergeSort ?_
          refine List.Nodup.map_on ?_ ((nodup_filesBelow hnamed).filter _)
          intro place hplace other hother heq
          exact relative_injOn_hasFileBelow h (hmem place hplace) (hmem other hother) heq
      | file bytes => simp [collect, htop]
      | link target => simp [collect, htop]

/-! ## Order of entries -/

theorem hasFileBelow_of_alike (h : Alike tree tree') (hfile : tree.HasFileBelow root file) :
    tree'.HasFileBelow root file := by
  rcases hfile with ⟨hne, node, hnode, hcounts⟩
  refine ⟨hne, node, ?_, by rwa [← h.isDirAt_eq]⟩
  rcases outline_cases (h.find?_bind_at? root file) with hsame | ⟨entries, entries', hdir, -⟩
  · rw [← hsame, hnode]
  · -- A directory is no file, so the two trees have the very same node here.
    cases hnode.symm.trans hdir
    exact absurd hcounts id

theorem collect_eq_of_alike (h : tree.WellNamed) (h' : tree'.WellNamed) (halike : Alike tree tree')
    (root : Path) (selection : Selection) :
    tree'.collect root selection = tree.collect root selection := by
  have hback : Alike tree' tree := fun place => (halike place).symm
  -- Both lists increase along the same key, so only what they hold has to be compared.
  refine Text.eq_of_mem_iff_of_pairwise (pairwise_collect h' root selection)
    (pairwise_collect h root selection) ?_
  intro file
  rw [mem_collect_iff h, mem_collect_iff h']
  constructor
  · rintro ⟨hfile, hrest⟩
    exact ⟨hasFileBelow_of_alike hback hfile, hrest⟩
  · rintro ⟨hfile, hrest⟩
    exact ⟨hasFileBelow_of_alike halike hfile, hrest⟩

/-- The files that are collected are exactly the wanted ones to which the walk comes: only a
directory with too long a path keeps it away. Their relative paths increase strictly, so none of them
comes twice, and it makes no difference in which order directories list their entries. -/
theorem collect_exactly (h : tree.WellNamed) (root : Path)
    (included excluded extensions : List Text) :
    (∀ file, file ∈ tree.collect root (Selection.ofPatterns included excluded extensions) ↔
        IsWanted tree root included excluded extensions file ∧ root.FitsAbove file) ∧
      (tree.collect root (Selection.ofPatterns included excluded extensions)).Nodup ∧
      ((tree.collect root (Selection.ofPatterns included excluded extensions)).map
        Place.relative).Pairwise (· < ·) ∧
      ∀ tree', Relisted tree tree' →
        tree'.collect root (Selection.ofPatterns included excluded extensions) =
          tree.collect root (Selection.ofPatterns included excluded extensions) := by
  have hsorted := pairwise_collect h root (Selection.ofPatterns included excluded extensions)
  refine ⟨?_, Text.nodup_of_pairwise_lt hsorted, List.pairwise_map.2 hsorted, ?_⟩
  · intro file
    exact mem_collect_ofPatterns_iff h
  · intro tree' hlisted
    exact collect_eq_of_alike h (hlisted.wellNamed h) (hlisted.alike h) root _

/-- The path leads through a link to a project that lists its entries in one order or in the other.
A dangling link is a file and a link to a directory is none. The link that is named like an excluded
file, and whatever stands below `vendor`, is not wanted. -/
theorem collect_exactly_links :
    let inner : Entries := [("b.PHP".toList, .file []), ("up.php".toList, link "..".toList),
      ("c.php".toList, .file []), ("d.php".toList, link "gone".toList)]
    let entries : Entries := [("z.php".toList, .file []), ("a".toList, dir inner),
      ("vendor".toList, dir [("v.php".toList, .file [])]), ("a.php".toList, link "z.php".toList)]
    let project : Entries → Node := fun listed =>
      dir ([("p".toList, link "q".toList)] ++ ("q".toList, dir listed) :: [])
    let root : Path := ⟨["p".toList], false⟩
    let selection := Selection.ofPatterns [] ["a/c*".toList] [".php".toList]
    (project entries).WellNamed ∧ Relisted (project entries) (project entries.reverse) ∧
      (∀ file, IsWanted (project entries) root [] ["a/c*".toList] [".php".toList] file ∧
          root.FitsAbove file ↔ file ∈ [["z.php".toList], ["a".toList, "b.PHP".toList],
            ["a".toList, "d.php".toList], ["a.php".toList]]) ∧
      (project entries.reverse).collect root selection =
        (project entries).collect root selection := by
  intro inner entries project root selection
  have hnamed : (project entries).WellNamed := by
    simp [project, entries, inner, wellNamed_dir_iff, wellNamed_file, wellNamed_link]
  have hlisted : Relisted (project entries) (project entries.reverse) :=
    .inside (.here (List.reverse_perm entries).symm)
  have hplace : (project entries).locate root = .ok ["q".toList] := by decide +kernel
  have htop : (project entries).find? root = some (dir entries) := by
    rw [find?, hplace]
    rfl
  have hwalk : (filesBelow (selection.opens root)
        (fun place => (project entries).isDirAt (root.below place)) [] entries).filter
          selection.wants =
      [["z.php".toList], ["a".toList, "b.PHP".toList], ["a".toList, "d.php".toList],
        ["a.php".toList]] := by decide +kernel
  have hexact := collect_exactly hnamed root [] ["a/c*".toList] [".php".toList]
  refine ⟨hnamed, hlisted, ?_, hexact.2.2.2 (project entries.reverse) hlisted⟩
  intro file
  rw [← hexact.1 file, mem_collect_of_find? htop, hwalk]

/-! ## Long paths -/

namespace Node

def nested (names : List Text) (node : Node) : Node :=
  names.foldr (fun name node => dir [(name, node)]) node

theorem at?_nested (names : List Text) (node : Node) : (nested names node).at? names = some node := by
  induction names with
  | nil => rfl
  | cons name names ih => simpa [nested, at?] using ih

theorem wellNamed_nested {names : List Text} {node : Node} (hnames : ∀ name ∈ names, '/' ∉ name)
    (hnode : node.WellNamed) : (nested names node).WellNamed := by
  induction names with
  | nil => exact hnode
  | cons name names ih =>
      rcases List.forall_mem_cons.1 hnames with ⟨hname, hnames⟩
      refine wellNamed_dir_iff.2 ⟨List.nodup_singleton name, ?_⟩
      intro entry hentry
      rw [List.mem_singleton.1 hentry]
      exact ⟨hname, ih hnames⟩

/-- A path that is too long leads to no directory. -/
theorem isDirAt_of_isLong {path : Path} (h : path.isLong = true) : tree.isDirAt path = false := by
  have hfind : tree.find? path = none := by
    rw [find?, locate, reach]
    cases path.holdsNull with
    | true => rfl
    | false => simp [h]
  rw [isDirAt, hfind]
  rfl

end Node

/-- Between a root and what stands right in it there is no directory. -/
theorem Path.fitsAbove_singleton (root : Path) (name : Text) : root.FitsAbove [name] := by
  intro directory hbefore hne hnotfile
  rcases (List.infix_singleton_iff _ _).1 hbefore.isInfix with rfl | rfl
  · exact absurd rfl hne
  · exact absurd rfl hnotfile

/-- The path to a directory leaves no room for another long name. A wanted file in a directory with
such a name is not collected. A link with such a name leads to the directory in which it stands, and
yet it is collected like a file, since its own path leads nowhere. -/
theorem collect_misses_long_paths :
    let name := List.replicate 255 'd'
    let linkName := List.replicate 251 'l' ++ ".php".toList
    let root : Path := ⟨List.replicate 15 name, false⟩
    let entries : Entries := [(name, dir [("f.php".toList, .file [])]), (linkName, link ".".toList)]
    let tree := nested root.parts (dir entries)
    let collected := tree.collect root (Selection.ofPatterns [] [] [".php".toList])
    tree.WellNamed ∧ tree.find? root = some (dir entries) ∧
      IsWanted tree root [] [] [".php".toList] [name, "f.php".toList] ∧
      [name, "f.php".toList] ∉ collected ∧
      tree.follow .find linkLimit root.parts (Path.split ".".toList) = .ok root.parts ∧
      [linkName] ∈ collected := by
  intro name linkName root entries tree collected
  have hslash : '/' ∉ name ∧ '/' ∉ linkName ∧ linkName ≠ name := by decide +kernel
  have hplace : tree.locate root = .ok root.parts := by decide +kernel
  have hback : tree.follow .find linkLimit root.parts (Path.split ".".toList) = .ok root.parts := by
    decide +kernel
  have hnamed : tree.WellNamed := by
    refine wellNamed_nested ?_ ?_
    · intro part hpart
      rw [List.eq_of_mem_replicate hpart]
      exact hslash.1
    · simp [entries, wellNamed_dir_iff, wellNamed_file, wellNamed_link, hslash, Ne.symm hslash.2.2]
  have htop : tree.find? root = some (dir entries) := by
    rw [find?, hplace]
    exact at?_nested _ _
  have hlong : (root.below [name]).isLong = true ∧ (root.below [linkName]).isLong = true := by
    decide +kernel
  have hfile : IsWanted tree root [] [] [".php".toList] [name, "f.php".toList] := by
    have hthere : (tree.find? root).bind (at? [name, "f.php".toList]) = some (file []) := by
      simp [htop, entries, at?]
    refine ⟨⟨by simp, _, hthere, trivial⟩, ⟨_, rfl, by decide +kernel⟩, ?_, by decide +kernel,
      Or.inl rfl⟩
    intro directory hbefore hne hnotfile
    rcases List.prefix_cons_iff.1 hbefore with rfl | ⟨way, rfl, hway⟩
    · exact absurd rfl hne
    · rcases (List.infix_singleton_iff _ _).1 hway.isInfix with rfl | rfl
      · decide +kernel
      · exact absurd rfl hnotfile
  have hlink : IsWanted tree root [] [] [".php".toList] [linkName] ∧ root.FitsAbove [linkName] := by
    have hthere : (tree.find? root).bind (at? [linkName]) = some (link ".".toList) := by
      simp [htop, entries, at?, List.lookup_cons, beq_false_of_ne hslash.2.2]
    refine ⟨⟨⟨by simp, _, hthere, isDirAt_of_isLong hlong.2⟩, ⟨_, rfl, by decide +kernel⟩, ?_,
      by decide +kernel, Or.inl rfl⟩, Path.fitsAbove_singleton root linkName⟩
    intro directory hbefore hne hnotfile
    rcases (List.infix_singleton_iff _ _).1 hbefore.isInfix with rfl | rfl
    · exact absurd rfl hne
    · exact absurd rfl hnotfile
  refine ⟨hnamed, htop, hfile, ?_, hback, (mem_collect_ofPatterns_iff hnamed).2 hlink⟩
  intro hcollected
  have hfits := ((mem_collect_ofPatterns_iff hnamed).1 hcollected).2
  have hshort := hfits [name] ⟨["f.php".toList], rfl⟩ (by simp) (by simp)
  rw [hlong.1] at hshort
  cases hshort

end ImportLint
