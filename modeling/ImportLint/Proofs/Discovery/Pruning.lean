import ImportLint.Proofs.Discovery.Frame
import ImportLint.Proofs.Glob

/-!
# Pruning

A walk that does not go into a directory never sees the files below it. Two walks find the same files of
a kind if there are none of that kind below the directories that only one of them enters
(`filter_filesBelow_eq`). So pruning makes no difference to the wanted files if none are wanted below
a directory that is left out. For patterns this means that one which matches the path of a directory,
with its slash, matches every path that goes on from there: `Glob.CoversBelow`. Patterns that end with
a star are of this kind, and so are those that match the path of no directory. A pattern such as `a*/`
is not: it keeps the walk out of directories and matches no file in them.
-/

namespace ImportLint

open Node

/-! ## Patterns that cover what is below -/

namespace Glob

variable {pattern : Text}

/-- Together with the path of a directory, the glob matches all paths below the directory. -/
def CoversBelow (glob : Glob) : Prop :=
  ∀ directory file : Text, glob.accepts (directory ++ ['/']) = true →
    glob.accepts (directory ++ '/' :: file) = true

theorem coversBelow_of_star (h : pattern.getLast? = some '*') : (ofText pattern).CoversBelow := by
  intro directory file hdirectory
  have hfile := accepts_append h hdirectory file
  rwa [List.append_assoc] at hfile

/-- A pattern for one path that does not end with a slash matches no directory. -/
theorem coversBelow_of_literal (h : IsLiteral pattern) (hlast : pattern.getLast? ≠ some '/') :
    (ofText pattern).CoversBelow := by
  intro directory file hdirectory
  have hpattern : directory ++ ['/'] = pattern := (accepts_literal_iff h).1 hdirectory
  refine absurd ?_ hlast
  rw [← hpattern]
  exact List.getLast?_concat

/-- Not every pattern is of these kinds. -/
example : ¬ (ofText "a*/".toList).CoversBelow :=
  fun h => absurd (h "ab".toList "c.php".toList (by decide)) (by decide)

end Glob

namespace Selection

/-- The patterns that are part of every selection are of the two kinds. -/
theorem coversBelow_of_mem_alwaysExcluded :
    ∀ pattern ∈ alwaysExcluded, (Glob.ofText pattern).CoversBelow := by
  have hkinds : ∀ pattern ∈ alwaysExcluded,
      pattern.getLast? = some '*' ∨ Glob.IsLiteral pattern ∧ pattern.getLast? ≠ some '/' := by
    decide
  intro pattern hpattern
  rcases hkinds pattern hpattern with hstar | ⟨hliteral, hlast⟩
  · exact Glob.coversBelow_of_star hstar
  · exact Glob.coversBelow_of_literal hliteral hlast

end Selection

namespace Node

variable {enters enters' isDirLink keep : Place → Bool} {place file : Place} {node tree : Node}
  {entries : Entries} {root : Path} {selection : Selection}

/-! ## Two walks -/

/-- A walk does not leave what is below its start. -/
theorem prefix_of_mem_filesAt (h : file ∈ filesAt enters isDirLink place node) :
    place <+: file := by
  induction node using entry_induction generalizing place with
  | file bytes =>
      rw [filesAt, List.mem_singleton] at h
      exact h ▸ List.prefix_rfl
  | link target =>
      rw [filesAt] at h
      split at h
      · exact absurd h List.not_mem_nil
      · exact List.mem_singleton.1 h ▸ List.prefix_rfl
  | dir entries ih =>
      rw [filesAt] at h
      split at h
      · rw [filesBelow_eq_flatMap] at h
        rcases List.mem_flatMap.1 h with ⟨entry, hentry, hfile⟩
        exact (List.prefix_append place [entry.1]).trans (ih entry hentry hfile)
      · exact absurd h List.not_mem_nil

theorem exists_of_mem_filesBelow (h : file ∈ filesBelow enters isDirLink place entries) :
    ∃ name rest, file = place ++ name :: rest := by
  rw [filesBelow_eq_flatMap] at h
  rcases List.mem_flatMap.1 h with ⟨entry, -, hfile⟩
  rcases prefix_of_mem_filesAt hfile with ⟨rest, rfl⟩
  exact ⟨entry.1, rest, by simp⟩

/-- Nothing is kept below a directory that only one of two walks enters. -/
def AgreeOnKept (keep enters enters' : Place → Bool) : Prop :=
  ∀ (directory : Place) (name : Text) (rest : Place), directory ≠ [] →
    enters directory ≠ enters' directory → keep (directory ++ name :: rest) = false

theorem filter_filesBelow_eq_nil (h : AgreeOnKept keep enters enters') (hplace : place ≠ [])
    (hdiffer : enters place ≠ enters' place) (walk : Place → Bool) :
    (filesBelow walk isDirLink place entries).filter keep = [] := by
  refine List.filter_eq_nil_iff.2 ?_
  intro file hfile
  rcases exists_of_mem_filesBelow hfile with ⟨name, rest, rfl⟩
  simp [h place name rest hplace hdiffer]

theorem filter_filesAt_eq (h : AgreeOnKept keep enters enters') (hplace : place ≠ []) :
    (filesAt enters isDirLink place node).filter keep =
      (filesAt enters' isDirLink place node).filter keep := by
  induction node using entry_induction generalizing place with
  | file bytes => rfl
  | link target => rfl
  | dir entries ih =>
      by_cases hsame : enters place = enters' place
      · rw [filesAt, filesAt, hsame]
        split
        · rw [filesBelow_eq_flatMap, filesBelow_eq_flatMap, List.filter_flatMap,
            List.filter_flatMap]
          refine List.flatMap_congr ?_
          intro entry hentry
          exact ih entry hentry (by simp)
        · rfl
      · -- One walk goes in here, but of what it finds nothing is kept.
        have hnone : ∀ walk, (filesBelow walk isDirLink place entries).filter keep = [] :=
          filter_filesBelow_eq_nil h hplace hsame
        rw [filesAt, filesAt, apply_ite (List.filter keep), apply_ite (List.filter keep), hnone,
          hnone, List.filter_nil, ite_self, ite_self]

theorem filter_filesBelow_eq (h : AgreeOnKept keep enters enters') :
    (filesBelow enters isDirLink place entries).filter keep =
      (filesBelow enters' isDirLink place entries).filter keep := by
  rw [filesBelow_eq_flatMap, filesBelow_eq_flatMap, List.filter_flatMap, List.filter_flatMap]
  refine List.flatMap_congr ?_
  intro entry _
  exact filter_filesAt_eq h (by simp)

/-! ## Walks that enter everything -/

def canOpen (root : Path) (directory : Place) : Bool := !(root.below directory).isLong

/-- The wanted files, in order, as a walk finds them that enters every directory it can. Each file is
judged by its own name and path alone. -/
def collectUnpruned (tree : Node) (root : Path) (selection : Selection) : List Place :=
  match tree.find? root with
  | some (dir entries) =>
    let isDirLink := fun place => tree.isDirAt (root.below place)
    ((filesBelow (canOpen root) isDirLink [] entries).filter selection.wants).mergeSort
      fun a b => Text.le a.relative b.relative
  | _ => []

theorem collect_eq_collectUnpruned
    (h : AgreeOnKept selection.wants (selection.opens root) (canOpen root)) (tree : Node) :
    tree.collect root selection = tree.collectUnpruned root selection := by
  cases htop : tree.find? root with
  | none => simp [collect, collectUnpruned, htop]
  | some top =>
      cases top with
      | dir entries => simp only [collect, collectUnpruned, htop, filter_filesBelow_eq h]
      | file bytes => simp [collect, collectUnpruned, htop]
      | link target => simp [collect, collectUnpruned, htop]

/-- Then the directories above a file have no say in whether it is collected, but for the lengths of
their paths. -/
theorem mem_collect_iff_of_agree
    (h : AgreeOnKept selection.wants (selection.opens root) (canOpen root))
    (hnamed : tree.WellNamed) :
    file ∈ tree.collect root selection ↔
      tree.HasFileBelow root file ∧ root.FitsAbove file ∧ selection.wants file = true := by
  rw [mem_collect_iff hnamed]
  constructor
  · rintro ⟨hfile, hopened, hwants⟩
    refine ⟨hfile, ?_, hwants⟩
    intro directory hbefore hne hnotfile
    exact (opens_iff.1 (hopened directory hbefore hne hnotfile)).1
  · rintro ⟨hfile, hfits, hwants⟩
    refine ⟨hfile, ?_, hwants⟩
    rintro directory ⟨rest, rfl⟩ hne hnotfile
    have hshort := hfits directory ⟨rest, rfl⟩ hne hnotfile
    cases rest with
    | nil => exact absurd (List.append_nil directory).symm hnotfile
    | cons name rest =>
        by_contra hout
        have hunwanted := h directory name rest hne (by simpa [canOpen, hshort] using hout)
        exact absurd hwants (by simp [hunwanted])

end Node

/-! ## Selections by patterns -/

variable {included excluded extensions : List Text}

theorem enters_ofPatterns_eq_false_iff {directory : Place} :
    (Selection.ofPatterns included excluded extensions).enters directory = false ↔
      ∃ pattern ∈ Selection.alwaysExcluded ++ excluded,
        (Glob.ofText pattern).accepts (directory.relative ++ ['/']) = true := by
  rw [← anyAccepts_ofText]
  simp only [Selection.enters, Selection.ofPatterns, Bool.not_eq_false']

theorem wants_ofPatterns_eq_false {file : Place}
    (h : ∃ pattern ∈ Selection.alwaysExcluded ++ excluded,
      (Glob.ofText pattern).accepts file.relative = true) :
    (Selection.ofPatterns included excluded extensions).wants file = false := by
  have hexcluded := anyAccepts_ofText.2 h
  simp only [Selection.wants, Selection.ofPatterns, hexcluded, Bool.not_true, Bool.and_false,
    Bool.false_and]

theorem agreeOnKept_ofPatterns (h : ∀ pattern ∈ excluded, (Glob.ofText pattern).CoversBelow)
    (root : Path) :
    AgreeOnKept (Selection.ofPatterns included excluded extensions).wants
      ((Selection.ofPatterns included excluded extensions).opens root) (canOpen root) := by
  have hcovers : ∀ pattern ∈ Selection.alwaysExcluded ++ excluded,
      (Glob.ofText pattern).CoversBelow := by
    intro pattern hpattern
    rcases List.mem_append.1 hpattern with halways | hgiven
    · exact Selection.coversBelow_of_mem_alwaysExcluded pattern halways
    · exact h pattern hgiven
  intro directory name rest hne hout
  -- The pattern that keeps the walk out of the directory matches the path of the file too.
  have hfalse : (Selection.ofPatterns included excluded extensions).enters directory = false := by
    cases henters : (Selection.ofPatterns included excluded extensions).enters directory with
    | false => rfl
    | true => exact absurd (by rw [Selection.opens, henters, Bool.and_true, canOpen]) hout
  rcases enters_ofPatterns_eq_false_iff.1 hfalse with ⟨pattern, hpattern, hdirectory⟩
  refine wants_ofPatterns_eq_false ⟨pattern, hpattern, ?_⟩
  rw [Place.relative_append hne (List.cons_ne_nil name rest)]
  exact hcovers pattern hpattern _ _ hdirectory

/-- If each given pattern ends with a star, it makes no difference whether excluded directories are
entered: the walk that enters all of them finds the same wanted files. Which files these are is then
a matter of their own names and paths alone, and of whether the walk can come to them at all. -/
theorem pruning_changes_nothing (hstar : ∀ pattern ∈ excluded, pattern.getLast? = some '*')
    (tree : Node) (root : Path) (included extensions : List Text) :
    tree.collect root (Selection.ofPatterns included excluded extensions) =
        tree.collectUnpruned root (Selection.ofPatterns included excluded extensions) ∧
      (tree.WellNamed → ∀ file,
        file ∈ tree.collect root (Selection.ofPatterns included excluded extensions) ↔
          tree.HasFileBelow root file ∧ root.FitsAbove file ∧
            (∃ name, file.getLast? = some name ∧
              Text.lower (Extension.ofName name) ∈ extensions) ∧
            (∀ pattern ∈ Selection.alwaysExcluded ++ excluded,
              (Glob.ofText pattern).accepts file.relative = false) ∧
            (included = [] ∨
              ∃ pattern ∈ included, (Glob.ofText pattern).accepts file.relative = true)) := by
  have hagree : AgreeOnKept (Selection.ofPatterns included excluded extensions).wants
      ((Selection.ofPatterns included excluded extensions).opens root) (canOpen root) :=
    agreeOnKept_ofPatterns
      (fun pattern hpattern => Glob.coversBelow_of_star (hstar pattern hpattern)) root
  refine ⟨collect_eq_collectUnpruned hagree tree, ?_⟩
  intro hnamed file
  rw [mem_collect_iff_of_agree hagree hnamed]
  constructor
  · rintro ⟨hfile, hfits, hwants⟩
    exact ⟨hfile, hfits, (wants_ofPatterns_iff hfile.1).1 hwants⟩
  · rintro ⟨hfile, hfits, hwants⟩
    exact ⟨hfile, hfits, (wants_ofPatterns_iff hfile.1).2 hwants⟩

/-- Two directories are left out, one by an open bracket with a star behind it and one by a set and a
question mark. The walk that enters them finds nothing more. -/
theorem pruning_changes_nothing_brackets :
    let entries : Entries := [("e.php".toList, .file []),
      ("leg[acy".toList, dir [("b.php".toList, .file []),
        ("deep".toList, dir [("c.php".toList, .file [])])]),
      ("doc".toList, dir [("d.php".toList, .file [])]),
      ("src".toList, dir [("a.php".toList, .file [])])]
    let root : Path := ⟨[], false⟩
    let excluded := ["leg[*".toList, "[!s]?c/*".toList]
    let selection := Selection.ofPatterns [] excluded [".php".toList]
    let found : List Place := [["e.php".toList], ["src".toList, "a.php".toList]]
    (∀ pattern ∈ excluded, pattern.getLast? = some '*') ∧ (dir entries).WellNamed ∧
      selection.enters ["leg[acy".toList] = false ∧ selection.enters ["doc".toList] = false ∧
      (dir entries).collectUnpruned root selection = found ∧
      ∀ file ∈ found, (dir entries).HasFileBelow root file := by
  intro entries root excluded selection found
  have hstar : ∀ pattern ∈ excluded, pattern.getLast? = some '*' := by decide
  have hnamed : (dir entries).WellNamed := by simp [entries, wellNamed_dir_iff, wellNamed_file]
  have hplace : (dir entries).locate root = .ok [] := by decide +kernel
  have htop : (dir entries).find? root = some (dir entries) := by
    rw [find?, hplace]
    rfl
  have hpruned : (dir entries).collect root selection = found :=
    collect_eq_of_sorted htop (by decide +kernel) (by decide)
  rcases pruning_changes_nothing hstar (dir entries) root [] [".php".toList] with
    ⟨hsame, hcollected⟩
  refine ⟨hstar, hnamed, by decide, by decide, hsame.symm.trans hpruned, ?_⟩
  intro file hfile
  rw [← hpruned] at hfile
  exact ((hcollected hnamed file).1 hfile).1

end ImportLint
