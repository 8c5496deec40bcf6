import ImportLint.Proofs.Discovery.Pruning

/-!
# Leaving out one directory

The pattern `D/**` acts twice. It keeps the walk out of directories, whose paths are matched with a
slash behind them, and it drops files. Both times it asks whether the path starts with `D/`. If the
path of a directory does, so do the paths of all files below it. Therefore the pattern takes away the
files of that subtree and no others, also where `D` is only the beginning of another name.
-/

namespace ImportLint

open Node

variable {subtree : Text}

namespace Selection

/-- The selection that also excludes what stands below the directory with the given path. -/
def without (selection : Selection) (subtree : Text) : Selection where
  included := selection.included
  excluded := selection.excluded ++ [Glob.ofText (subtree ++ "/**".toList)]
  extensions := selection.extensions

theorem ofPatterns_append (included excluded extensions : List Text) (subtree : Text) :
    ofPatterns included (excluded ++ [subtree ++ "/**".toList]) extensions =
      (ofPatterns included excluded extensions).without subtree := by
  simp only [ofPatterns, without, ← List.append_assoc, List.map_append, List.map_singleton]

theorem anyAccepts_excluded_without (h : Glob.IsLiteral subtree) (selection : Selection) (t : Text) :
    Glob.anyAccepts (selection.without subtree).excluded t =
      (Glob.anyAccepts selection.excluded t || (subtree ++ ['/']).isPrefixOf t) := by
  have hmatch : (Glob.ofText (subtree ++ "/**".toList)).accepts t =
      (subtree ++ ['/']).isPrefixOf t := by
    rw [Bool.eq_iff_iff, Glob.accepts_below_iff h, List.isPrefixOf_iff_prefix]
  simp only [without, Glob.anyAccepts, List.any_append, List.any_cons, List.any_nil, hmatch,
    Bool.or_false]

theorem enters_without (h : Glob.IsLiteral subtree) (selection : Selection) (directory : Place) :
    (selection.without subtree).enters directory =
      (selection.enters directory &&
        !(subtree ++ ['/']).isPrefixOf (directory.relative ++ ['/'])) := by
  rw [enters, anyAccepts_excluded_without h, Bool.not_or, enters]

theorem wants_without (h : Glob.IsLiteral subtree) (selection : Selection) (file : Place) :
    (selection.without subtree).wants file =
      (!(subtree ++ ['/']).isPrefixOf file.relative && selection.wants file) := by
  rw [wants, anyAccepts_excluded_without h, Bool.not_or, wants]
  simp only [without, Bool.and_assoc, Bool.and_left_comm]

/-- The two selections enter the same directories outside the subtree, and in it the one that leaves it
out wants no file. -/
theorem agreeOnKept_without (h : Glob.IsLiteral subtree) (selection : Selection) (root : Path) :
    AgreeOnKept (selection.without subtree).wants ((selection.without subtree).opens root)
      (selection.opens root) := by
  intro directory name rest hne hdiffer
  have hinside : subtree ++ ['/'] <+: directory.relative ++ ['/'] := by
    by_contra hout
    rw [← List.isPrefixOf_iff_prefix] at hout
    exact hdiffer (by simp [opens, enters_without h, hout])
  have hfile : subtree ++ ['/'] <+: Place.relative (directory ++ name :: rest) := by
    rw [Place.relative_append hne (List.cons_ne_nil name rest)]
    exact hinside.trans ⟨Place.relative (name :: rest), List.append_assoc ..⟩
  rw [wants_without h, List.isPrefixOf_iff_prefix.2 hfile, Bool.not_true, Bool.false_and]

end Selection

theorem Node.collect_without (h : Glob.IsLiteral subtree) (tree : Node) (root : Path)
    (selection : Selection) :
    tree.collect root (selection.without subtree) =
      (tree.collect root selection).filter
        fun file => !(subtree ++ ['/']).isPrefixOf file.relative := by
  cases htop : tree.find? root with
  | none => simp [collect, htop]
  | some top =>
      cases top with
      | dir entries =>
          have hwants : (selection.without subtree).wants = fun file =>
              !(subtree ++ ['/']).isPrefixOf file.relative && selection.wants file :=
            funext (Selection.wants_without h selection)
          simp only [collect, htop, filter_filesBelow_eq (Selection.agreeOnKept_without h selection root)]
          rw [hwants, ← List.filter_filter, Text.filter_mergeSort_key Place.relative]
      | file bytes => simp [collect, htop]
      | link target => simp [collect, htop]

/-- Excluding what stands below a directory removes the files whose paths go on from the path of that
directory. The others stay, in the same order and whatever the inclusions say. -/
theorem collect_append_below (hliteral : Glob.IsLiteral subtree) (tree : Node) (root : Path)
    (included excluded extensions : List Text) :
    tree.collect root
        (Selection.ofPatterns included (excluded ++ [subtree ++ "/**".toList]) extensions) =
      (tree.collect root (Selection.ofPatterns included excluded extensions)).filter
        fun file => !(subtree ++ ['/']).isPrefixOf file.relative := by
  rw [Selection.ofPatterns_append, collect_without hliteral]

/-- A directory with brackets in its name, a sibling whose name goes on from it, and an inclusion that
holds for both. The files of the directory go, at whatever depth, and those of the sibling stay. -/
theorem collect_append_below_sibling :
    let entries : Entries := [("a.php".toList, .file []),
      ("old]".toList, dir [("b.php".toList, .file []),
        ("deep".toList, dir [("c.php".toList, .file [])])]),
      ("old]er".toList, dir [("d.php".toList, .file [])])]
    let tree := dir [("app".toList, dir entries), ("e.php".toList, .file [])]
    let kept : List Place := [["app".toList, "a.php".toList],
      ["app".toList, "old]er".toList, "d.php".toList]]
    let removed : List Place := [["app".toList, "old]".toList, "b.php".toList],
      ["app".toList, "old]".toList, "deep".toList, "c.php".toList]]
    let collected := fun excluded =>
      tree.collect ⟨[], false⟩ (Selection.ofPatterns ["app/*".toList] excluded [".php".toList])
    Glob.IsLiteral "app/old]".toList ∧ (collected []).Perm (kept ++ removed) ∧
      collected ["app/old]/**".toList] = kept := by
  intro entries tree kept removed collected
  have hliteral : Glob.IsLiteral "app/old]".toList := by decide
  have hplace : tree.locate ⟨[], false⟩ = .ok [] := by decide +kernel
  have htop : tree.find? ⟨[], false⟩ = some tree := by
    rw [find?, hplace]
    rfl
  have hall : collected [] = [["app".toList, "a.php".toList],
      ["app".toList, "old]".toList, "b.php".toList],
      ["app".toList, "old]".toList, "deep".toList, "c.php".toList],
      ["app".toList, "old]er".toList, "d.php".toList]] :=
    collect_eq_of_sorted htop (by decide +kernel) (by decide)
  refine ⟨hliteral, by rw [hall]; decide, ?_⟩
  have hfilter := collect_append_below hliteral tree ⟨[], false⟩ ["app/*".toList] []
    [".php".toList]
  refine hfilter.trans ?_
  exact (congrArg (List.filter _) hall).trans (by decide)

end ImportLint
