import ImportLint.Proofs.Discovery.Collect
import ImportLint.Proofs.Tree.Below

/-!
# Discovery in a changed tree

Which files are collected depends on where files stand below the root, and on that only for files that
are wanted. So two trees give the same files if every wanted place has a file in both of them or in
neither (`collect_eq_of_hasFileBelow`).
-/

namespace ImportLint

namespace Node

variable {s t : Node} {root : Path} {file : Place} {selection : Selection}

theorem CountsAsFile.of_shape {a b : Node} {leadsToDir : Bool} (h : shape a = shape b)
    (ha : a.CountsAsFile leadsToDir) : b.CountsAsFile leadsToDir := by
  have hsome : (some a).map shape = (some b).map shape := congrArg some h
  rcases shape_cases hsome with ⟨hnone, -⟩ | ⟨_, _, -, hfile⟩ | ⟨_, hlink, hlink'⟩ | ⟨_, _, hdir, -⟩
  · cases hnone
  · cases hfile
    trivial
  · cases hlink
    cases hlink'
    exact ha
  · cases hdir
    exact absurd ha id

theorem hasFileBelow_of_shape
    (hshape : ((s.find? root).bind (at? file)).map shape = ((t.find? root).bind (at? file)).map shape)
    (hdir : s.isDirAt (root.below file) = t.isDirAt (root.below file))
    (h : s.HasFileBelow root file) : t.HasFileBelow root file := by
  rcases h with ⟨hne, node, hnode, hcounts⟩
  rw [hnode] at hshape
  rcases Option.map_eq_some_iff.1 hshape.symm with ⟨node', hnode', hsame⟩
  exact ⟨hne, node', hnode', hdir ▸ hcounts.of_shape hsame.symm⟩

theorem collect_eq_of_hasFileBelow (hs : s.WellNamed) (ht : t.WellNamed)
    (h : ∀ file, selection.wants file = true →
      (s.HasFileBelow root file ↔ t.HasFileBelow root file)) :
    t.collect root selection = s.collect root selection := by
  refine Text.eq_of_mem_iff_of_pairwise (pairwise_collect ht root selection)
    (pairwise_collect hs root selection) ?_
  intro file
  rw [mem_collect_iff hs, mem_collect_iff ht]
  constructor
  · rintro ⟨hfile, hopened, hwants⟩
    exact ⟨(h file hwants).2 hfile, hopened, hwants⟩
  · rintro ⟨hfile, hopened, hwants⟩
    exact ⟨(h file hwants).1 hfile, hopened, hwants⟩

/-- A walk that meets the wanted files in order gives the collected files. -/
theorem collect_eq_of_sorted {entries : Entries} (htop : s.find? root = some (dir entries))
    {files : List Place}
    (hwalk : (filesBelow (selection.opens root) (fun place => s.isDirAt (root.below place)) []
      entries).filter selection.wants = files)
    (hsorted : files.Pairwise fun a b => Text.le a.relative b.relative = true) :
    s.collect root selection = files := by
  simp only [collect, htop, hwalk]
  exact List.mergeSort_of_pairwise hsorted

end Node

end ImportLint
