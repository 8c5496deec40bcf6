import ImportLint.Proofs.Tree.Below
import ImportLint.Tree.Canonical

/-!
# Canonical paths of directories

Two accounts are given of where a path leads. Following it part by part gives up after a number of
links; resolving it remembers the links that it has met and gives up at a circle. They agree on every
path that can be followed to a directory: its canonical form names the place that it leads to
(`canonical_of_locate`).

A link whose target can be followed leads through fewer links than any way that passes it. So the links
that wait for one another are all different, and there are no more of them than the tree has links:
resolving never comes back to a link that is waiting, and it never runs out of depth.
-/

namespace ImportLint

namespace Node

variable {tree s t : Node} {apart : Place → Prop} {place goal directory : Place} {name target : Text}
  {parts : List Text} {path : Path} {entries : Entries} {links m n : Nat} {met : MetLinks}
  {pending : List Place}

/-! ## The links of a tree -/

mutual

def linkPlaces : Node → List Place
  | file _ => []
  | link _ => [[]]
  | dir entries => linkPlacesIn entries

def linkPlacesIn : Entries → List Place
  | [] => []
  | (name, node) :: rest => (linkPlaces node).map (name :: ·) ++ linkPlacesIn rest

end

/-- The link at a place leads to a goal, through so many links after itself. -/
def LinkLeads (tree : Node) (place : Place) (links : Nat) (goal : Place) : Prop :=
  ∃ target, tree.at? place = some (link target) ∧
    Leads tree links (linkStart place.dropLast target) (Path.split target) goal

/-- What is remembered of the links that were met: where they lead, or that they are waiting. -/
structure Remembers (tree : Node) (pending : List Place) (met : MetLinks) : Prop where
  resolved : ∀ place goal, met.lookup place = some (some goal) → ∃ n, LinkLeads tree place n goal
  waiting : ∀ place, met.lookup place = some none ↔ place ∈ pending

/-- The links that are waiting for a way lead through at least as many links as that way. -/
def AwaitedBy (tree : Node) (pending : List Place) (links : Nat) : Prop :=
  ∀ place ∈ pending, ∃ n goal, LinkLeads tree place n goal ∧ links ≤ n

theorem AwaitedBy.cons (h : AwaitedBy tree pending n) (hlink : LinkLeads tree place n goal) :
    AwaitedBy tree (place :: pending) n := by
  intro other hother
  rcases List.mem_cons.1 hother with rfl | hother
  · exact ⟨n, goal, hlink, Nat.le_refl n⟩
  · exact h other hother

/-- A link that begins to wait. -/
theorem Remembers.push (h : Remembers tree pending met) (place : Place) :
    Remembers tree (place :: pending) ((place, none) :: met) := by
  constructor
  · intro other goal hother
    by_cases heq : other = place
    · simp [heq] at hother
    · have hb : (other == place) = false := beq_false_of_ne heq
      simp only [List.lookup_cons, hb] at hother
      exact h.resolved other goal hother
  · intro other
    by_cases heq : other = place
    · simp [heq]
    · have hb : (other == place) = false := beq_false_of_ne heq
      simp only [List.lookup_cons, hb, List.mem_cons, heq, false_or]
      exact h.waiting other

/-- Parts that stay where they are can be left out. -/
theorem Leads.filter (h : Leads tree links place parts goal) :
    Leads tree links place (parts.filter fun part => !Path.isIdle part) goal := by
  induction h with
  | done place => exact .done place
  | idle _ hidle _ ih => simpa [hidle] using ih
  | up hdir hidle hup _ ih => simpa [hidle] using ih.up hdir hidle hup
  | name hpart hlong hnode hlink _ ih => simpa [hpart.notIdle] using ih.name hpart hlong hnode hlink
  | link hpart hlong hnode htarget _ _ ih =>
      simpa [hpart.notIdle] using Leads.link hpart hlong hnode htarget ih

/-- No part of a way through a file tree holds a slash. -/
theorem Leads.noSlash (htree : tree.IsFileTree) (h : Leads tree links place parts goal) :
    ∀ part ∈ parts, '/' ∉ part := by
  induction h with
  | done place => simp
  | @idle _ _ _ part _ _ _ hidle _ ih =>
      have hpart : '/' ∉ part := by
        simp only [Path.isIdle, Bool.or_eq_true, List.isEmpty_iff, beq_iff_eq] at hidle
        rcases hidle with rfl | rfl
        · simp
        · decide
      simpa using ⟨hpart, ih⟩
  | @up _ _ _ part _ _ _ _ hup _ ih =>
      have hpart : '/' ∉ part := by
        simp only [Path.isUp, beq_iff_eq] at hup
        rw [hup]
        decide
      simpa using ⟨hpart, ih⟩
  | name _ _ hnode _ _ ih => simpa using ⟨(htree.isFileName hnode).noSlash, ih⟩
  | link _ _ hnode _ _ _ ih => simpa using ⟨(htree.isFileName hnode).noSlash, ih⟩

/-- The path of a directory leads to it, if it leads anywhere. Nothing but a length can be in its way. -/
theorem locate_path_of_dir (htree : tree.IsFileTree) (hdir : tree.at? directory = some (dir entries)) :
    tree.locate directory.path = .ok directory ∨
      tree.locate directory.path = .error (.fault .nameTooLong directory.path.text) := by
  have hnames := htree.isFileName_of_mem hdir
  have hnull : directory.path.holdsNull = false := by
    rw [Path.holdsNull, List.any_eq_false]
    intro name hname
    simpa using (hnames name hname).noNull
  cases hlong : directory.path.isLong with
  | true =>
      right
      rw [locate, reach, hnull, hlong]
      rfl
  | false =>
      rw [locate, reach_of_follow hnull hlong]
      have hgoes : GoesOn .find [] := Or.inl rfl
      have hway := follow_way (n := linkLimit) (List.nil_append directory ▸ hdir)
        (fun name hname => (hnames name hname).isName) hgoes
      rw [List.append_nil, List.nil_append] at hway
      have hparts : directory.path.parts = directory := rfl
      rw [hparts]
      rcases hway with hway | hway
      · left
        rw [hway, follow_arrived rfl]
      · right
        rw [hway]

end Node

end ImportLint
