import ImportLint.Proofs.Tree.Following
import ImportLint.Proofs.Tree.Relisting

/-!
# Trees that differ in some files

Following a path asks a tree for its shape only, not for the bytes of its files. If two trees have
the same shape but for some places, where either of them has a file or nothing, then a path leads to
the same place in both, unless it meets one of these places (`follow_frame`). A way that ends where it
meets one can end differently. A way that goes on from there fails in both trees, because no way goes
on below a file, but it may fail for different reasons: nothing is there, or no directory is.
-/

namespace ImportLint

namespace Node

variable {s t u : Node} {apart : Place → Prop} {purpose : Purpose} {place goal directory : Place}
  {part target : Text} {parts rest : List Text} {entries : Entries} {links : Nat}

/-! ## Shapes -/

/-- What following a path asks of a node. -/
def shape : Node → Node
  | file _ => file []
  | dir _ => dir []
  | link target => link target

def IsFree (tree : Node) (place : Place) : Prop :=
  ∀ node, tree.at? place = some node → ∃ bytes, node = file bytes

/-- Two trees have the same shape but for some places, at which each of them has a file or nothing. -/
structure SameShapeBut (apart : Place → Prop) (s t : Node) : Prop where
  same : ∀ place, ¬ apart place → (s.at? place).map shape = (t.at? place).map shape
  freeLeft : ∀ place, apart place → s.IsFree place
  freeRight : ∀ place, apart place → t.IsFree place

theorem SameShapeBut.symm (h : SameShapeBut apart s t) : SameShapeBut apart t s :=
  ⟨fun place hplace => (h.same place hplace).symm, h.freeRight, h.freeLeft⟩

/-- What a shape tells about a node. -/
theorem shape_cases {a b : Option Node} (h : a.map shape = b.map shape) :
    (a = none ∧ b = none) ∨ (∃ bytes bytes', a = some (file bytes) ∧ b = some (file bytes')) ∨
      (∃ target, a = some (link target) ∧ b = some (link target)) ∨
      ∃ entries entries', a = some (dir entries) ∧ b = some (dir entries') := by
  rcases a with _ | a
  · rcases b with _ | b
    · exact Or.inl ⟨rfl, rfl⟩
    · cases h
  · rcases b with _ | b
    · cases h
    · have hshape : shape a = shape b := Option.some.inj h
      cases a with
      | file bytes =>
          cases b with
          | file bytes' => exact Or.inr (Or.inl ⟨bytes, bytes', rfl, rfl⟩)
          | link target => cases hshape
          | dir entries => cases hshape
      | link target =>
          cases b with
          | file bytes => cases hshape
          | link target' =>
              cases hshape
              exact Or.inr (Or.inr (Or.inl ⟨target, rfl, rfl⟩))
          | dir entries => cases hshape
      | dir entries =>
          cases b with
          | file bytes => cases hshape
          | link target => cases hshape
          | dir entries' => exact Or.inr (Or.inr (Or.inr ⟨entries, entries', rfl, rfl⟩))

theorem isFree_of_at?_eq_none (h : s.at? place = none) : s.IsFree place := by
  intro node hnode
  rw [h] at hnode
  cases hnode

theorem IsFree.not_dir (h : s.IsFree place) (entries : Entries) :
    s.at? place ≠ some (dir entries) := by
  intro hdir
  rcases h _ hdir with ⟨bytes, hfile⟩
  cases hfile

theorem SameShapeBut.dir_right (h : SameShapeBut apart s t)
    (hdir : s.at? place = some (dir entries)) : ∃ entries, t.at? place = some (dir entries) := by
  have hplace : ¬ apart place := fun hapart => (h.freeLeft place hapart).not_dir entries hdir
  have hsame := h.same place hplace
  rw [hdir] at hsame
  rcases shape_cases hsame with ⟨hnone, -⟩ | ⟨_, _, hfile, -⟩ | ⟨_, hlink, -⟩ | ⟨_, entries', -, h'⟩
  · cases hnone
  · cases hfile
  · cases hlink
  · exact ⟨entries', h'⟩

theorem SameShapeBut.link_iff (h : SameShapeBut apart s t) (place : Place) (target : Text) :
    s.at? place = some (link target) ↔ t.at? place = some (link target) := by
  have hright : ∀ {s t : Node}, SameShapeBut apart s t → s.at? place = some (link target) →
      t.at? place = some (link target) := by
    intro s t h hlink
    have hplace : ¬ apart place := by
      intro hapart
      rcases h.freeLeft _ hapart _ hlink with ⟨bytes, hfile⟩
      cases hfile
    have hsame := h.same place hplace
    rw [hlink] at hsame
    rcases shape_cases hsame with ⟨hnone, -⟩ | ⟨_, _, hfile, -⟩ | ⟨_, hlink', h'⟩ | ⟨_, _, hdir, -⟩
    · cases hnone
    · cases hfile
    · cases hlink'
      exact h'
    · cases hdir
  exact ⟨hright h, hright h.symm⟩

/-! ## Meeting a place -/

/-- The way meets a goal with some parts still to go: without them it leads there, and what is
written at its end is written at the goal. -/
def Meets (tree : Node) (links : Nat) (place : Place) (parts : List Text) (goal : Place)
    (rest : List Text) : Prop :=
  ∃ before name, parts = before ++ name :: rest ∧ name ≠ [] ∧
    tree.follow .write links place (before ++ [name]) = .ok goal

/-- Following a link of the tree meets a goal, with some parts of its target still to go. -/
def LinkMeets (tree : Node) (goal : Place) (rest : List Text) : Prop :=
  ∃ place target links, tree.at? place = some (link target) ∧
    Meets tree links (linkStart place.dropLast target) (Path.split target) goal rest

/-- The fault of a way for which something is missing. -/
def IsWant (fault : Fault) : Prop := fault ≠ .nameTooLong ∧ fault ≠ .linkLoop

/-- Both ways fail because something is missing, perhaps not the same thing. -/
def BothFail (a b : Except Fault Place) : Prop :=
  ∃ f g, a = .error f ∧ b = .error g ∧ IsWant f ∧ IsWant g

/-- A way that has come to a place with a file or nothing ends there. -/
theorem descend_free (hfree : s.IsFree (place ++ [part])) (hdir : s.at? place = some (dir entries))
    (hpart : IsName part) (hlong : Path.isLongName part = false) :
    s.descend .write place [part] = .arrived (place ++ [part]) := by
  rw [descend_name hdir hpart (Or.inl rfl), hlong]
  cases hnode : s.at? (place ++ [part]) with
  | none => rfl
  | some node =>
      rcases hfree node hnode with ⟨bytes, rfl⟩
      rfl

/-- It fails if it is to go on. -/
theorem descend_free_cons (hfree : s.IsFree (place ++ [part]))
    (hdir : s.at? place = some (dir entries)) (hpart : IsName part)
    (hlong : Path.isLongName part = false) (hne : rest ≠ []) (hgoes : GoesOn purpose rest) :
    ∃ f, s.descend purpose place (part :: rest) = .failed f ∧ IsWant f := by
  rw [descend_name hdir hpart (Or.inr hgoes), hlong]
  cases hnode : s.at? (place ++ [part]) with
  | none =>
      refine ⟨.notFound, ?_, by simp [IsWant]⟩
      simp [hne]
  | some node =>
      rcases hfree node hnode with ⟨bytes, rfl⟩
      cases rest with
      | nil => exact absurd rfl hne
      | cons other rest =>
          refine ⟨.notDirectory, ?_, by simp [IsWant]⟩
          exact descend_of_not_dir (fun entries => hfree.not_dir entries) other rest

/-! ## One descent -/

/-- The descents agree and do not end apart. -/
def SameDescent (apart : Place → Prop) (a b : Halt) : Prop :=
  a = b ∧ ∀ goal, a = .arrived goal → ¬ apart goal

/-- A descent meets a place apart. If it goes on from there, it fails in both trees. -/
def MeetsApart (apart : Place → Prop) (s t : Node) (purpose : Purpose) (place : Place)
    (parts : List Text) : Prop :=
  ∃ goal before name rest, apart goal ∧ parts = before ++ name :: rest ∧ name ≠ [] ∧
    s.descend .write place (before ++ [name]) = .arrived goal ∧
    (rest ≠ [] → ∃ f g, s.descend purpose place parts = .failed f ∧
      t.descend purpose place parts = .failed g ∧ IsWant f ∧ IsWant g)

/-- A part that does not lead to a place apart leads on in both trees. -/
theorem Takes.frame (h : SameShapeBut apart s t) {here : Place} (htakes : Takes s place part here)
    (hhere : ¬ apart here) : Takes t place part here := by
  cases htakes with
  | idle hdir hidle =>
      rcases h.dir_right hdir with ⟨_, hdir'⟩
      exact .idle hdir' hidle
  | up hdir hidle hup =>
      rcases h.dir_right hdir with ⟨_, hdir'⟩
      exact .up hdir' hidle hup
  | name hpart hlong hnode hlink =>
      have hsame := h.same _ hhere
      rw [hnode] at hsame
      rcases shape_cases hsame with ⟨hnone, -⟩ | ⟨_, _, -, hfile⟩ | ⟨target, hlinked, -⟩ | ⟨_, _, -, hdir⟩
      · cases hnone
      · exact .name hpart hlong hfile (by simp)
      · exact absurd (Option.some.inj hlinked) (hlink target)
      · exact .name hpart hlong hdir (by simp)

/-- The step of the induction: both descents take the first part in the same way. -/
theorem descent_step {here : Place} (htakes : Takes s place part here)
    (hs : s.descend purpose place (part :: rest) = s.descend purpose here rest)
    (ht : t.descend purpose place (part :: rest) = t.descend purpose here rest)
    (ih : SameDescent apart (s.descend purpose here rest) (t.descend purpose here rest) ∨
      MeetsApart apart s t purpose here rest) :
    SameDescent apart (s.descend purpose place (part :: rest))
        (t.descend purpose place (part :: rest)) ∨
      MeetsApart apart s t purpose place (part :: rest) := by
  rcases ih with hsame | ⟨goal, before, name, further, hapart, hparts, hname, hmeets, hfail⟩
  · left
    rw [hs, ht]
    exact hsame
  · right
    have hgoes : GoesOn .write (before ++ [name]) := Or.inr ⟨name, by simp, hname⟩
    refine ⟨goal, part :: before, name, further, hapart, by rw [hparts, List.cons_append], hname,
      ?_, ?_⟩
    · rw [List.cons_append, htakes.descend_eq (Or.inr hgoes), hmeets]
    · rw [hs, ht]
      exact hfail

/-- A descent that names a place apart meets it. -/
theorem meetsApart_name (h : SameShapeBut apart s t) (hdir : s.at? place = some (dir entries))
    (hpart : IsName part) (hlong : Path.isLongName part = false)
    (hrest : rest = [] ∨ GoesOn purpose rest) (hhere : apart (place ++ [part])) :
    MeetsApart apart s t purpose place (part :: rest) := by
  have hleft := h.freeLeft _ hhere
  have hright := h.freeRight _ hhere
  rcases h.dir_right hdir with ⟨_, hdir'⟩
  refine ⟨place ++ [part], [], part, rest, hhere, rfl, hpart.ne_nil,
    descend_free hleft hdir hpart hlong, ?_⟩
  intro hne
  have hgoes : GoesOn purpose rest := hrest.resolve_left hne
  rcases descend_free_cons hleft hdir hpart hlong hne hgoes with ⟨f, hf, hf'⟩
  rcases descend_free_cons hright hdir' hpart hlong hne hgoes with ⟨g, hg, hg'⟩
  exact ⟨f, g, hf, hg, hf', hg'⟩

theorem sameDescent_failed {a b : Halt} {fault : Fault} (ha : a = .failed fault)
    (hb : b = .failed fault) : SameDescent apart a b := by
  refine ⟨ha.trans hb.symm, ?_⟩
  rintro goal harrived
  cases ha.symm.trans harrived

/-- Both descents take a name in the same way, unless it is that of a place apart. -/
theorem descend_frame_name (h : SameShapeBut apart s t) (hdir : s.at? place = some (dir entries))
    (hpart : IsName part)
    (ih : ¬ apart (place ++ [part]) →
      SameDescent apart (s.descend purpose (place ++ [part]) rest)
          (t.descend purpose (place ++ [part]) rest) ∨
        MeetsApart apart s t purpose (place ++ [part]) rest) :
    SameDescent apart (s.descend purpose place (part :: rest))
        (t.descend purpose place (part :: rest)) ∨
      MeetsApart apart s t purpose place (part :: rest) := by
  rcases h.dir_right hdir with ⟨entries', hdir'⟩
  by_cases hrest : rest = [] ∨ GoesOn purpose rest
  · have hsdown := descend_name hdir hpart hrest
    have htdown := descend_name hdir' hpart hrest
    cases hlong : Path.isLongName part with
    | true =>
        rw [hlong] at hsdown htdown
        exact Or.inl (sameDescent_failed hsdown htdown)
    | false =>
        by_cases hhere : apart (place ++ [part])
        · exact Or.inr (meetsApart_name h hdir hpart hlong hrest hhere)
        · cases hnode : s.at? (place ++ [part]) with
          | none =>
              have hnone : t.at? (place ++ [part]) = none := by
                simpa [hnode] using (h.same _ hhere).symm
              left
              rw [hsdown, htdown, hnode, hnone, hlong]
              refine ⟨rfl, ?_⟩
              intro goal harrived
              simp only [Bool.false_eq_true, if_false] at harrived
              split at harrived
              · cases harrived
                exact hhere
              · cases harrived
          | some node =>
              by_cases hlink : ∃ target, node = link target
              · rcases hlink with ⟨target, rfl⟩
                have hnode' := (h.link_iff _ _).1 hnode
                left
                rw [descend_name_of_link hpart hlong hnode hrest,
                  descend_name_of_link hpart hlong hnode' hrest]
                exact ⟨rfl, by rintro goal ⟨⟩⟩
              · have htakes : Takes s place part (place ++ [part]) :=
                  .name hpart hlong hnode fun target h => hlink ⟨target, h⟩
                exact descent_step htakes (htakes.descend_eq hrest)
                  ((htakes.frame h hhere).descend_eq hrest) (ih hhere)
  · rcases not_or.1 hrest with ⟨hne, hgoes⟩
    exact Or.inl (sameDescent_failed (descend_closed hdir hpart hne hgoes)
      (descend_closed hdir' hpart hne hgoes))

theorem descend_frame (h : SameShapeBut apart s t) (purpose : Purpose) (hplace : ¬ apart place)
    (parts : List Text) :
    SameDescent apart (s.descend purpose place parts) (t.descend purpose place parts) ∨
      MeetsApart apart s t purpose place parts := by
  induction parts generalizing place with
  | nil =>
      refine Or.inl ⟨rfl, ?_⟩
      rintro goal harrived
      cases harrived
      exact hplace
  | cons part rest ih =>
      by_cases hdir : ∃ entries, s.at? place = some (dir entries)
      · rcases hdir with ⟨entries, hdir⟩
        rcases h.dir_right hdir with ⟨entries', hdir'⟩
        rcases part_cases part with hidle | ⟨hidle, hup⟩ | hpart
        · exact descent_step (.idle hdir hidle) (descend_idle hdir hidle rest)
            (descend_idle hdir' hidle rest) (ih hplace)
        · -- The place above is a directory, so it is not apart.
          rcases exists_dir_dropLast hdir with ⟨above, habove⟩
          have hnot : ¬ apart place.dropLast :=
            fun hapart => (h.freeLeft _ hapart).not_dir above habove
          exact descent_step (.up hdir hidle hup) (descend_up hdir hidle hup rest)
            (descend_up hdir' hidle hup rest) (ih hnot)
        · exact descend_frame_name h hdir hpart ih
      · have hdir' : ∀ entries, t.at? place ≠ some (dir entries) :=
          fun entries hentries => hdir (h.symm.dir_right hentries)
        exact Or.inl (sameDescent_failed
          (descend_of_not_dir (fun entries hentries => hdir ⟨entries, hentries⟩) part rest)
          (descend_of_not_dir hdir' part rest))

/-! ## Whole ways -/

/-- Where a descent met a link. -/
theorem exists_link_of_descend
    (h : s.descend purpose place parts = .linked directory target rest) :
    ∃ before name, parts = before ++ name :: rest ∧ name ≠ [] ∧
      s.at? (directory ++ [name]) = some (link target) ∧
      ∀ rest', rest' = [] ∨ GoesOn .write rest' →
        s.descend .write place (before ++ name :: rest') = .linked directory target rest' := by
  induction parts generalizing place with
  | nil => cases h
  | cons part further ih =>
      rcases descend_cases s purpose place part further with
        ⟨here, htakes, heq⟩ | ⟨target', hpart, hlong, hnode, heq⟩ | ⟨_, -, -, -, -, -, -, heq⟩ |
        ⟨fault, heq⟩
      · -- The rest of the descent has met the link.
        rcases ih (heq.symm.trans h) with ⟨before, name, hparts, hname, hlink, hmet⟩
        refine ⟨part :: before, name, by rw [hparts, List.cons_append], hname, hlink, ?_⟩
        intro rest' hrest'
        have hgoes : GoesOn .write (before ++ name :: rest') := Or.inr ⟨name, by simp, hname⟩
        rw [List.cons_append, htakes.descend_eq (Or.inr hgoes), hmet rest' hrest']
      · rw [heq] at h
        cases h
        refine ⟨[], part, rfl, hpart.ne_nil, hnode, ?_⟩
        intro rest' hrest'
        exact descend_name_of_link hpart hlong hnode hrest'
      · rw [heq] at h
        cases h
      · rw [heq] at h
        cases h

/-- A way that meets a goal behind a link meets it on its own parts or on those of the target. -/
theorem meets_of_linked (h : s.descend purpose place parts = .linked directory target rest)
    {further : List Text}
    (hmeets : Meets s links (linkStart directory target) (Path.split target ++ rest) goal further) :
    Meets s (links + 1) place parts goal further ∨
      further ≠ [] ∧ ∃ within, LinkMeets s goal within := by
  rcases exists_link_of_descend h with ⟨before, name, hparts, hname, hlink, hmet⟩
  rcases hmeets with ⟨upto, last, hsplit, hlast, hfollow⟩
  have hgoes : ∀ tail : List Text, GoesOn .write (tail ++ [last]) :=
    fun tail => Or.inr ⟨last, by simp, hlast⟩
  rcases List.append_eq_append_iff.1 hsplit with ⟨tail, hupto, hrest⟩ | ⟨tail, htarget, htail⟩
  · -- The goal is met after the target has been left.
    left
    refine ⟨before ++ name :: tail, last, by rw [hparts, hrest]; simp, hlast, ?_⟩
    have hdescend := hmet (tail ++ [last]) (Or.inr (hgoes tail))
    rw [List.append_assoc, List.cons_append, follow_linked hdescend, ← List.append_assoc, ← hupto]
    exact hfollow
  · cases tail with
    | nil =>
        -- The same, at the first part after the target.
        left
        rw [List.append_nil] at htarget
        rw [List.nil_append] at htail
        refine ⟨before ++ [name], last, by rw [hparts, ← htail]; simp, hlast, ?_⟩
        have hdescend := hmet [last] (Or.inr (hgoes []))
        rw [List.append_assoc, List.cons_append, List.nil_append, follow_linked hdescend, htarget]
        exact hfollow
    | cons first tail =>
        rcases List.cons.inj htail with ⟨rfl, hfurther⟩
        have hwithin : Meets s links (linkStart directory target) (Path.split target) goal tail :=
          ⟨upto, last, htarget, hlast, hfollow⟩
        by_cases hnil : further = []
        · -- Nothing is left after the goal, so the link was the last part of the way.
          left
          rw [hnil] at hfurther
          rcases List.append_eq_nil_iff.1 hfurther.symm with ⟨rfl, rfl⟩
          refine ⟨before, name, by rw [hparts, hnil], hname, ?_⟩
          rw [follow_linked (hmet [] (Or.inl rfl)), List.append_nil, htarget]
          exact hfollow
        · right
          refine ⟨hnil, tail, directory ++ [name], target, links, hlink, ?_⟩
          rw [List.dropLast_concat]
          exact hwithin

/-- A descent that meets a place apart does so for every number of links. -/
theorem meets_of_meetsApart (hmeets : MeetsApart apart s t purpose place parts) (links : Nat) :
    (∃ goal, apart goal ∧ Meets s links place parts goal []) ∨
      BothFail (s.follow purpose links place parts) (t.follow purpose links place parts) ∧
        ∃ goal rest, apart goal ∧ (Meets s links place parts goal rest ∨ LinkMeets s goal rest) := by
  rcases hmeets with ⟨goal, before, name, rest, hapart, hparts, hname, harrived, hfail⟩
  have hmeets : Meets s links place parts goal rest :=
    ⟨before, name, hparts, hname, follow_arrived harrived links⟩
  by_cases hrest : rest = []
  · subst hrest
    exact Or.inl ⟨goal, hapart, hmeets⟩
  · rcases hfail hrest with ⟨f, g, hf, hg, hf', hg'⟩
    exact Or.inr ⟨⟨f, g, follow_failed hf links, follow_failed hg links, hf', hg'⟩, goal, rest,
      hapart, Or.inl hmeets⟩

/-- A link in a directory starts over in a directory. -/
theorem exists_dir_linkStart (hdir : s.at? directory = some (dir entries)) (target : Text) :
    ∃ entries, s.at? (linkStart directory target) = some (dir entries) := by
  rw [linkStart]
  split
  · -- Above a directory there are directories only.
    cases s with
    | dir top => exact ⟨top, rfl⟩
    | file bytes => cases directory <;> simp [at?] at hdir
    | link target => cases directory <;> simp [at?] at hdir
  · exact ⟨entries, hdir⟩

theorem not_apart_linkStart (h : SameShapeBut apart s t) {name : Text} {node : Node}
    (hnode : s.at? (directory ++ [name]) = some node) (target : Text) :
    ¬ apart (linkStart directory target) := by
  rcases exists_dir_of_at?_concat hnode with ⟨entries, hdir⟩
  rcases exists_dir_linkStart hdir target with ⟨start, hstart⟩
  intro hapart
  exact (h.freeLeft _ hapart).not_dir start hstart

/-- Outside the places apart, both trees lead a way to the same end. Otherwise it ends at one of them,
or it meets one and fails in both trees. -/
theorem follow_frame (h : SameShapeBut apart s t) (purpose : Purpose) (links : Nat)
    (hplace : ¬ apart place) (parts : List Text) :
    (s.follow purpose links place parts = t.follow purpose links place parts ∧
        ∀ goal, s.follow purpose links place parts = .ok goal → ¬ apart goal) ∨
      (∃ goal, apart goal ∧ Meets s links place parts goal []) ∨
      BothFail (s.follow purpose links place parts) (t.follow purpose links place parts) ∧
        ∃ goal rest, apart goal ∧ (Meets s links place parts goal rest ∨ LinkMeets s goal rest) := by
  -- On the number of links. A link starts a new way, of which less may be known than of the old one.
  induction links generalizing place parts with
  | zero =>
      rcases descend_frame h purpose hplace parts with ⟨heq, harrived⟩ | hmeets
      · left
        refine ⟨by simp only [follow, heq], ?_⟩
        intro goal hgoal
        rw [follow] at hgoal
        split at hgoal
        · next arrived =>
          cases hgoal
          exact harrived goal arrived
        · cases hgoal
        · cases hgoal
      · exact Or.inr (meets_of_meetsApart hmeets 0)
  | succ links ih =>
      rcases descend_frame h purpose hplace parts with ⟨heq, harrived⟩ | hmeets
      · cases hhalt : s.descend purpose place parts with
        | arrived goal =>
            left
            rw [follow_arrived hhalt, follow_arrived (heq ▸ hhalt)]
            refine ⟨rfl, ?_⟩
            rintro goal' ⟨⟩
            exact harrived goal hhalt
        | failed fault =>
            left
            rw [follow_failed hhalt, follow_failed (heq ▸ hhalt)]
            exact ⟨rfl, by rintro goal ⟨⟩⟩
        | linked directory target rest =>
            have hhalt' : t.descend purpose place parts = .linked directory target rest := heq ▸ hhalt
            rcases exists_link_of_descend hhalt with ⟨-, name, -, -, hlink, -⟩
            rw [follow_linked hhalt, follow_linked hhalt']
            rcases ih (not_apart_linkStart h hlink target) (Path.split target ++ rest) with
              hsame | ⟨goal, hapart, hends⟩ | ⟨hfail, goal, further, hapart, hmeets⟩
            · exact Or.inl hsame
            · right
              left
              rcases meets_of_linked hhalt hends with hends | ⟨hne, -⟩
              · exact ⟨goal, hapart, hends⟩
              · exact absurd rfl hne
            · right
              right
              refine ⟨hfail, goal, ?_⟩
              rcases hmeets with hmeets | hmeets
              · rcases meets_of_linked hhalt hmeets with hmeets | ⟨-, within, hwithin⟩
                · exact ⟨further, hapart, Or.inl hmeets⟩
                · exact ⟨within, hapart, Or.inr hwithin⟩
              · exact ⟨further, hapart, Or.inr hmeets⟩
      · exact Or.inr (meets_of_meetsApart hmeets _)

/-- Trees of the same shape lead every way to the same end. -/
theorem follow_eq_of_shape (h : ∀ place, (s.at? place).map shape = (t.at? place).map shape)
    (purpose : Purpose) (links : Nat) (place : Place) (parts : List Text) :
    s.follow purpose links place parts = t.follow purpose links place parts := by
  have hsame : SameShapeBut (fun _ => False) s t :=
    ⟨fun place _ => h place, fun _ hfalse => hfalse.elim, fun _ hfalse => hfalse.elim⟩
  rcases follow_frame hsame purpose links id parts with ⟨heq, -⟩ | ⟨_, hfalse, -⟩ |
    ⟨-, _, _, hfalse, -⟩
  · exact heq
  · exact hfalse.elim
  · exact hfalse.elim

/-- A way to a directory leads there in both trees, through the same number of links. -/
theorem Leads.frame (h : SameShapeBut apart s t) (hleads : Leads s links place parts goal) :
    ∀ {entries}, s.at? goal = some (dir entries) → Leads t links place parts goal := by
  induction hleads with
  | done place =>
      intro entries _
      exact .done place
  | idle hdir hidle _ ih =>
      intro entries hgoal
      rcases h.dir_right hdir with ⟨_, hdir'⟩
      exact .idle hdir' hidle (ih hgoal)
  | up hdir hidle hup _ ih =>
      intro entries hgoal
      rcases h.dir_right hdir with ⟨_, hdir'⟩
      exact .up hdir' hidle hup (ih hgoal)
  | name hpart hlong _ _ hrest ih =>
      intro entries hgoal
      -- The way goes on to a directory, so this is one.
      rcases hrest.start_dir hgoal with ⟨inner, hinner⟩
      rcases h.dir_right hinner with ⟨inner', hinner'⟩
      exact .name hpart hlong hinner' (by simp) (ih hgoal)
  | @link _ _ place mid _ part target _ hpart hlong hnode _ hrest ihtarget ihrest =>
      intro entries hgoal
      rcases hrest.start_dir hgoal with ⟨inner, hmid⟩
      have hnode' := (h.link_iff _ _).1 hnode
      exact .link hpart hlong hnode' (ihtarget hmid) (ihrest hgoal)

end Node

end ImportLint
