import ImportLint.Proofs.Tree.Places
import ImportLint.Tree.Access

/-!
# Where a path leads

`Leads` is the relation behind `follow`: parts lead from a place to a goal through a number of links.
Unlike `follow` it takes a link as a way of its own inside the way, so that what holds of the target
and of what comes after it can be put together. The two agree (`follow_append_of_leads`,
`leads_of_follow`).

A way that goes on does so from its goal as if it had started there. In order to write, a way may not
end in a row of empty parts, which is why `GoesOn` asks for a part that is not empty.
-/

namespace ImportLint

namespace Node

variable {tree node : Node} {purpose : Purpose} {place goal mid : Place} {part target : Text}
  {parts rest : List Text} {entries : Entries} {links more m n : Nat}

/-! ## One part -/

/-- A part that is the name of an entry: it neither stays nor goes up. -/
structure IsName (part : Text) : Prop where
  notIdle : Path.isIdle part = false
  notUp : Path.isUp part = false

theorem IsName.ne_nil (h : IsName part) : part ≠ [] := by
  rintro rfl
  exact absurd h.notIdle (by decide)

theorem part_cases (part : Text) :
    Path.isIdle part = true ∨ (Path.isIdle part = false ∧ Path.isUp part = true) ∨ IsName part := by
  cases hidle : Path.isIdle part with
  | true => exact Or.inl rfl
  | false =>
      cases hup : Path.isUp part with
      | true => exact Or.inr (Or.inl ⟨rfl, rfl⟩)
      | false => exact Or.inr (Or.inr ⟨hidle, hup⟩)

/-- The rest of a way does not forbid what comes before it: it is only looked for, or there is a part
that is not empty. -/
def GoesOn (purpose : Purpose) (rest : List Text) : Prop :=
  purpose = .find ∨ ∃ part ∈ rest, part ≠ []

theorem GoesOn.append (h : GoesOn purpose rest) (parts : List Text) :
    GoesOn purpose (parts ++ rest) := by
  rcases h with h | ⟨part, hpart, hne⟩
  · exact Or.inl h
  · exact Or.inr ⟨part, List.mem_append_right _ hpart, hne⟩

/-- No way goes on below what is no directory. -/
theorem descend_of_not_dir (h : ∀ entries, tree.at? place ≠ some (dir entries)) (part : Text)
    (rest : List Text) : tree.descend purpose place (part :: rest) = .failed .notDirectory := by
  rw [descend]
  split
  · next entries hdir => exact absurd hdir (h entries)
  · rfl

theorem descend_idle (h : tree.at? place = some (dir entries)) (hpart : Path.isIdle part = true)
    (rest : List Text) :
    tree.descend purpose place (part :: rest) = tree.descend purpose place rest := by
  rw [descend, h]
  simp only [hpart, if_true]

theorem descend_up (h : tree.at? place = some (dir entries)) (hidle : Path.isIdle part = false)
    (hpart : Path.isUp part = true) (rest : List Text) :
    tree.descend purpose place (part :: rest) = tree.descend purpose place.dropLast rest := by
  rw [descend, h]
  simp only [hidle, hpart, if_true, Bool.false_eq_true, if_false]

/-- A name leads to what stands below the place, if the way may go on after it. -/
theorem descend_name (h : tree.at? place = some (dir entries)) (hpart : IsName part)
    (hrest : rest = [] ∨ GoesOn purpose rest) :
    tree.descend purpose place (part :: rest) =
      if Path.isLongName part then .failed .nameTooLong
      else
        match tree.at? (place ++ [part]) with
        | some (link target) => .linked place target rest
        | some _ => tree.descend purpose (place ++ [part]) rest
        | none =>
          if purpose == .write && rest.isEmpty then .arrived (place ++ [part])
          else .failed .notFound := by
  have hallowed : (purpose == .write && !rest.isEmpty && rest.all List.isEmpty) = false := by
    rcases hrest with rfl | rfl | ⟨other, hmem, hne⟩
    · simp
    · rfl
    · have hall : rest.all List.isEmpty = false := by
        rw [List.all_eq_false]
        exact ⟨other, hmem, by simpa using hne⟩
      rw [hall, Bool.and_false]
  rw [← lookup_eq_at? h part]
  cases hlookup : entries.lookup part with
  | none =>
      simp only [descend, h, hpart.notIdle, hpart.notUp, hallowed, hlookup, Bool.false_eq_true,
        if_false]
  | some node =>
      cases node with
      | file bytes =>
          simp only [descend, h, hpart.notIdle, hpart.notUp, hallowed, hlookup, Bool.false_eq_true,
            if_false]
      | link target =>
          simp only [descend, h, hpart.notIdle, hpart.notUp, hallowed, hlookup, Bool.false_eq_true,
            if_false]
      | dir inner =>
          simp only [descend, h, hpart.notIdle, hpart.notUp, hallowed, hlookup, Bool.false_eq_true,
            if_false]

/-- In order to write, a name cannot be followed by empty parts only. -/
theorem descend_closed (hdir : tree.at? place = some (dir entries)) (hpart : IsName part)
    (hne : rest ≠ []) (hgoes : ¬ GoesOn purpose rest) :
    tree.descend purpose place (part :: rest) = .failed .isDirectory := by
  have hwrite : purpose = .write := by
    cases purpose with
    | find => exact absurd (Or.inl rfl) hgoes
    | write => rfl
  have hall : rest.all List.isEmpty = true := by
    rw [List.all_eq_true]
    intro other hother
    by_contra hfilled
    exact hgoes (Or.inr ⟨other, hother, by simpa using hfilled⟩)
  have hclosed : (purpose == .write && !rest.isEmpty && rest.all List.isEmpty) = true := by
    rw [hwrite, hall]
    simp [hne]
  rw [descend, hdir]
  simp only [hpart.notIdle, hpart.notUp, hclosed, Bool.false_eq_true, if_false, if_true]

theorem exists_dir_of_at?_concat {name : Text} (h : tree.at? (place ++ [name]) = some node) :
    ∃ entries, tree.at? place = some (dir entries) := by
  rw [at?_append] at h
  rcases Option.bind_eq_some_iff.1 h with ⟨above, habove, hname⟩
  cases above with
  | file bytes => simp [at?] at hname
  | link target => simp [at?] at hname
  | dir entries => exact ⟨entries, habove⟩

theorem exists_dir_dropLast (h : tree.at? place = some (dir entries)) :
    ∃ entries, tree.at? place.dropLast = some (dir entries) := by
  rcases List.eq_nil_or_concat place with rfl | ⟨above, name, rfl⟩
  · exact ⟨entries, h⟩
  · rw [List.concat_eq_append] at h ⊢
    rw [List.dropLast_concat]
    exact exists_dir_of_at?_concat h

theorem descend_name_of_not_link (hpart : IsName part) (hlong : Path.isLongName part = false)
    (hnode : tree.at? (place ++ [part]) = some node) (hlink : ∀ target, node ≠ link target)
    (hrest : rest = [] ∨ GoesOn purpose rest) :
    tree.descend purpose place (part :: rest) = tree.descend purpose (place ++ [part]) rest := by
  rcases exists_dir_of_at?_concat hnode with ⟨entries, hdir⟩
  rw [descend_name hdir hpart hrest, hnode]
  cases node with
  | link target => exact absurd rfl (hlink target)
  | file bytes => simp [hlong]
  | dir entries => simp [hlong]

theorem descend_name_of_link (hpart : IsName part) (hlong : Path.isLongName part = false)
    (hnode : tree.at? (place ++ [part]) = some (link target))
    (hrest : rest = [] ∨ GoesOn purpose rest) :
    tree.descend purpose place (part :: rest) = .linked place target rest := by
  rcases exists_dir_of_at?_concat hnode with ⟨entries, hdir⟩
  rw [descend_name hdir hpart hrest, hnode]
  simp [hlong]

/-- A part leads on from a place to another one, without a link. -/
inductive Takes (tree : Node) (place : Place) (part : Text) : Place → Prop
  | idle {entries : Entries} : tree.at? place = some (dir entries) → Path.isIdle part = true →
      Takes tree place part place
  | up {entries : Entries} : tree.at? place = some (dir entries) → Path.isIdle part = false →
      Path.isUp part = true → Takes tree place part place.dropLast
  | name {node : Node} : IsName part → Path.isLongName part = false →
      tree.at? (place ++ [part]) = some node → (∀ target, node ≠ link target) →
      Takes tree place part (place ++ [part])

theorem Takes.descend_eq (h : Takes tree place part mid) (hrest : rest = [] ∨ GoesOn purpose rest) :
    tree.descend purpose place (part :: rest) = tree.descend purpose mid rest := by
  cases h with
  | idle hdir hidle => exact descend_idle hdir hidle rest
  | up hdir hidle hup => exact descend_up hdir hidle hup rest
  | name hpart hlong hnode hlink => exact descend_name_of_not_link hpart hlong hnode hlink hrest

/-- All that can become of the first part of a way: it leads on to another place, it names a link, it
is the name of a file that is to be made, or the way fails. -/
theorem descend_cases (tree : Node) (purpose : Purpose) (place : Place) (part : Text)
    (rest : List Text) :
    (∃ mid, Takes tree place part mid ∧
      tree.descend purpose place (part :: rest) = tree.descend purpose mid rest) ∨
    (∃ target, IsName part ∧ Path.isLongName part = false ∧
      tree.at? (place ++ [part]) = some (link target) ∧
      tree.descend purpose place (part :: rest) = .linked place target rest) ∨
    (∃ entries, purpose = .write ∧ rest = [] ∧ IsName part ∧ Path.isLongName part = false ∧
      tree.at? place = some (dir entries) ∧ tree.at? (place ++ [part]) = none ∧
      tree.descend purpose place (part :: rest) = .arrived (place ++ [part])) ∨
    ∃ fault, tree.descend purpose place (part :: rest) = .failed fault := by
  by_cases hdir : ∃ entries, tree.at? place = some (dir entries)
  · rcases hdir with ⟨entries, hdir⟩
    rcases part_cases part with hidle | ⟨hidle, hup⟩ | hpart
    · exact Or.inl ⟨place, .idle hdir hidle, descend_idle hdir hidle rest⟩
    · exact Or.inl ⟨place.dropLast, .up hdir hidle hup, descend_up hdir hidle hup rest⟩
    · by_cases hrest : rest = [] ∨ GoesOn purpose rest
      · have hdown := descend_name hdir hpart hrest
        cases hlong : Path.isLongName part with
        | true => exact Or.inr (Or.inr (Or.inr ⟨.nameTooLong, by rw [hdown, hlong]; rfl⟩))
        | false =>
            cases hnode : tree.at? (place ++ [part]) with
            | none =>
                right; right
                rw [hlong, hnode] at hdown
                cases hend : purpose == .write && rest.isEmpty with
                | true =>
                    rw [hend] at hdown
                    simp only [Bool.and_eq_true, beq_iff_eq, List.isEmpty_iff] at hend
                    exact Or.inl ⟨entries, hend.1, hend.2, hpart, rfl, hdir, rfl, hdown⟩
                | false =>
                    rw [hend] at hdown
                    exact Or.inr ⟨.notFound, hdown⟩
            | some node =>
                by_cases hlink : ∃ target, node = link target
                · rcases hlink with ⟨target, rfl⟩
                  exact Or.inr (Or.inl ⟨target, hpart, rfl, rfl,
                    descend_name_of_link hpart hlong hnode hrest⟩)
                · have hlink : ∀ target, node ≠ link target := fun target h => hlink ⟨target, h⟩
                  exact Or.inl ⟨place ++ [part], .name hpart hlong hnode hlink,
                    descend_name_of_not_link hpart hlong hnode hlink hrest⟩
      · rcases not_or.1 hrest with ⟨hne, hgoes⟩
        exact Or.inr (Or.inr (Or.inr ⟨.isDirectory, descend_closed hdir hpart hne hgoes⟩))
  · have hnot : ∀ entries, tree.at? place ≠ some (dir entries) := fun entries h => hdir ⟨entries, h⟩
    exact Or.inr (Or.inr (Or.inr ⟨.notDirectory, descend_of_not_dir hnot part rest⟩))

/-! ## One way -/

theorem follow_congr {place' : Place} {parts' : List Text}
    (h : tree.descend purpose place parts = tree.descend purpose place' parts') (links : Nat) :
    tree.follow purpose links place parts = tree.follow purpose links place' parts' := by
  cases links with
  | zero => simp only [follow, h]
  | succ links => simp only [follow, h]

theorem follow_linked {directory : Place}
    (h : tree.descend purpose place parts = .linked directory target rest) (links : Nat) :
    tree.follow purpose (links + 1) place parts =
      tree.follow purpose links (linkStart directory target) (Path.split target ++ rest) := by
  simp only [follow, h]

theorem follow_arrived (h : tree.descend purpose place parts = .arrived goal) (links : Nat) :
    tree.follow purpose links place parts = .ok goal := by
  cases links with
  | zero => simp only [follow, h]
  | succ links => simp only [follow, h]

theorem follow_failed {fault : Fault} (h : tree.descend purpose place parts = .failed fault)
    (links : Nat) : tree.follow purpose links place parts = .error fault := by
  cases links with
  | zero => simp only [follow, h]
  | succ links => simp only [follow, h]

/-! ## Whole ways -/

/-- The parts lead from a place to a goal, through so many links. -/
inductive Leads (tree : Node) : Nat → Place → List Text → Place → Prop
  | done (place : Place) : Leads tree 0 place [] place
  | idle {links : Nat} {place goal : Place} {part : Text} {rest : List Text} {entries : Entries} :
      tree.at? place = some (dir entries) → Path.isIdle part = true →
      Leads tree links place rest goal → Leads tree links place (part :: rest) goal
  | up {links : Nat} {place goal : Place} {part : Text} {rest : List Text} {entries : Entries} :
      tree.at? place = some (dir entries) → Path.isIdle part = false → Path.isUp part = true →
      Leads tree links place.dropLast rest goal → Leads tree links place (part :: rest) goal
  | name {links : Nat} {place goal : Place} {part : Text} {rest : List Text} {node : Node} :
      IsName part → Path.isLongName part = false → tree.at? (place ++ [part]) = some node →
      (∀ target, node ≠ link target) → Leads tree links (place ++ [part]) rest goal →
      Leads tree links place (part :: rest) goal
  | link {links more : Nat} {place mid goal : Place} {part target : Text} {rest : List Text} :
      IsName part → Path.isLongName part = false →
      tree.at? (place ++ [part]) = some (link target) →
      Leads tree links (linkStart place target) (Path.split target) mid →
      Leads tree more mid rest goal → Leads tree (links + more + 1) place (part :: rest) goal

theorem Takes.leads (h : Takes tree place part mid) (hrest : Leads tree links mid rest goal) :
    Leads tree links place (part :: rest) goal := by
  cases h with
  | idle hdir hidle => exact .idle hdir hidle hrest
  | up hdir hidle hup => exact .up hdir hidle hup hrest
  | name hpart hlong hnode hlink => exact .name hpart hlong hnode hlink hrest

/-- A way that goes on does so from where it has led. -/
theorem follow_append_of_leads (h : Leads tree links place parts goal) :
    ∀ more rest, GoesOn purpose rest →
      tree.follow purpose (links + more) place (parts ++ rest) =
        tree.follow purpose more goal rest := by
  induction h with
  | done place =>
      intro more rest _
      rw [Nat.zero_add, List.nil_append]
  | idle hdir hpart _ ih =>
      intro more rest hrest
      rw [List.cons_append, follow_congr (descend_idle hdir hpart _), ih more rest hrest]
  | up hdir hidle hpart _ ih =>
      intro more rest hrest
      rw [List.cons_append, follow_congr (descend_up hdir hidle hpart _), ih more rest hrest]
  | @name _ _ _ _ rest' _ hpart hlong hnode hlink _ ih =>
      intro more rest hrest
      have hgoes : GoesOn purpose (rest' ++ rest) := hrest.append rest'
      rw [List.cons_append,
        follow_congr (descend_name_of_not_link hpart hlong hnode hlink (Or.inr hgoes)),
        ih more rest hrest]
  | @link links' more' place mid goal part target rest' hpart hlong hnode _ _ ihtarget ihrest =>
      intro more rest hrest
      have hgoes : GoesOn purpose (rest' ++ rest) := hrest.append rest'
      have hcount : links' + more' + 1 + more = links' + (more' + more) + 1 := by omega
      rw [List.cons_append, hcount,
        follow_linked (descend_name_of_link hpart hlong hnode (Or.inr hgoes)),
        ihtarget (more' + more) (rest' ++ rest) hgoes, ihrest more rest hrest]

theorem follow_of_leads (h : Leads tree links place parts goal) (more : Nat) :
    tree.follow .find (links + more) place parts = .ok goal := by
  have happend := follow_append_of_leads h more [] (Or.inl rfl)
  rw [List.append_nil] at happend
  rw [happend, follow_arrived rfl]

/-! ## From following to leading -/

theorem leads_append (h : Leads tree links place (parts ++ rest) goal) :
    ∃ before after mid, links = before + after ∧ Leads tree before place parts mid ∧
      Leads tree after mid rest goal := by
  induction parts generalizing links place with
  | nil => exact ⟨0, links, place, (Nat.zero_add links).symm, .done place, h⟩
  | cons part parts ih =>
      cases h with
      | idle hdir hpart hrest =>
          rcases ih hrest with ⟨before, after, mid, hcount, hfirst, hsecond⟩
          exact ⟨before, after, mid, hcount, .idle hdir hpart hfirst, hsecond⟩
      | up hdir hidle hpart hrest =>
          rcases ih hrest with ⟨before, after, mid, hcount, hfirst, hsecond⟩
          exact ⟨before, after, mid, hcount, .up hdir hidle hpart hfirst, hsecond⟩
      | name hpart hlong hnode hlink hrest =>
          rcases ih hrest with ⟨before, after, mid, hcount, hfirst, hsecond⟩
          exact ⟨before, after, mid, hcount, .name hpart hlong hnode hlink hfirst, hsecond⟩
      | @link inside _ _ _ _ _ _ _ hpart hlong hnode htarget hrest =>
          rcases ih hrest with ⟨before, after, mid, hcount, hfirst, hsecond⟩
          exact ⟨inside + before + 1, after, mid, by omega, .link hpart hlong hnode htarget hfirst,
            hsecond⟩

/-- What a descent shows of a way: it has arrived, or a link was met and what leads on from there leads
on from here. -/
theorem leads_of_descend (tree : Node) (place : Place) (parts : List Text) :
    (∀ goal, tree.descend .find place parts = .arrived goal → Leads tree 0 place parts goal) ∧
      ∀ directory target rest, tree.descend .find place parts = .linked directory target rest →
        ∀ links more mid goal, Leads tree links (linkStart directory target) (Path.split target) mid →
          Leads tree more mid rest goal → Leads tree (links + more + 1) place parts goal := by
  induction parts generalizing place with
  | nil =>
      constructor
      · rintro goal h
        cases h
        exact .done place
      · rintro directory target rest h
        cases h
  | cons part rest ih =>
      rcases descend_cases tree .find place part rest with
        ⟨here, htakes, heq⟩ | ⟨target, hpart, hlong, hnode, heq⟩ | ⟨_, hwrite, -⟩ | ⟨fault, heq⟩
      · rw [heq]
        rcases ih here with ⟨harrived, hlinked⟩
        refine ⟨fun goal h => htakes.leads (harrived goal h), ?_⟩
        intro directory target rest h links more mid goal hfirst hsecond
        exact htakes.leads (hlinked directory target rest h links more mid goal hfirst hsecond)
      · rw [heq]
        constructor
        · intro goal h
          cases h
        · intro directory target' rest' h links more mid goal hfirst hsecond
          cases h
          exact .link hpart hlong hnode hfirst hsecond
      · cases hwrite
      · rw [heq]
        simp

theorem leads_of_follow (h : tree.follow .find n place parts = .ok goal) :
    ∃ links, links ≤ n ∧ Leads tree links place parts goal := by
  induction n generalizing place parts with
  | zero =>
      rw [follow] at h
      split at h
      · next g harrived =>
        cases h
        exact ⟨0, Nat.le_refl 0, (leads_of_descend tree place parts).1 _ harrived⟩
      · cases h
      · cases h
  | succ n ih =>
      rw [follow] at h
      split at h
      · next g harrived =>
        cases h
        exact ⟨0, Nat.zero_le _, (leads_of_descend tree place parts).1 _ harrived⟩
      · next directory target rest hlinked =>
        rcases ih h with ⟨links, hle, hleads⟩
        rcases leads_append hleads with ⟨before, after, mid, hcount, hfirst, hsecond⟩
        refine ⟨before + after + 1, by omega, ?_⟩
        exact (leads_of_descend tree place parts).2 _ _ _ hlinked _ _ _ _ hfirst hsecond
      · cases h

/-- A way to a directory starts at one. -/
theorem Leads.start_dir (h : Leads tree links place parts goal)
    (hgoal : tree.at? goal = some (dir entries)) :
    ∃ entries, tree.at? place = some (dir entries) := by
  cases h with
  | done => exact ⟨entries, hgoal⟩
  | idle hdir _ _ => exact ⟨_, hdir⟩
  | up hdir _ _ _ => exact ⟨_, hdir⟩
  | name _ _ hnode _ _ => exact exists_dir_of_at?_concat hnode
  | link _ _ hnode _ _ => exact exists_dir_of_at?_concat hnode

end Node

end ImportLint
