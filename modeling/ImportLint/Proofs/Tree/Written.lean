import ImportLint.Proofs.Tree.Below

/-!
# Reading what was written

A path along which a file has been written leads to that file (`follow_find_of_write`). The bytes of
the file stay there when another file is written, as long as the two paths did not lead to the same
place (`readBytes_of_writeBytes`).
-/

namespace ImportLint

namespace Node

variable {s t u node : Node} {apart other : Place → Prop} {place goal directory : Place} {name : Text}
  {parts : List Text} {path path' : Path} {entries : Entries} {bytes bytes' : List UInt8} {n : Nat}

/-! ## From writing to finding -/

/-- If the first descent met a link, then so does the second, and if it arrived where the tree has
something, then so does the second. -/
structure IsFoundBy (tree : Node) (first second : Halt) : Prop where
  arrived : ∀ goal node, first = .arrived goal → tree.at? goal = some node → second = .arrived goal
  linked : ∀ directory target rest, first = .linked directory target rest →
    second = .linked directory target rest

theorem isFoundBy_arrived {second : Halt}
    (h : ∀ node, t.at? goal = some node → second = .arrived goal) :
    IsFoundBy t (.arrived goal) second := by
  constructor
  · rintro _ node ⟨⟩ hnode
    exact h node hnode
  · rintro directory target rest ⟨⟩

theorem isFoundBy_failed (tree : Node) (fault : Fault) (second : Halt) :
    IsFoundBy tree (.failed fault) second := by
  constructor
  · rintro goal node ⟨⟩
  · rintro directory target rest ⟨⟩

/-- A descent in order to write is found by one in order to find, in a tree that differs in some
files. -/
theorem descend_find_of_write (h : SameShapeBut apart s t) (place : Place) (parts : List Text) :
    IsFoundBy t (s.descend .write place parts) (t.descend .find place parts) := by
  induction parts generalizing place with
  | nil => exact isFoundBy_arrived fun _ _ => rfl
  | cons part rest ih =>
      have hfind : ∀ rest, rest = [] ∨ GoesOn .find rest := fun _ => Or.inr (Or.inl rfl)
      -- At the end of the way, all that matters is that there is no link.
      have hend : IsName part → Path.isLongName part = false →
          (∀ target, s.at? (place ++ [part]) ≠ some (link target)) →
          IsFoundBy t (.arrived (place ++ [part])) (t.descend .find place [part]) := by
        intro hpart hlong hlink
        refine isFoundBy_arrived ?_
        intro node hnode
        have hlink' : ∀ target, node ≠ link target := by
          rintro target rfl
          exact hlink target ((h.link_iff _ _).2 hnode)
        exact descend_name_of_not_link hpart hlong hnode hlink' (hfind [])
      rcases descend_cases s .write place part rest with
        ⟨here, htakes, heq⟩ | ⟨target, hpart, hlong, hnode, heq⟩ |
        ⟨_, -, rfl, hpart, hlong, -, hnone, heq⟩ | ⟨fault, heq⟩
      · rw [heq]
        cases htakes with
        | idle hdir hidle =>
            rcases h.dir_right hdir with ⟨_, hdir'⟩
            rw [descend_idle hdir' hidle]
            exact ih place
        | up hdir hidle hup =>
            rcases h.dir_right hdir with ⟨_, hdir'⟩
            rw [descend_up hdir' hidle hup]
            exact ih place.dropLast
        | @name node hpart hlong hnode hlink =>
            cases node with
            | link target => exact absurd rfl (hlink target)
            | dir inner =>
                rcases h.dir_right hnode with ⟨_, hnode'⟩
                rw [descend_name_of_not_link hpart hlong hnode' (by simp) (hfind rest)]
                exact ih (place ++ [part])
            | file old =>
                cases rest with
                | nil => exact hend hpart hlong (by simp [hnode])
                | cons next rest =>
                    rw [descend_of_not_dir (by simp [hnode])]
                    exact isFoundBy_failed t _ _
      · rw [heq, descend_name_of_link hpart hlong ((h.link_iff _ _).1 hnode) (hfind rest)]
        exact ⟨by rintro goal node ⟨⟩, fun _ _ _ hlinked => hlinked⟩
      · rw [heq]
        exact hend hpart hlong (by simp [hnone])
      · rw [heq]
        exact isFoundBy_failed t _ _

theorem follow_find_of_write (h : SameShapeBut apart s t) (hnode : t.at? goal = some node)
    (hfollow : s.follow .write n place parts = .ok goal) : t.follow .find n place parts = .ok goal := by
  induction n generalizing place parts with
  | zero =>
      rw [follow] at hfollow
      split at hfollow
      · next harrived =>
        cases hfollow
        exact follow_arrived ((descend_find_of_write h place parts).arrived _ _ harrived hnode) 0
      · cases hfollow
      · cases hfollow
  | succ n ih =>
      rw [follow] at hfollow
      split at hfollow
      · next harrived =>
        cases hfollow
        exact follow_arrived ((descend_find_of_write h place parts).arrived _ _ harrived hnode) (n + 1)
      · next hlinked =>
        rw [follow_linked ((descend_find_of_write h place parts).linked _ _ _ hlinked)]
        exact ih hfollow
      · cases hfollow

/-! ## Where a file is written -/

/-- The end of a way on which something can be written: a directory, or a name in one at which there is
a file or nothing. -/
def IsEnd (tree : Node) (goal : Place) : Prop :=
  (∃ entries, tree.at? goal = some (dir entries)) ∨
    tree.IsFree goal ∧ ∃ directory name entries, goal = directory ++ [name] ∧
      tree.at? directory = some (dir entries)

theorem isEnd_of_descend (hplace : s.at? place = some (dir entries))
    (h : s.descend .write place parts = .arrived goal) : s.IsEnd goal := by
  induction parts generalizing place entries with
  | nil =>
      cases h
      exact Or.inl ⟨entries, hplace⟩
  | cons part rest ih =>
      rcases descend_cases s .write place part rest with
        ⟨here, htakes, heq⟩ | ⟨_, -, -, -, heq⟩ | ⟨_, -, -, -, -, -, hnone, heq⟩ | ⟨fault, heq⟩
      · rw [heq] at h
        cases htakes with
        | idle _ _ => exact ih hplace h
        | up _ _ _ =>
            rcases exists_dir_dropLast hplace with ⟨above, habove⟩
            exact ih habove h
        | @name node _ _ hnode hlink =>
            cases node with
            | link target => exact absurd rfl (hlink target)
            | dir inner => exact ih hnode h
            | file old =>
                -- No way goes on below a file.
                cases rest with
                | nil =>
                    cases h
                    exact Or.inr ⟨by simp [IsFree, hnode], place, part, entries, rfl, hplace⟩
                | cons next rest =>
                    rw [descend_of_not_dir (by simp [hnode])] at h
                    cases h
      · rw [heq] at h
        cases h
      · rw [heq] at h
        cases h
        exact Or.inr ⟨by simp [IsFree, hnone], place, part, entries, rfl, hplace⟩
      · rw [heq] at h
        cases h

theorem isEnd_of_follow (hplace : s.at? place = some (dir entries))
    (h : s.follow .write n place parts = .ok goal) : s.IsEnd goal := by
  induction n generalizing place parts entries with
  | zero =>
      rw [follow] at h
      split at h
      · next harrived =>
        cases h
        exact isEnd_of_descend hplace harrived
      · cases h
      · cases h
  | succ n ih =>
      rw [follow] at h
      split at h
      · next harrived =>
        cases h
        exact isEnd_of_descend hplace harrived
      · next hlinked =>
        rcases exists_link_of_descend hlinked with ⟨-, name, -, -, hlink, -⟩
        rcases exists_dir_of_at?_concat hlink with ⟨_, hdir⟩
        rcases exists_dir_linkStart hdir _ with ⟨_, hstart⟩
        exact ih hstart h
      · cases h

theorem follow_of_reach {purpose : Purpose} (h : s.reach purpose path = .ok goal) :
    path.holdsNull = false ∧ path.isLong = false ∧
      s.follow purpose linkLimit [] path.parts = .ok goal := by
  rw [reach] at h
  split at h
  · cases h
  · next hnull =>
    split at h
    · cases h
    · next hlong =>
      split at h
      · next hfollow =>
        cases h
        exact ⟨Bool.eq_false_iff.2 hnull, Bool.eq_false_iff.2 hlong, hfollow⟩
      · cases h

theorem writeBytes_cases (htop : s.at? [] = some (dir entries))
    (h : s.writeBytes path bytes = .ok t) :
    ∃ directory name inner, s.reach .write path = .ok (directory ++ [name]) ∧
      s.at? directory = some (dir inner) ∧ s.IsFree (directory ++ [name]) ∧
      t = s.put (directory ++ [name]) (file bytes) := by
  rw [writeBytes] at h
  split at h
  · cases h
  · next goal hreach =>
    split at h
    · cases h
    · next hnot =>
      cases h
      rcases isEnd_of_follow htop (follow_of_reach hreach).2.2 with
        ⟨there, hdir⟩ | ⟨hfree, directory, name, inner, rfl, hdir⟩
      · simp [hdir, isDir] at hnot
      · exact ⟨directory, name, inner, hreach, hdir, hfree, rfl⟩

/-! ## Two files written -/

theorem sameShapeBut_put (hdir : s.at? directory = some (dir entries))
    (hfree : s.IsFree (directory ++ [name])) (bytes : List UInt8) :
    SameShapeBut (· = directory ++ [name]) s (s.put (directory ++ [name]) (file bytes)) where
  same := fun place hplace =>
    (shape_eq_of_outline_eq (outline_at?_put bytes hdir hfree hplace)).symm
  freeLeft := by
    rintro place rfl
    exact hfree
  freeRight := by
    rintro place rfl node hnode
    rw [at?_put_self _ hdir] at hnode
    exact ⟨bytes, (Option.some.inj hnode).symm⟩

theorem IsFree.of_shape (h : s.IsFree place)
    (hshape : (s.at? place).map shape = (t.at? place).map shape) : t.IsFree place := by
  intro node hnode
  rw [hnode] at hshape
  rcases shape_cases hshape with ⟨-, hnone⟩ | ⟨_, bytes, -, hfile⟩ | ⟨_, hlink, -⟩ | ⟨_, _, hdir, -⟩
  · cases hnone
  · exact ⟨bytes, Option.some.inj hfile⟩
  · rcases h _ hlink with ⟨bytes, hfile⟩
    cases hfile
  · exact absurd hdir (h.not_dir _)

theorem SameShapeBut.trans (h : SameShapeBut apart s t) (h' : SameShapeBut other t u) :
    SameShapeBut (fun place => apart place ∨ other place) s u where
  same := by
    intro place hplace
    rcases not_or.1 hplace with ⟨hfirst, hsecond⟩
    exact (h.same place hfirst).trans (h'.same place hsecond)
  freeLeft := by
    intro place hplace
    by_cases hfirst : apart place
    · exact h.freeLeft place hfirst
    · exact (h'.freeLeft place (hplace.resolve_left hfirst)).of_shape (h.same place hfirst).symm
  freeRight := by
    intro place hplace
    by_cases hsecond : other place
    · exact h'.freeRight place hsecond
    · exact (h.freeRight place (hplace.resolve_right hsecond)).of_shape (h'.same place hsecond)

/-- What was written first is still read after something else has been written, unless both paths
lead to the same place. -/
theorem readBytes_of_writeBytes (htop : s.at? [] = some (dir entries))
    (hfirst : s.writeBytes path bytes = .ok t) (hsecond : t.writeBytes path' bytes' = .ok u)
    (hne : s.reach .write path ≠ s.reach .write path') : u.readBytes path = .ok bytes := by
  rcases writeBytes_cases htop hfirst with ⟨d, name, inner, hreach, hdir, hfree, rfl⟩
  have hshape := sameShapeBut_put hdir hfree bytes
  have hthere : (s.put (d ++ [name]) (file bytes)).at? (d ++ [name]) = some (file bytes) :=
    at?_put_self _ hdir
  generalize s.put (d ++ [name]) (file bytes) = t at *
  rcases hshape.dir_right htop with ⟨top, htop'⟩
  rcases writeBytes_cases htop' hsecond with ⟨d', name', inner', hreach', hdir', hfree', rfl⟩
  have hshape' := sameShapeBut_put hdir' hfree' bytes'
  rcases follow_of_reach hreach with ⟨hnull, hlong, hfollow⟩
  rcases follow_of_reach hreach' with ⟨hnull', hlong', hfollow'⟩
  have helsewhere : d ++ [name] ≠ d' ++ [name'] := by
    intro heq
    have hstart : ¬ ([] : Place) = d ++ [name] := by simp
    rcases follow_frame hshape .write linkLimit hstart path'.parts with
      ⟨hsame, hgoal⟩ | ⟨goal, rfl, before, last, hparts, -, hmeets⟩ | ⟨⟨f, g, -, hfail, -⟩, -⟩
    · exact hgoal _ (hsame.trans hfollow') heq.symm
    · -- The second path led to the first file before anything was written.
      rw [← hparts] at hmeets
      refine hne ?_
      rw [hreach, reach_of_follow hnull' hlong', hmeets]
    · rw [hfail] at hfollow'
      cases hfollow'
  have hkept : (t.put (d' ++ [name']) (file bytes')).at? (d ++ [name]) = some (file bytes) := by
    rcases outline_cases (outline_at?_put bytes' hdir' hfree' helsewhere) with hsame | ⟨_, _, -, hdir⟩
    · rw [hsame, hthere]
    · rw [hthere] at hdir
      cases hdir
  have hfound := follow_find_of_write (hshape.trans hshape') hkept hfollow
  have hlocate : (t.put (d' ++ [name']) (file bytes')).locate path = .ok (d ++ [name]) := by
    rw [locate, reach_of_follow hnull hlong, hfound]
  simp only [readBytes, hlocate, hkept]

end Node

end ImportLint
