import ImportLint.Proofs.Import.Group
import ImportLint.Proofs.Import.ShortName

/-!
# Names resolve alike wherever they come from

An import is referred to by its last part. Neither the namespace in front of it, however deep, nor the
name that an alias stands for has an influence. So a member of a group resolves to the same name as a
single import of it does.
-/

namespace ImportLint

namespace Import

open Text

variable {front : Text} {ms : List Text}

/-- Single imports of some members below a namespace are referred to as the members are. -/
theorem map_shortName_names_singles (hfront : '{' ∉ front) (hms : ∀ m ∈ ms, '{' ∉ m) :
    (names (ms.map fun m => front ++ '\\' :: m)).map shortName = ms.map shortName := by
  have hsingle : ∀ m ∈ ms, members (front ++ '\\' :: m) = [front ++ '\\' :: m] := by
    intro m hm
    exact members_single (by simp [hfront, hms m hm])
  have hnames : names (ms.map fun m => front ++ '\\' :: m) = ms.map fun m => front ++ '\\' :: m := by
    rw [names, List.flatMap_map, List.flatMap_congr hsingle, ← List.map_eq_flatMap]
  rw [hnames, List.map_map]
  exact List.map_congr_left fun m _ => shortName_append_backslash front m

/-- The name of an import is not changed by a namespace in front of it, nor by what it is an alias
for. What a group in any layout brings in are therefore the names of its members as single imports. -/
theorem shortName_forgets_origin :
    (∀ front name : Text, shortName (front ++ '\\' :: name) = shortName name) ∧
      (∀ original chosen : Text, ¬ " as".toList <:+ original →
        shortName (original ++ " as ".toList ++ chosen) = shortName chosen) ∧
      ∀ (front : Text) (fields : List (Text × Text)) (inside behind : Text), '{' ∉ front →
        fields ≠ [] →
        (∀ field ∈ fields, (IsField field ∧ Trimmed field.2) ∧ '{' ∉ field.2) →
        (∀ c ∈ inside, isBlank c = true) → (∀ c ∈ behind, isBlank c = true) →
          (names [writtenGroup (front ++ ['\\']) fields inside behind]).map shortName =
            (names (fields.map fun field => front ++ '\\' :: field.2)).map shortName := by
  refine ⟨shortName_append_backslash, fun _ chosen h => shortName_append_keyword h chosen, ?_⟩
  intro front fields inside behind hfront hne hfields hinside hbehind
  have hopen : '{' ∉ front ++ ['\\'] := by simpa using hfront
  have hgroup : names [writtenGroup (front ++ ['\\']) fields inside behind] = fields.map (·.2) := by
    rw [names, List.flatMap_singleton]
    exact members_writtenGroup hopen hne (fun field hfield => (hfields field hfield).1) hinside
      hbehind
  have hsingles : (names ((fields.map (·.2)).map fun m => front ++ '\\' :: m)).map shortName =
      (fields.map (·.2)).map shortName := by
    refine map_shortName_names_singles hfront ?_
    intro m hm
    rcases List.mem_map.1 hm with ⟨field, hfield, rfl⟩
    exact (hfields field hfield).2
  rw [hgroup, ← hsingles, List.map_map]
  rfl

/-- The part before the alias has two keywords that share a space, a brace and a namespace of its own.
In the group, one member has an alias, one a namespace, and one is empty. -/
theorem shortName_forgets_origin_overlapping :
    let original := "A as as\\B\x7d as C".toList
    let fields := [([], "F as G".toList), (" ".toList, "Sub\\H".toList), ([], [])]
    ¬ " as".toList <:+ original ∧
      shortName (original ++ " as ".toList ++ "D\\E \x7d".toList) = "E".toList ∧
      (names [writtenGroup ("A\\B".toList ++ ['\\']) fields " ".toList []]).map shortName =
        ["G".toList, "H".toList, []] := by
  intro original fields
  rcases shortName_forgets_origin with ⟨-, halias, hgroup⟩
  have hend : ¬ " as".toList <:+ original := by decide
  have hspace : ∀ c ∈ " ".toList, isBlank c = true := List.forall_mem_singleton.2 rfl
  have hnone : ∀ c ∈ ([] : Text), isBlank c = true := fun c hc => absurd hc List.not_mem_nil
  have hmembers := hgroup "A\\B".toList fields " ".toList [] (by decide) (by decide) (by decide)
    hspace hnone
  exact ⟨hend, (halias original "D\\E \x7d".toList hend).trans (by decide),
    hmembers.trans (by decide)⟩

end Import

end ImportLint
