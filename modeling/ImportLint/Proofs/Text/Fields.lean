import ImportLint.Proofs.Text.Blank
import ImportLint.Proofs.Text.Lines

/-!
# Items of a comma list

The items of a list are described by where they stand in it (`mem_items_iff`): between two commas,
where the blanks behind the first of them belong to the comma and not to the item. Blanks before a
comma stay, so trimming a list and then reading its items trims every item only if there are no such
blanks (`items_trim`).

A list can be written with any blanks in front of its items (`written`). Reading it gives the items
back, except that the first one keeps its blanks (`items_written`) unless the list is trimmed before
it is read (`items_trim_written`).
-/

namespace ImportLint

namespace Text

variable {s t list item : Text}

/-! ## Where items stand -/

/-- A stretch of a list without commas that ends at the end of the list or before a comma, and that
starts at the start of the list or behind a comma and all the blanks that follow it. -/
def IsItem (item list : Text) : Prop :=
  ',' ∉ item ∧
    ∃ left right, list = left ++ item ++ right ∧
      (left = [] ∨
        ∃ front blanks, left = front ++ ',' :: blanks ∧ (∀ c ∈ blanks, isBlank c = true) ∧
          ∀ c, item.head? = some c → isBlank c = false) ∧
      (right = [] ∨ ∃ rest, right = ',' :: rest)

theorem items_of_notMem (h : ',' ∉ t) : items t = [t] := by
  simp [items, List.splitOn_eq_singleton h]

theorem items_cons (h : ',' ∉ s) (t : Text) :
    items (s ++ ',' :: t) = s :: (t.splitOn ',').map trimLeft := by
  simp [items, List.splitOn_append_cons_self_of_not_mem h]

theorem isItem_of_mem_items (h : item ∈ items list) : IsItem item list := by
  by_cases hcomma : ',' ∈ list
  · obtain ⟨first, rest, rfl, hfirst⟩ := List.eq_append_cons_of_mem hcomma
    rw [items_cons hfirst] at h
    rcases List.mem_cons.1 h with rfl | h
    · exact ⟨hfirst, [], ',' :: rest, rfl, Or.inl rfl, Or.inr ⟨rest, rfl⟩⟩
    · -- A later item is a piece without its leading blanks, which go to the left.
      rcases List.mem_map.1 h with ⟨piece, hpiece, rfl⟩
      have hfree : ',' ∉ trimLeft piece :=
        fun hm => notMem_of_mem_splitOn hpiece ((trimLeft_sublist piece).mem hm)
      rcases exists_blank_append_trimLeft piece with ⟨blanks, hsplit, hblanks, hhead⟩
      rcases exists_of_mem_splitOn hpiece with ⟨left, right, heq, hleft, hright⟩
      refine ⟨hfree, first ++ ',' :: (left ++ blanks), right, ?_, Or.inr ?_, hright⟩
      · rw [heq]
        nth_rewrite 1 [hsplit]
        simp
      · rcases hleft with rfl | ⟨front, rfl⟩
        · exact ⟨first, blanks, rfl, hblanks, hhead⟩
        · exact ⟨first ++ ',' :: front, blanks, by simp, hblanks, hhead⟩
  · rw [items_of_notMem hcomma, List.mem_singleton] at h
    subst h
    exact ⟨hcomma, [], [], by simp, Or.inl rfl, Or.inl rfl⟩

theorem trimLeft_mem_items {piece rest : Text} (front : Text) (h : piece ∈ rest.splitOn ',') :
    trimLeft piece ∈ items (front ++ ',' :: rest) := by
  have hcut : (front ++ ',' :: rest).splitOn ',' = front.splitOn ',' ++ rest.splitOn ',' :=
    List.splitOn_append_cons_self front rest
  cases hfront : front.splitOn ',' with
  | nil => exact absurd hfront (List.splitOn_ne_nil ',' front)
  | cons first more =>
      have hlater : trimLeft piece ∈ (more ++ rest.splitOn ',').map trimLeft :=
        List.mem_map.2 ⟨piece, List.mem_append_right more h, rfl⟩
      simp only [items, hcut, hfront, List.cons_append]
      exact List.mem_cons_of_mem first hlater

theorem mem_items_of_isItem (h : IsItem item list) : item ∈ items list := by
  rcases h with ⟨hfree, left, right, rfl, hleft, hright⟩
  rcases hleft with rfl | ⟨front, blanks, rfl, hblanks, hhead⟩
  · rcases exists_splitOn_append hfree hright with ⟨more, hmore⟩
    simp [items, hmore]
  · -- The blanks and the item together are a piece, since no comma is blank.
    have hpiece : ',' ∉ blanks ++ item := by
      intro hm
      rcases List.mem_append.1 hm with hm | hm
      · exact absurd (hblanks ',' hm) (by decide)
      · exact hfree hm
    rcases exists_splitOn_append hpiece hright with ⟨more, hmore⟩
    have htrim : trimLeft (blanks ++ item) = item := by
      rw [trimLeft_blank_append hblanks]
      cases item with
      | nil => rfl
      | cons c item => exact trimLeft_append_cons (hhead c rfl) [] item
    have hmem : trimLeft (blanks ++ item) ∈ items (front ++ ',' :: (blanks ++ item ++ right)) :=
      trimLeft_mem_items front (hmore ▸ List.mem_cons_self)
    rw [htrim] at hmem
    simpa using hmem

theorem mem_items_iff : item ∈ items list ↔ IsItem item list :=
  ⟨isItem_of_mem_items, mem_items_of_isItem⟩

theorem IsItem.subset (h : IsItem item list) : item ⊆ list := by
  rcases h with ⟨-, left, right, rfl, -, -⟩
  intro c hc
  simp [hc]

/-! ## Items of a trimmed list -/

theorem splitOn_comma_trimRight {t : Text} :
    (∀ field ∈ (t.splitOn ',').dropLast, trimLeft field = trim field) →
      ((trimRight t).splitOn ',').map trimLeft = (t.splitOn ',').map trim := by
  induction t using piece_induction ',' with
  | last field h =>
      intro _
      have hfree : ',' ∉ trimRight field := fun hm => h ((trimRight_sublist field).mem hm)
      simp [List.splitOn_eq_singleton h, List.splitOn_eq_singleton hfree, trimLeft_trimRight]
  | cons field rest h ih =>
      intro hfields
      -- The comma is not blank, so trimming the right end does not reach the first field.
      have hne : rest.splitOn ',' ≠ [] := List.splitOn_ne_nil ',' rest
      rw [List.splitOn_append_cons_self_of_not_mem h, List.dropLast_cons_of_ne_nil hne] at hfields
      have hfield : trimLeft field = trim field := hfields field List.mem_cons_self
      have hrest := ih fun f hf => hfields f (List.mem_cons_of_mem field hf)
      rw [trimRight_append_cons (by decide), List.splitOn_append_cons_self_of_not_mem h,
        List.splitOn_append_cons_self_of_not_mem h, List.map_cons, List.map_cons, hfield, hrest]

/-- The items of a trimmed list, if blanks stand only behind commas and at the ends. -/
theorem items_trim (h : ∀ field ∈ (t.splitOn ',').dropLast, trimLeft field = trim field) :
    items (trim t) = (t.splitOn ',').map trim := by
  by_cases hcomma : ',' ∈ t
  · -- The first field is trimmed from the left with the list, all others as items.
    obtain ⟨first, rest, rfl, hfirst⟩ := List.eq_append_cons_of_mem hcomma
    have hne : rest.splitOn ',' ≠ [] := List.splitOn_ne_nil ',' rest
    rw [List.splitOn_append_cons_self_of_not_mem hfirst, List.dropLast_cons_of_ne_nil hne] at h
    have hhead : trimLeft first = trim first := h first List.mem_cons_self
    have hfree : ',' ∉ trimLeft first := fun hm => hfirst ((trimLeft_sublist first).mem hm)
    have htail := splitOn_comma_trimRight fun f hf => h f (List.mem_cons_of_mem first hf)
    have htrim : trim (first ++ ',' :: rest) = trimLeft first ++ ',' :: trimRight rest := by
      rw [trim, trimLeft_append_cons (by decide), trimRight_append_cons (by decide)]
    rw [htrim, items_cons hfree, htail, hhead, List.splitOn_append_cons_self_of_not_mem hfirst,
      List.map_cons]
  · have hfree : ',' ∉ trim t := fun hm => hcomma ((trim_sublist t).mem hm)
    simp [items_of_notMem hfree, List.splitOn_eq_singleton hcomma]

/-! ## Lists in any layout -/

/-- The comma list of some fields, where a field is an item with the blanks in front of it. -/
def written (fields : List (Text × Text)) : Text :=
  join [','] (fields.map fun (blanks, item) => blanks ++ item)

variable {field : Text × Text} {fields : List (Text × Text)}

/-- Blanks and an item that has no comma and does not start with a blank. -/
def IsField (field : Text × Text) : Prop :=
  (∀ c ∈ field.1, isBlank c = true) ∧ ',' ∉ field.2 ∧
    ∀ c, field.2.head? = some c → isBlank c = false

instance (field : Text × Text) : Decidable (IsField field) :=
  decidable_of_iff
    (field.1.all isBlank = true ∧ ',' ∉ field.2 ∧
      (field.2.head?.all fun c => !isBlank c) = true)
    (by simp [IsField, Option.all_eq_true])

theorem IsField.trimLeft_eq (h : IsField field) : trimLeft (field.1 ++ field.2) = field.2 := by
  rcases field with ⟨blanks, item⟩
  rcases h with ⟨hblanks, -, hhead⟩
  rw [trimLeft_blank_append hblanks]
  cases item with
  | nil => rfl
  | cons c item => exact trimLeft_append_cons (hhead c rfl) [] item

theorem IsField.notMem {mark : Char} (h : IsField field) (hblank : isBlank mark = false)
    (hitem : mark ∉ field.2) : mark ∉ field.1 ++ field.2 := by
  intro hm
  rcases List.mem_append.1 hm with hm | hm
  · exact absurd (h.1 mark hm) (by simp [hblank])
  · exact hitem hm

theorem notMem_written {mark : Char} (hmark : mark ≠ ',') (hblank : isBlank mark = false)
    (h : ∀ field ∈ fields, IsField field ∧ mark ∉ field.2) : mark ∉ written fields := by
  refine notMem_join (by simpa using hmark) ?_
  intro piece hpiece
  rcases List.mem_map.1 hpiece with ⟨field, hfield, rfl⟩
  exact (h field hfield).1.notMem hblank (h field hfield).2

theorem splitOn_written (hne : fields ≠ []) (h : ∀ field ∈ fields, IsField field) :
    (written fields).splitOn ',' = fields.map fun (blanks, item) => blanks ++ item := by
  refine List.splitOn_intercalate ',' ?_ (by simpa using hne)
  intro piece hpiece
  rcases List.mem_map.1 hpiece with ⟨field, hfield, rfl⟩
  exact (h field hfield).notMem (by decide) (h field hfield).2.1

/-- The blanks in front of an item go with the comma before it. Before the first item there is none.
-/
theorem items_written {first : Text × Text} {more : List (Text × Text)}
    (h : ∀ field ∈ first :: more, IsField field) :
    items (written (first :: more)) = (first.1 ++ first.2) :: more.map (·.2) := by
  have hmore : more.map (fun field => trimLeft (field.1 ++ field.2)) = more.map (·.2) :=
    List.map_congr_left fun field hfield => (h field (List.mem_cons_of_mem first hfield)).trimLeft_eq
  rw [items, splitOn_written (List.cons_ne_nil first more) h, List.map_cons]
  simp only [List.map_map]
  exact congrArg ((first.1 ++ first.2) :: ·) hmore

/-- Trimmed items are read back from a trimmed list, in any layout. -/
theorem items_trim_written (hne : fields ≠ [])
    (h : ∀ field ∈ fields, IsField field ∧ Trimmed field.2) :
    items (trim (written fields)) = fields.map (·.2) := by
  have htrim : ∀ field ∈ fields, trim (field.1 ++ field.2) = field.2 := by
    intro field hmem
    rcases h field hmem with ⟨⟨hblanks, -⟩, htrimmed⟩
    exact htrimmed.trim_blank_append hblanks
  have hcut := splitOn_written hne fun field hmem => (h field hmem).1
  have hleft : ∀ piece ∈ (written fields).splitOn ',', trimLeft piece = trim piece := by
    intro piece hpiece
    rw [hcut] at hpiece
    rcases List.mem_map.1 hpiece with ⟨field, hmem, rfl⟩
    exact (h field hmem).1.trimLeft_eq.trans (htrim field hmem).symm
  have hread : items (trim (written fields)) = ((written fields).splitOn ',').map trim :=
    items_trim fun piece hpiece => hleft piece (List.mem_of_mem_dropLast hpiece)
  rw [hread, hcut, List.map_map]
  exact List.map_congr_left htrim

end Text

end ImportLint
