import ImportLint.Proofs.Usage.Lines
import Mathlib.Data.List.TakeWhile

/-!
# Where a static reference stands

A static reference is a name, a qualifier that may be empty, and `::`. The test tries every place of
the text and reads the longest path behind the name; here it is described by the text alone
(`staticReference_iff`). Reading the longest path loses nothing, because no character of a path is a
colon: a path ends at the first `::` behind it or is followed by none.

The name is taken letter by letter. It may be empty, overlap itself, or hold colons and backslashes.
-/

namespace ImportLint

namespace Usage

open Text

variable {name t : Text} {c : Char}

/-! ## Qualifiers -/

/-- What stands between a name and `::`: nothing, or a backslash and a path that is not empty. -/
def IsQualifier (qualifier : Text) : Prop :=
  qualifier = [] ∨
    ∃ path, qualifier = '\\' :: path ∧ path ≠ [] ∧ ∀ c ∈ path, isWord c = true ∨ c = '\\'

theorem isPathChar_iff : isPathChar c = true ↔ isWord c = true ∨ c = '\\' := by
  simp [isPathChar]

theorem isPathChar_colon : isPathChar ':' = false := by
  rw [isPathChar, isWord_of_ascii (by decide)]
  rfl

theorem dropWhile_path_colons {path : Text} (hpath : ∀ c ∈ path, isPathChar c = true)
    (rest : Text) : (path ++ "::".toList ++ rest).dropWhile isPathChar = "::".toList ++ rest := by
  have hstop : (':' :: ':' :: rest).dropWhile isPathChar = ':' :: ':' :: rest :=
    List.dropWhile_cons_of_neg (by simp [isPathChar_colon])
  rw [List.append_assoc, List.dropWhile_append_of_pos hpath]
  exact hstop

theorem isQualified_of_isQualifier {qualifier : Text} (h : IsQualifier qualifier) (rest : Text) :
    isQualified (qualifier ++ "::".toList ++ rest) = true := by
  have hcolons : "::".toList.isPrefixOf ("::".toList ++ rest) = true :=
    List.isPrefixOf_iff_prefix.2 (List.prefix_append _ rest)
  rcases h with rfl | ⟨path, rfl, hne, hpath⟩
  · simp [isQualified]
  · rcases path with _ | ⟨p, path⟩
    · exact absurd rfl hne
    · have hp : isPathChar p = true := isPathChar_iff.2 (hpath p List.mem_cons_self)
      have hskip := dropWhile_path_colons
        (fun c hc => isPathChar_iff.2 (hpath c (List.mem_cons_of_mem p hc))) rest
      simp only [List.cons_append, isQualified, hp, hskip, hcolons, Bool.and_self, Bool.or_true]

theorem exists_qualifier_of_isQualified (h : isQualified t = true) :
    ∃ qualifier rest, t = qualifier ++ "::".toList ++ rest ∧ IsQualifier qualifier := by
  rcases Bool.or_eq_true_iff.1 h with hcolons | hpath
  · rcases List.isPrefixOf_iff_prefix.1 hcolons with ⟨rest, rfl⟩
    exact ⟨[], rest, rfl, Or.inl rfl⟩
  · split at hpath
    · next p path =>
      rcases Bool.and_eq_true_iff.1 hpath with ⟨hp, hcolons⟩
      rcases List.isPrefixOf_iff_prefix.1 hcolons with ⟨rest, hrest⟩
      -- What is skipped, with the first character in front of it, is the path.
      refine ⟨'\\' :: p :: path.takeWhile isPathChar, rest, ?_, Or.inr ⟨_, rfl, by simp, ?_⟩⟩
      · have hsplit : path.takeWhile isPathChar ++ ("::".toList ++ rest) = path := by
          rw [hrest]
          exact List.takeWhile_append_dropWhile
        simp only [List.cons_append, List.append_assoc, hsplit]
      · intro c hc
        rcases List.mem_cons.1 hc with rfl | hc
        · exact isPathChar_iff.1 hp
        · exact isPathChar_iff.1 (List.mem_takeWhile_imp hc)
    · cases hpath

theorem isQualified_iff :
    isQualified t = true ↔
      ∃ qualifier rest, t = qualifier ++ "::".toList ++ rest ∧ IsQualifier qualifier := by
  constructor
  · exact exists_qualifier_of_isQualified
  · rintro ⟨qualifier, rest, rfl, hqualifier⟩
    exact isQualified_of_isQualifier hqualifier rest

/-! ## References -/

theorem isStaticAt_iff :
    isStaticAt name t = true ↔ ∃ behind, t = name ++ behind ∧ isQualified behind = true := by
  simp only [isStaticAt, Option.getD_eq_iff, ← after?_eq_some_iff]
  cases after? name t with
  | none => simp
  | some behind => simp

theorem hasStatic_iff :
    hasStatic name t = true ↔
      ∃ before qualifier rest, t = before ++ name ++ qualifier ++ "::".toList ++ rest ∧
        IsQualifier qualifier := by
  rw [hasStatic_eq_hits, hits_iff]
  simp only [isStaticAt_iff, isQualified_iff]
  constructor
  · rintro ⟨_, ⟨before, rfl⟩, _, rfl, qualifier, rest, rfl, hqualifier⟩
    exact ⟨before, qualifier, rest, by simp, hqualifier⟩
  · rintro ⟨before, qualifier, rest, rfl, hqualifier⟩
    refine ⟨name ++ (qualifier ++ "::".toList ++ rest), ⟨before, by simp⟩, _, rfl, ?_⟩
    exact ⟨qualifier, rest, rfl, hqualifier⟩

/-- A text refers to a static member of a name exactly if the name stands in it with a qualifier and
`::` behind. So a reference to a name is one to each of its endings. -/
theorem staticReference_iff (name text : Text) :
    (holds name text staticReference = true ↔
      ∃ before qualifier rest, text = before ++ name ++ qualifier ++ "::".toList ++ rest ∧
        IsQualifier qualifier) ∧
      ∀ front, holds (front ++ name) text staticReference = true →
        holds name text staticReference = true := by
  refine ⟨hasStatic_iff, ?_⟩
  intro front h
  rcases hasStatic_iff.1 h with ⟨before, qualifier, rest, htext, hqualifier⟩
  exact hasStatic_iff.2 ⟨before ++ front, qualifier, rest, by simp [htext], hqualifier⟩

/-- A name that holds a backslash and overlaps itself in the text, with several backslashes in the
path behind it. The dot of the last name is a dot and stands for no other character. -/
theorem staticReference_iff_overlapping :
    let text := "A\\A\\A\\\\B::f".toList
    let refers := fun name => ∃ before qualifier rest,
      text = before ++ name ++ qualifier ++ "::".toList ++ rest ∧ IsQualifier qualifier
    (holds "A\\A".toList text staticReference = true ∧ refers "A\\A".toList) ∧
      holds "A".toList text staticReference = true ∧
      holds "A.".toList text staticReference = false ∧ ¬ refers "A.".toList := by
  intro text refers
  have hqualifier : IsQualifier "\\A\\\\B".toList := by
    refine Or.inr ⟨"A\\\\B".toList, rfl, by decide, ?_⟩
    intro c hc
    have hletter : c.isAlphanum = true ∨ c = '\\' := by
      simpa using List.all_eq_true.1
        (by decide : "A\\\\B".toList.all fun c => c.isAlphanum || c == '\\') c hc
    exact hletter.imp_left isWord_of_isAlphanum
  have hrefers : refers "A\\A".toList := ⟨[], "\\A\\\\B".toList, "f".toList, by decide, hqualifier⟩
  have hlong := (staticReference_iff "A\\A".toList text).1.2 hrefers
  have hdot : holds "A.".toList text staticReference = false := by decide
  refine ⟨⟨hlong, hrefers⟩, ?_, hdot, ?_⟩
  · exact (staticReference_iff "A".toList text).2 "A\\".toList hlong
  · intro hother
    have hholds := (staticReference_iff "A.".toList text).1.2 hother
    rw [hdot] at hholds
    cases hholds

end Usage

end ImportLint
