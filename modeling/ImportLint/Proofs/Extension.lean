import ImportLint.Analysis
import ImportLint.Proofs.Text.Case
import ImportLint.Proofs.Text.Lines

/-!
# Spellings of an extension

An extension may be given with or without its dot and in either case. All spellings have one normal
form, the lower case with the dot, which is also the form in which the extension of a file name is looked
up. So the same extensions are wanted however they are spelled (`wantedExtensions_of_mem_spellings`), and
a file is kept under each spelling of its own extension (`wantedExtensions_contains`).
-/

namespace ImportLint

namespace Extension

open Text

variable {extension stem spelled : Text}

/-! ## The normal form -/

theorem normalize_of_dot (h : extension.head? = some '.') :
    normalize extension = lower extension := by
  rcases List.head?_eq_some_iff.1 (head?_lower_eq_dot_iff.2 h) with ⟨rest, hlower⟩
  simp only [normalize, hlower]

theorem normalize_of_no_dot (h : extension.head? ≠ some '.') :
    normalize extension = '.' :: lower extension := by
  rw [normalize]
  split
  · next rest hlower =>
    exact absurd (head?_lower_eq_dot_iff.1 (by rw [hlower, List.head?_cons])) h
  · rfl

theorem normalize_cons_dot (extension : Text) :
    normalize ('.' :: extension) = '.' :: lower extension := by
  rw [normalize_of_dot List.head?_cons, lower_cons_dot]

theorem head?_normalize (extension : Text) : (normalize extension).head? = some '.' := by
  by_cases h : extension.head? = some '.'
  · rw [normalize_of_dot h]
    exact head?_lower_eq_dot_iff.2 h
  · rw [normalize_of_no_dot h, List.head?_cons]

theorem lower_normalize (extension : Text) : lower (normalize extension) = normalize extension := by
  by_cases h : extension.head? = some '.'
  · rw [normalize_of_dot h, lower_lower]
  · rw [normalize_of_no_dot h, lower_cons_dot, lower_lower]

theorem normalize_normalize (extension : Text) :
    normalize (normalize extension) = normalize extension := by
  rw [normalize_of_dot (head?_normalize extension), lower_normalize]

/-! ## Spellings -/

/-- The ways to give an extension: as it is or in lower case, with or without a dot in front. -/
def spellings (extension : Text) : List Text :=
  [extension, '.' :: extension, lower extension, lower ('.' :: extension)]

/-- All spellings of an extension that has no dot of its own have one normal form. -/
theorem normalize_of_mem_spellings (h : extension.head? ≠ some '.')
    (hspelled : spelled ∈ spellings extension) : normalize spelled = '.' :: lower extension := by
  have hlowered : (lower extension).head? ≠ some '.' := fun hdot => h (head?_lower_eq_dot_iff.1 hdot)
  simp only [spellings, List.mem_cons, List.not_mem_nil, or_false] at hspelled
  rcases hspelled with rfl | rfl | rfl | rfl
  · exact normalize_of_no_dot h
  · exact normalize_cons_dot extension
  · rw [normalize_of_no_dot hlowered, lower_lower]
  · rw [lower_cons_dot, normalize_cons_dot, lower_lower]

/-! ## File names -/

theorem ofName_append_dot (hstem : stem ≠ []) (hne : extension ≠ []) (hdot : '.' ∉ extension) :
    ofName (stem ++ '.' :: extension) = '.' :: extension := by
  have htail : afterLast '.' (stem ++ '.' :: extension) = extension := by
    rw [afterLast_append_mark, afterLast_of_notMem hdot]
  -- The dot is not the first character, so it starts an extension.
  have hlong : ¬ (stem ++ '.' :: extension).length ≤ extension.length + 1 := by
    have hfront : 0 < stem.length := List.length_pos_iff.2 hstem
    rw [List.length_append, List.length_cons]
    omega
  have hfull : extension.isEmpty = false := by simpa using hne
  simp only [ofName, htail, hfull, hlong, decide_false, Bool.or_false, Bool.false_eq_true, if_false]

/-! ## What is selected -/

/-- The wanted extensions are the same however one of those given is spelled. -/
theorem wantedExtensions_of_mem_spellings (h : extension.head? ≠ some '.')
    (hspelled : spelled ∈ spellings extension) (before after : List Text) :
    wantedExtensions (before ++ spelled :: after) =
      wantedExtensions (before ++ extension :: after) := by
  have hsame : normalize spelled = normalize extension := by
    rw [normalize_of_mem_spellings h hspelled, normalize_of_no_dot h]
  simp [wantedExtensions, hsame]

/-- The extension of a file name is wanted under each of its spellings. -/
theorem wantedExtensions_contains {given : List Text} (hstem : stem ≠ []) (hne : extension ≠ [])
    (hdot : '.' ∉ extension) (hspelled : spelled ∈ spellings extension) (hgiven : spelled ∈ given) :
    (wantedExtensions given).contains (lower (ofName (stem ++ '.' :: extension))) = true := by
  have hhead : extension.head? ≠ some '.' := fun h => hdot (List.mem_of_head? h)
  -- Some extension is given, so the standard ones do not count.
  have hwanted : wantedExtensions given = given.map normalize := by
    simp [wantedExtensions, List.ne_nil_of_mem hgiven]
  rw [ofName_append_dot hstem hne hdot, lower_cons_dot, hwanted, List.contains_iff_mem]
  exact List.mem_map.2 ⟨spelled, hgiven, normalize_of_mem_spellings hhead hspelled⟩

/-- An extension selects the same files however it is spelled. Normalizing it twice is normalizing it
once. If it has no dot of its own, then it has the normal form that it has with one, which is the lower
case of that, and in whatever place and spelling it is given, the analysis is the same. A file that has
it behind a stem is kept under each of its spellings. -/
theorem selects_however_spelled (extension : Text) :
    normalize (normalize extension) = normalize extension ∧
      (extension.head? ≠ some '.' →
        normalize extension = normalize ('.' :: extension) ∧
          normalize extension = lower ('.' :: extension) ∧
          ∀ spelled ∈ spellings extension, ∀ (tree : Node) (root : Path) (now : Text)
            (included excluded before after : List Text),
            analyze tree root now included excluded (before ++ spelled :: after) =
              analyze tree root now included excluded (before ++ extension :: after)) ∧
      ∀ stem, stem ≠ [] → extension ≠ [] → '.' ∉ extension →
        ∀ spelled ∈ spellings extension, ∀ given : List Text, spelled ∈ given →
          (wantedExtensions given).contains (lower (ofName (stem ++ '.' :: extension))) = true := by
  refine ⟨normalize_normalize extension, ?_, ?_⟩
  · intro h
    refine ⟨?_, ?_, ?_⟩
    · rw [normalize_of_no_dot h, normalize_cons_dot]
    · rw [normalize_of_no_dot h, lower_cons_dot]
    · intro spelled hspelled tree root now included excluded before after
      rw [analyze, wantedExtensions_of_mem_spellings h hspelled, ← analyze]
  · intro stem hstem hne hdot spelled hspelled given hgiven
    exact wantedExtensions_contains hstem hne hdot hspelled hgiven

/-- The first capital becomes two characters, and the last one is a sigma at the end of the word. -/
theorem selects_however_spelled_sigma :
    normalize "İΠΣ".toList = ".i\u0307πς".toList ∧
      (wantedExtensions ["php".toList, "i\u0307πς".toList]).contains
        (lower (ofName "a.b.İΠΣ".toList)) = true := by
  rcases selects_however_spelled "İΠΣ".toList with ⟨-, hspellings, hkept⟩
  have hlower : lower ('.' :: "İΠΣ".toList) = ".i\u0307πς".toList := by decide +kernel
  have hspelled : "i\u0307πς".toList ∈ spellings "İΠΣ".toList := by decide +kernel
  exact ⟨(hspellings (by decide)).2.1.trans hlower,
    hkept "a.b".toList (by decide) (by decide) (by decide) _ hspelled _ (by decide)⟩

end Extension

end ImportLint
