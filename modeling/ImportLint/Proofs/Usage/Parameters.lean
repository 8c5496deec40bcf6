import ImportLint.Usage
import ImportLint.Proofs.Text.Layout

/-!
# Parameter lists

A parameter list may run over many lines, so what stands on one line does not tell whether a type is
listed. The scanner works on the stretches that closing parentheses end, one after the other:

* `parameterLists_cons`: one more stretch in front adds its list, if it has one, in front;
* `parameterLists_append`: text behind can only add lists behind;
* `parameterLists_squeeze`: runs of line feeds count like one line feed.
-/

namespace ImportLint

namespace Usage

open Text

variable {name s t piece : Text}

/-! ## Stretch by stretch -/

theorem parameterLists_of_notMem (h : ')' ∉ t) : parameterLists t = [] := by
  simp [parameterLists, List.splitOn_eq_singleton h]

theorem parameterLists_cons (h : ')' ∉ piece) (rest : Text) :
    parameterLists (piece ++ ')' :: rest) = (parameters? piece).toList ++ parameterLists rest := by
  have hne : rest.splitOn ')' ≠ [] := List.splitOn_ne_nil ')' rest
  rw [parameterLists, List.splitOn_append_cons_self_of_not_mem h,
    List.dropLast_cons_of_ne_nil hne, List.filterMap_cons]
  cases parameters? piece with
  | none => rfl
  | some list => rfl

/-- Text behind leaves the lists found before as they are and can only add more. -/
theorem parameterLists_append (s t : Text) :
    ∃ more, parameterLists (s ++ t) = parameterLists s ++ more := by
  induction s using piece_induction ')' with
  | last piece h =>
      exact ⟨parameterLists (piece ++ t), by simp [parameterLists_of_notMem h]⟩
  | cons piece rest h ih =>
      rcases ih with ⟨more, hmore⟩
      refine ⟨more, ?_⟩
      rw [List.append_assoc, List.cons_append, parameterLists_cons h, parameterLists_cons h, hmore,
        List.append_assoc]

theorem parameterLists_append_of_notMem (ht : ')' ∉ t) (s : Text) :
    parameterLists (s ++ t) = parameterLists s := by
  induction s using piece_induction ')' with
  | last piece h =>
      have hboth : ')' ∉ piece ++ t := fun hm => (List.mem_append.1 hm).elim h ht
      simp [parameterLists_of_notMem h, parameterLists_of_notMem hboth]
  | cons piece rest h ih =>
      rw [List.append_assoc, List.cons_append, parameterLists_cons h, parameterLists_cons h, ih]

/-! ## Line feeds -/

theorem afterOpening?_newline (t : Text) : afterOpening? ('\n' :: t) = none := rfl

theorem parameters?_newline (t : Text) : parameters? ('\n' :: t) = parameters? t := by
  simp [parameters?, afterOpening?_newline]

theorem parameterLists_newline (t : Text) : parameterLists ('\n' :: t) = parameterLists t := by
  induction t using piece_induction ')' with
  | last piece h =>
      have hfront : ')' ∉ '\n' :: piece := by simpa using h
      rw [parameterLists_of_notMem h, parameterLists_of_notMem hfront]
  | cons piece rest h ih =>
      have hfront : ')' ∉ '\n' :: piece := by simpa using h
      rw [← List.cons_append, parameterLists_cons hfront, parameterLists_cons h,
        parameters?_newline]

theorem afterOpening?_squeeze (t : Text) :
    afterOpening? (squeeze t) = (afterOpening? t).map squeeze := by
  have hlead : after? "function ".toList (squeeze t) = (after? "function ".toList t).map squeeze :=
    after?_squeeze (by decide) t
  unfold afterOpening?
  rw [hlead]
  cases after? "function ".toList t with
  | none => rfl
  | some rest =>
      simp only [Option.map_some, dropWhile_squeeze]
      -- What follows the name starts with the same character before and after squeezing.
      rcases rest.dropWhile isWord with _ | ⟨c, body⟩
      · rfl
      · by_cases hc : c = '\n'
        · subst hc
          rcases exists_squeeze_newline body with ⟨u, hu⟩
          simp [hu]
        · rw [squeeze_cons_of_ne hc]
          by_cases hopen : c = '('
          · subst hopen
            rfl
          · simp [hopen]

theorem parameters?_squeeze (t : Text) :
    parameters? (squeeze t) = (parameters? t).map squeeze := by
  induction t with
  | nil => rfl
  | cons c t ih =>
      have hhere := afterOpening?_squeeze (c :: t)
      by_cases h : c = '\n' ∧ t.head? = some '\n'
      · rcases h with ⟨rfl, hnext⟩
        simpa [squeeze, hnext, parameters?_newline] using ih
      · have hsq : squeeze (c :: t) = c :: squeeze t := by simp [squeeze, h]
        rw [hsq] at hhere ⊢
        cases hopen : afterOpening? (c :: t) with
        | none => simp [parameters?, hhere, hopen, ih]
        | some body => simp [parameters?, hhere, hopen]

theorem parameterLists_squeeze (t : Text) :
    parameterLists (squeeze t) = (parameterLists t).map squeeze := by
  induction t using piece_induction ')' with
  | last piece h =>
      have hfree : ')' ∉ squeeze piece := fun hm => h ((squeeze_sublist piece).mem hm)
      simp [parameterLists_of_notMem h, parameterLists_of_notMem hfree]
  | cons piece rest h ih =>
      have hfree : ')' ∉ squeeze piece := fun hm => h ((squeeze_sublist piece).mem hm)
      rw [squeeze_append_cons (by decide), parameterLists_cons hfree, parameterLists_cons h, ih,
        parameters?_squeeze]
      cases parameters? piece with
      | none => rfl
      | some list => rfl

theorem isListed_squeeze (hname : '\n' ∉ name) (list : Text) :
    isListed name (squeeze list) = isListed name list := by
  have hitem : name.isPrefixOf ∘ squeeze = name.isPrefixOf :=
    funext fun item => isPrefixOf_squeeze hname item
  simp only [isListed, items_squeeze, List.any_map, hitem]

/-! ## Parameter types -/

/-- A listed type stays listed when text is added behind. -/
theorem parameterType_append (h : holds name s parameterType = true) (t : Text) :
    holds name (s ++ t) parameterType = true := by
  rcases parameterLists_append s t with ⟨more, hmore⟩
  have hs : (parameterLists s).any (isListed name) = true := h
  simp [holds, hmore, hs]

/-- Whether a type is listed depends on the non-empty lines alone. -/
theorem parameterType_eq_stacked (hname : '\n' ∉ name) (t : Text) :
    holds name t parameterType = holds name (stacked (nonEmptyLines t)) parameterType := by
  -- Line feeds at the two ends belong to no list; with them the text is squeezed to its lines.
  have hframe : parameterLists ('\n' :: (t ++ ['\n'])) = parameterLists t := by
    rw [parameterLists_newline, parameterLists_append_of_notMem (by decide)]
  have hlisted : isListed name ∘ squeeze = isListed name :=
    funext fun list => isListed_squeeze hname list
  calc
    holds name t parameterType
        = (parameterLists ('\n' :: (t ++ ['\n']))).any (isListed name) := by rw [hframe, holds]
    _ = (parameterLists (squeeze ('\n' :: (t ++ ['\n'])))).any (isListed name) := by
          rw [parameterLists_squeeze, List.any_map, hlisted]
    _ = holds name (stacked (nonEmptyLines t)) parameterType := by rw [squeeze_framed, holds]

end Usage

end ImportLint
