import ImportLint.Proofs.Toml.Written

/-!
# Reading line by line

`Reads` says what a line does to a document, and `ReadsLines` what several lines do. While the keys of
one table are read, the document stays of one form (`Opens`), to which each further key adds an entry
(`Opens.reads_entry`) and which a header takes over to the next table (`Opens.reads_header`).
-/

namespace ImportLint

namespace Toml

open Text

variable {doc doc' next : Document} {key line : Text} {lines more header : List Text} {fuel : Nat}
  {whole : Table → Table} {inner table top : Table}

/-! ## Lines -/

namespace Document

/-- A line is one statement, whatever stands behind it. -/
structure Reads (doc : Document) (line : Text) (next : Document) : Prop where
  starts : ∃ c rest, line = c :: rest ∧ isSpaceOrBreak c = false
  reads : ∀ rest, doc.statement (line ++ rest) = .ok (next, rest)

inductive ReadsLines : Document → List Text → Document → Prop where
  | done (doc : Document) : ReadsLines doc [] doc
  | blank {doc doc' : Document} {lines : List Text} :
      ReadsLines doc lines doc' → ReadsLines doc ([] :: lines) doc'
  | line {doc next doc' : Document} {line : Text} {lines : List Text} :
      Reads doc line next → ReadsLines next lines doc' → ReadsLines doc (line :: lines) doc'

theorem ReadsLines.append (h : doc.ReadsLines lines next) (hmore : next.ReadsLines more doc') :
    doc.ReadsLines (lines ++ more) doc' := by
  induction h with
  | done doc => exact hmore
  | blank _ ih => exact .blank (ih hmore)
  | line hline _ ih => exact .line hline (ih hmore)

/-- Blank lines may stand anywhere. -/
theorem ReadsLines.of_filter (h : doc.ReadsLines (lines.filter (!·.isEmpty)) doc') :
    doc.ReadsLines lines doc' := by
  induction lines generalizing doc with
  | nil => exact h
  | cons line lines ih =>
      cases line with
      | nil => exact .blank (ih h)
      | cons c line =>
          rw [List.filter_cons_of_pos (by rfl)] at h
          cases h with
          | line hline hrest => exact .line hline (ih hrest)

theorem statements_newline (fuel : Nat) (doc : Document) (t : Text) :
    statements (fuel + 1) doc ('\n' :: t) = statements fuel doc t := rfl

/-- After a line come a line feed or the end. -/
theorem statements_append (h : doc.Reads line next) (fuel : Nat) (rest : Text) :
    statements (fuel + 1) doc (line ++ rest) =
      match skipComment? (skipSpaces rest) with
      | some [] => .ok next
      | some ('\n' :: rest) => statements fuel next rest
      | _ => .error .malformed := by
  rcases h.starts with ⟨c, more, rfl, hc⟩
  have hskip : skipSpaces (c :: more ++ rest) = c :: more ++ rest := skipSpaces_cons hc _
  have hbreak : c ≠ '\n' := by
    rintro rfl
    exact absurd hc (by decide)
  rw [statements, hskip]
  split
  · next hnil => cases hnil
  · next hcons => exact absurd (List.cons.inj hcons).1 hbreak
  · exact h.reads rest ▸ rfl

theorem statements_of_readsLines (h : doc.ReadsLines lines doc') (hfuel : lines.length ≤ fuel + 1) :
    statements (fuel + 1) doc (join ['\n'] lines) = .ok doc' := by
  -- A line takes a unit of fuel, and the last one may be read to its end without a line feed.
  induction h generalizing fuel with
  | done doc => rfl
  | @blank doc doc' lines hrest ih =>
      cases lines with
      | nil =>
          cases hrest
          rfl
      | cons first lines =>
          rw [List.length_cons, List.length_cons] at hfuel
          obtain ⟨fuel, rfl⟩ : ∃ less, fuel = less + 1 := Nat.exists_eq_add_one.2 (by omega)
          rw [join_cons_cons, List.nil_append, List.singleton_append, statements_newline,
            ih (Nat.le_of_succ_le_succ hfuel)]
  | @line doc next doc' line lines hline hrest ih =>
      cases lines with
      | nil =>
          cases hrest
          rw [join, List.intercalate_singleton, ← List.append_nil line, statements_append hline]
          rfl
      | cons first lines =>
          rw [List.length_cons, List.length_cons] at hfuel
          obtain ⟨fuel, rfl⟩ : ∃ less, fuel = less + 1 := Nat.exists_eq_add_one.2 (by omega)
          rw [join_cons_cons, statements_append hline, List.singleton_append]
          exact ih (Nat.le_of_succ_le_succ hfuel)

end Document

theorem read_of_readsLines (h : Document.ReadsLines {} lines doc) :
    read (join ['\n'] lines) = .ok doc.root := by
  have hlength := length_le_length_join (List.cons_ne_nil '\n' []) lines
  rw [read, Document.statements_of_readsLines h hlength, Except.map]

/-! ## Putting -/

namespace Table

/-- A key that is missing at the front of a table is put behind the front. -/
theorem put_append (h : top.lookup key = none) (value : Value) (rest : Table) :
    Table.put key value (top ++ rest) = top ++ Table.put key value rest := by
  induction top with
  | nil => rfl
  | cons entry top ih =>
      rcases entry with ⟨other, old⟩
      simp only [List.lookup_eq_none_iff, List.forall_mem_cons] at h ih
      have hother : other ≠ key := Ne.symm (bne_iff_ne.1 h.1)
      rw [List.cons_append, put, if_neg hother, ih h.2, List.cons_append]

theorem put_of_lookup_eq_none (h : table.lookup key = none) (value : Value) :
    table.put key value = table ++ [(key, value)] := by
  simpa [put] using put_append h value []

end Table

/-! ## Entries of a table -/

def tableOfEntries (entries : List (Text × List Text)) : Table :=
  entries.map fun (key, ts) => (key, .array (ts.map .text))

theorem lookup_tableOfEntries (entries : List (Text × List Text)) (key : Text) :
    (tableOfEntries entries).lookup key =
      (entries.lookup key).map fun ts => .array (ts.map .text) := by
  induction entries with
  | nil => rfl
  | cons entry entries ih =>
      rw [tableOfEntries] at ih ⊢
      rw [List.map_cons, List.lookup_cons, List.lookup_cons, ih]
      split
      · rfl
      · rfl

theorem texts?_map_text (ts : List Text) : texts? (ts.map .text) = some ts := by
  induction ts with
  | nil => rfl
  | cons t ts ih => rw [List.map_cons, texts?, ih, Option.map_some]

/-! ## The open table -/

namespace Document

/-- A document with an open table: the header leads to the table, and nothing is declared or sealed
below the keys that the table lacks. -/
structure Opens (doc : Document) (header : List Text) (whole : Table → Table) (inner : Table) :
    Prop where
  header_eq : doc.header = header
  root_eq : doc.root = whole inner
  change_eq : ∀ f before, (whole before).change true f header = (f before).map whole
  undeclared : ∀ key rest, inner.lookup key = none →
    header ++ key :: rest ∉ doc.pending ++ doc.declared
  unsealed : ∀ key rest, inner.lookup key = none →
    isSealed doc.sealedPaths (header ++ key :: rest) = false

theorem opens_empty : Opens {} [] id [] where
  header_eq := rfl
  root_eq := rfl
  change_eq f before := by rw [id, Table.change, Option.map_id, id]
  undeclared _ _ _ := List.not_mem_nil
  unsealed _ _ _ := rfl

theorem isSealed_of_append {sealedPaths : List (List Text)} {path rest : List Text}
    (h : isSealed sealedPaths (path ++ rest) = false) : isSealed sealedPaths path = false := by
  rw [isSealed, List.any_eq_false] at h ⊢
  intro other hother hfront
  rw [List.isPrefixOf_iff_prefix] at hfront
  exact h other hother (List.isPrefixOf_iff_prefix.2 (hfront.trans (List.prefix_append path rest)))

/-- A value seals nothing below the other keys of its table. -/
theorem isSealed_sealValue {sealedPaths : List (List Text)} {other : Text} {rest : List Text}
    (h : isSealed sealedPaths (header ++ other :: rest) = false) (hne : other ≠ key) (value : Value) :
    isSealed (sealValue sealedPaths (header ++ [key]) value) (header ++ other :: rest) = false := by
  have hkey : (header ++ [key]).isPrefixOf (header ++ other :: rest) = false := by
    rw [Bool.eq_false_iff, Ne, List.isPrefixOf_iff_prefix, List.prefix_append_right_inj,
      List.cons_prefix_cons]
    exact fun hfront => hne hfront.1.symm
  rw [sealValue]
  split
  · rw [isSealed, List.any_cons, hkey, Bool.false_or]
    exact h
  · exact h

/-- A new key of the open table. -/
theorem Opens.exists_assign? (h : doc.Opens header whole inner) (hkey : inner.lookup key = none)
    (value : Value) :
    ∃ next, doc.assign? [key] value = some next ∧
      next.Opens header whole (inner ++ [(key, value)]) := by
  have hadd : Table.add? key value inner = some (inner ++ [(key, value)]) := by
    simp only [Table.add?, hkey, Table.put_of_lookup_eq_none hkey]
  have hroot : doc.root.change true (Table.add? key value) header =
      some (whole (inner ++ [(key, value)])) := by
    rw [h.root_eq, h.change_eq, hadd, Option.map_some]
  -- A seal on the open table itself would seal the new key too.
  have hsealed := isSealed_of_append (h.unsealed key [] hkey)
  -- A key with one part opens no tables on its way, so nothing becomes pending.
  refine ⟨{ doc with
    root := whole (inner ++ [(key, value)])
    sealedPaths := sealValue doc.sealedPaths (header ++ [key]) value }, ?_, ?_⟩
  · simp [assign?, h.header_eq, hsealed, hroot]
  · -- What the longer table lacks, the shorter one lacks too.
    have hless : ∀ other, (inner ++ [(key, value)]).lookup other = none →
        inner.lookup other = none ∧ other ≠ key := by
      intro other hother
      simpa [List.lookup_append] using hother
    exact {
      header_eq := h.header_eq
      root_eq := rfl
      change_eq := h.change_eq
      undeclared := fun other rest hother => h.undeclared other rest (hless other hother).1
      unsealed := fun other rest hother =>
        isSealed_sealValue (h.unsealed other rest (hless other hother).1) (hless other hother).2 value }

/-- A header for a new table at the top. -/
theorem Opens.exists_openTable? (h : doc.Opens [] id top) (hkey : top.lookup key = none) :
    ∃ next, doc.settle.openTable? [key] = some next ∧
      next.Opens [key] (fun inner => top ++ [(key, .table inner)]) [] := by
  have hdeclared : [key] ∉ doc.pending ++ doc.declared := h.undeclared key [] hkey
  have hsealed : isSealed doc.sealedPaths [key] = false := h.unsealed key [] hkey
  have hroot : doc.root.change true some [key] = some (top ++ [(key, .table [])]) := by
    rw [h.root_eq, id, Table.change, hkey]
    simp only [Table.change, Option.map_some, Table.put_of_lookup_eq_none hkey]
  refine ⟨{ doc.settle with
    root := top ++ [(key, .table [])]
    header := [key]
    declared := [key] :: (doc.pending ++ doc.declared) }, ?_, ?_⟩
  · have hsettled : (doc.pending ++ doc.declared).contains [key] = false := by
      simpa using hdeclared
    simp only [openTable?, settle, hsettled, hsealed, Bool.false_or, Bool.false_eq_true, if_false, hroot,
      Option.map_some]
  · have hlonger : ∀ other (rest : List Text), [key] ++ other :: rest ≠ [key] := by simp
    exact {
      header_eq := rfl
      root_eq := rfl
      -- The new table is the last entry, and no entry before it has its key.
      change_eq := fun f before => by
        have hlookup : (top ++ [(key, Value.table before)]).lookup key = some (.table before) := by
          rw [List.lookup_append, hkey, List.lookup_cons_self, Option.none_or]
        rw [Table.change, hlookup]
        simp only [Table.change, Table.put_append hkey]
        cases f before with
        | none => rfl
        | some inner => simp [Table.put]
      undeclared := fun other rest _ => by
        have hold : [key] ++ other :: rest ∉ doc.pending ++ doc.declared :=
          h.undeclared key (other :: rest) hkey
        simp only [settle, List.nil_append, List.mem_cons, not_or]
        exact ⟨hlonger other rest, hold⟩
      unsealed := fun other rest _ => h.unsealed key (other :: rest) hkey }

/-! ## Lines that are written -/

theorem Opens.reads_entry (h : doc.Opens header whole inner) (hbare : isBareKey key = true)
    (hkey : inner.lookup key = none) (upper : Bool) (ts : List Text) :
    ∃ next, doc.Reads (writeEntry upper (key, ts)) next ∧
      next.Opens header whole (inner ++ [(key, .array (ts.map .text))]) := by
  rcases h.exists_assign? hkey (.array (ts.map .text)) with ⟨next, hassign, hnext⟩
  refine ⟨next, ⟨?_, ?_⟩, hnext⟩
  · rcases exists_of_isBareKey hbare with ⟨c, more, rfl, hc⟩
    exact ⟨c, _, rfl, isSpaceOrBreak_of_isBare hc⟩
  · intro rest
    rw [statement_writeEntry hbare, hassign, Option.map_some, orMalformed]

theorem Opens.reads_header (h : doc.Opens [] id top) (hbare : isBareKey key = true)
    (hkey : top.lookup key = none) :
    ∃ next, doc.Reads (writeHeader key) next ∧
      next.Opens [key] (fun inner => top ++ [(key, .table inner)]) [] := by
  rcases h.exists_openTable? hkey with ⟨next, hopen, hnext⟩
  refine ⟨next, ⟨⟨'[', _, rfl, by decide⟩, ?_⟩, hnext⟩
  intro rest
  rw [statement_writeHeader hbare, hopen, Option.map_some, orMalformed]

/-- Entries with new keys are read one after the other into the open table. -/
theorem Opens.readsLines_entries {entries : List (Text × List Text)}
    (h : doc.Opens header whole inner) (hbare : ∀ entry ∈ entries, isBareKey entry.1 = true)
    (hnodup : (entries.map (·.1)).Nodup) (hnew : ∀ entry ∈ entries, inner.lookup entry.1 = none)
    (upper : Bool) :
    ∃ next, doc.ReadsLines (entries.map (writeEntry upper)) next ∧
      next.Opens header whole (inner ++ tableOfEntries entries) := by
  induction entries generalizing doc inner with
  | nil => exact ⟨doc, .done doc, by rwa [tableOfEntries, List.map_nil, List.append_nil]⟩
  | cons entry entries ih =>
      rcases entry with ⟨key, ts⟩
      rcases List.nodup_cons.1 hnodup with ⟨hkey, hrest⟩
      rcases h.reads_entry (hbare _ List.mem_cons_self) (hnew _ List.mem_cons_self) upper ts with
        ⟨next, hline, hnext⟩
      -- The other keys are new to the table with this one in it, since all keys are different.
      have hnew' : ∀ entry ∈ entries,
          (inner ++ [(key, Value.array (ts.map .text))]).lookup entry.1 = none := by
        intro other hother
        have hne : other.1 ≠ key := by
          rintro rfl
          exact hkey (List.mem_map.2 ⟨other, hother, rfl⟩)
        simp [List.lookup_append, hnew other (List.mem_cons_of_mem _ hother), hne]
      rcases ih hnext (fun other hother => hbare other (List.mem_cons_of_mem _ hother)) hrest hnew' with
        ⟨last, hlines, hlast⟩
      refine ⟨last, .line hline hlines, ?_⟩
      rwa [List.append_assoc, List.singleton_append] at hlast

end Document

end Toml

end ImportLint
