import ImportLint.Analysis
import ImportLint.Proofs.Tree.Written

/-!
# Writing report files

The report files of a directory are written at two places in it. If there is a file or nothing at
either place, writing a report changes nothing else in the tree (`TakesReports.rewritten`), and writing
the same report again changes nothing at all (`TakesReports.writeReport_again`). The bytes of the
report as data can be read from its file (`readBytes_of_writeReport`).
-/

namespace ImportLint

open Node

variable {tree tree' : Node} {root : Path} {directory place : Place} {name : Text}
  {entries : Entries} {bytes : List UInt8}

def reportNames : List Text := [jsonReportName, markdownReportName]

def reportPlaces (directory : Place) : List Place := reportNames.map fun name => directory ++ [name]

/-- A path leads to a directory of a file tree, and each of the report files there is a file or
absent. -/
structure TakesReports (tree : Node) (root : Path) (directory : Place) : Prop where
  fileTree : tree.IsFileTree
  leads : tree.locate root = .ok directory
  isDir : ∃ entries, tree.at? directory = some (dir entries)
  free : ∀ place ∈ reportPlaces directory, tree.IsFree place

theorem json_mem_reportNames : jsonReportName ∈ reportNames := List.mem_cons_self

theorem markdown_mem_reportNames : markdownReportName ∈ reportNames :=
  List.mem_cons_of_mem _ List.mem_cons_self

theorem isFileName_of_mem_reportNames (h : name ∈ reportNames) :
    IsFileName name ∧ Path.isLongName name = false := by
  have hall : ∀ name ∈ reportNames, IsFileName name ∧ Path.isLongName name = false := by decide +kernel
  exact hall name h

theorem mem_reportPlaces (h : name ∈ reportNames) : directory ++ [name] ∈ reportPlaces directory :=
  List.mem_map.2 ⟨name, h, rfl⟩

theorem isFree_reportPlaces (hjson : tree.IsFree (directory ++ [jsonReportName]))
    (hpage : tree.IsFree (directory ++ [markdownReportName])) :
    ∀ place ∈ reportPlaces directory, tree.IsFree place := by
  intro place hplace
  rcases List.mem_pair.1 hplace with rfl | rfl
  · exact hjson
  · exact hpage

/-! ## One file -/

/-- A name below a directory, where there is a file or nothing, is where a file is written. Only the
length of the path can be in the way. -/
theorem reach_write_below (hroot : tree.locate root = .ok directory)
    (hdir : tree.at? directory = some (dir entries)) (hfree : tree.IsFree (directory ++ [name]))
    (hname : IsFileName name) (hshort : Path.isLongName name = false) :
    tree.reach .write (root.below [name]) =
      if (root.below [name]).isLong then .error (.fault .nameTooLong (root.below [name]).text)
      else .ok (directory ++ [name]) := by
  rcases bounds_of_locate hroot with ⟨hrootnull, -⟩
  have hnull : (root.below [name]).holdsNull = false := by
    rw [Path.holdsNull] at hrootnull ⊢
    simp only [Path.below, List.any_append, hrootnull, List.any_cons, List.any_nil,
      hname.contains_null, Bool.or_false]
  cases hlong : (root.below [name]).isLong with
  | true =>
      rw [reach, hnull, hlong]
      rfl
  | false =>
      rcases leads_of_locate hroot with ⟨links, hle, hleads⟩
      rcases Nat.exists_eq_add_of_le hle with ⟨more, hlimit⟩
      have hparts : (root.below [name]).parts = root.parts ++ [name] := rfl
      have hgoes : GoesOn .write [name] := Or.inr ⟨name, by simp, hname.isName.ne_nil⟩
      have harrived := descend_free hfree hdir hname.isName hshort
      rw [reach_of_follow hnull hlong, hparts, hlimit, follow_append_of_leads hleads more _ hgoes,
        follow_arrived harrived]
      rfl

theorem TakesReports.writeBytes (h : TakesReports tree root directory) (hname : name ∈ reportNames)
    (bytes : List UInt8) :
    tree.writeBytes (root.below [name]) bytes =
      if (root.below [name]).isLong then .error (.fault .nameTooLong (root.below [name]).text)
      else .ok (tree.put (directory ++ [name]) (file bytes)) := by
  rcases h.isDir with ⟨entries, hdir⟩
  rcases isFileName_of_mem_reportNames hname with ⟨hfileName, hshort⟩
  have hfree := h.free _ (mem_reportPlaces hname)
  have hnot : ((tree.at? (directory ++ [name])).map Node.isDir).getD false = false := by
    cases hnode : tree.at? (directory ++ [name]) with
    | none => rfl
    | some node =>
        rcases hfree node hnode with ⟨old, rfl⟩
        rfl
  rw [Node.writeBytes, reach_write_below h.leads hdir hfree hfileName hshort]
  cases (root.below [name]).isLong with
  | true => rfl
  | false => simp [hnot]

/-! ## Both files -/

/-- After files have been written at the report places, reports can be written as before. -/
theorem TakesReports.of_rewritten (h : TakesReports tree root directory)
    (hrewritten : Rewritten (· ∈ reportPlaces directory) tree tree') :
    TakesReports tree' root directory := by
  rcases h.isDir with ⟨entries, hdir⟩
  exact ⟨hrewritten.fileTree h.fileTree, locate_dir_frame hrewritten.sameShapeBut h.leads hdir,
    hrewritten.sameShapeBut.dir_right hdir, hrewritten.freeRight⟩

theorem TakesReports.rewritten_put (h : TakesReports tree root directory)
    (hname : name ∈ reportNames) (bytes : List UInt8) :
    Rewritten (· ∈ reportPlaces directory) tree (tree.put (directory ++ [name]) (file bytes)) := by
  rcases h.isDir with ⟨entries, hdir⟩
  exact Node.rewritten_put hdir (isFileName_of_mem_reportNames hname).1 h.free
    (mem_reportPlaces hname) bytes

/-- Writing a report changes the tree at the two report places only. -/
theorem TakesReports.rewritten (h : TakesReports tree root directory) (report : Report) :
    Rewritten (· ∈ reportPlaces directory) tree (writeReport tree root report).1 := by
  have hjson := json_mem_reportNames
  have hmarkdown := markdown_mem_reportNames
  have hfirst := h.rewritten_put hjson (Utf8.encode report.json)
  have h' := h.of_rewritten hfirst
  rw [writeReport, h.writeBytes hjson]
  cases (root.below [jsonReportName]).isLong with
  | true => exact Rewritten.refl h.free
  | false =>
      simp only [Bool.false_eq_true, if_false]
      rw [h'.writeBytes hmarkdown]
      cases (root.below [markdownReportName]).isLong with
      | true => exact hfirst
      | false => exact hfirst.trans (h'.rewritten_put hmarkdown (Utf8.encode report.markdown))

/-- A report can be written unless a path is too long. -/
theorem TakesReports.writeReport_ok (h : TakesReports tree root directory)
    (hshort : ∀ name ∈ reportNames, (root.below [name]).isLong = false) (report : Report) :
    (writeReport tree root report).2 = .ok () := by
  have hjson := json_mem_reportNames
  have hmarkdown := markdown_mem_reportNames
  have h' := h.of_rewritten (h.rewritten_put hjson (Utf8.encode report.json))
  rw [writeReport, h.writeBytes hjson, hshort _ hjson]
  simp only [Bool.false_eq_true, if_false]
  rw [h'.writeBytes hmarkdown, hshort _ hmarkdown]
  rfl

/-- The report as data is still there after the page has been written, unless both are written to the
same place. -/
theorem readBytes_of_writeReport {report : Report} (hdir : tree.at? place = some (dir entries))
    (hwritten : writeReport tree root report = (tree', .ok ()))
    (hapart : tree.reach .write (root.below [jsonReportName]) ≠
      tree.reach .write (root.below [markdownReportName])) :
    tree'.readBytes (root.below [jsonReportName]) = .ok (Utf8.encode report.json) := by
  have htop : ∃ top, tree.at? [] = some (dir top) := by
    have hway : tree.at? ([] ++ place) = some (dir entries) := by rwa [List.nil_append]
    rcases exists_dir_of_prefix hway List.nil_prefix with ⟨top, htop⟩
    exact ⟨top, htop⟩
  rcases htop with ⟨top, htop⟩
  rw [writeReport] at hwritten
  split at hwritten
  · cases hwritten
  · next hfirst =>
    split at hwritten
    · cases hwritten
    · next hsecond =>
      cases hwritten
      exact readBytes_of_writeBytes htop hfirst hsecond hapart

end ImportLint
