import ImportLint.Plan
import ImportLint.Proofs.Analysis.ReportFiles
import ImportLint.Proofs.Discovery.Frame
import ImportLint.Proofs.Tree.Canonical
import Mathlib.Data.List.Forall2

/-!
# Analyzing again after a report

Report files are excluded from every selection by their names. So an analysis does not see that a
report has been written, unless it comes to a report file under another name, along a link. If no link
leads to one, the report is the same as before (`ReportsWritten.analyze_path`).

A link may still lead by a report file, with a target that goes on below it. Such a link leads nowhere,
but why it does depends on whether the report file is there. This is the only thing in which the log
can differ (`Event.Agrees`).
-/

namespace ImportLint

open Node

variable {s t tree : Node} {root path : Path} {directory file way goal : Place} {name : Text}
  {entries : Entries} {included excluded extensions : List Text} {selection : Selection}

/-! ## Written reports -/

/-- One tree has become the other by writing at the report places of a directory, to which no link
leads. -/
structure ReportsWritten (directory : Place) (s t : Node) : Prop where
  fileTree : s.IsFileTree
  isDir : ∃ entries, s.at? directory = some (dir entries)
  rewritten : Rewritten (· ∈ reportPlaces directory) s t
  noLink : ∀ place ∈ reportPlaces directory, ¬ s.LinkLeadsTo place

/-- A path leads to the same place in both trees, and to no report; or it fails in both for want of
something, and then some link leads by a report. -/
def LeadsAlike (directory : Place) (s t : Node) (path : Path) : Prop :=
  (s.locate path = t.locate path ∧
      ∀ goal, s.locate path = .ok goal → goal ∉ reportPlaces directory) ∨
    (∃ f g, s.locate path = .error (.fault f path.text) ∧
        t.locate path = .error (.fault g path.text) ∧ IsWant f ∧ IsWant g) ∧
      ∃ goal ∈ reportPlaces directory, s.LinkLeadsBy goal

theorem LeadsAlike.isDirAt_eq (h : LeadsAlike directory s t path)
    (hwritten : ReportsWritten directory s t) : s.isDirAt path = t.isDirAt path := by
  rcases h with ⟨hlocate, hgoal⟩ | ⟨⟨f, g, hs, ht, -, -⟩, -⟩
  · exact isDirAt_eq_of_locate hlocate fun goal hok =>
      hwritten.rewritten.sameShapeBut.same goal (hgoal goal hok)
  · simp only [isDirAt, find?, hs, ht]

/-- Reading gives the same bytes, or fails for the same reason unless a link leads by a report. -/
theorem LeadsAlike.readBytes (h : LeadsAlike directory s t path)
    (hwritten : ReportsWritten directory s t) :
    s.readBytes path = t.readBytes path ∨
      (∃ e e', s.readBytes path = .error e ∧ t.readBytes path = .error e') ∧
        ∃ goal ∈ reportPlaces directory, s.LinkLeadsBy goal := by
  rcases h with ⟨hlocate, hgoal⟩ | ⟨⟨f, g, hs, ht, -, -⟩, hby⟩
  · left
    exact readBytes_eq_of_locate hlocate fun goal hok =>
      hwritten.rewritten.same goal (hgoal goal hok)
  · right
    refine ⟨⟨.fault f path.text, .fault g path.text, ?_, ?_⟩, hby⟩
    · rw [Node.readBytes, hs]
    · rw [Node.readBytes, ht]

theorem mem_reportPlaces_append_iff :
    directory ++ file ∈ reportPlaces directory ↔ ∃ name ∈ reportNames, file = [name] := by
  simp only [reportPlaces, List.mem_map, List.append_cancel_left_eq]
  constructor
  · rintro ⟨name, hname, rfl⟩
    exact ⟨name, hname, rfl⟩
  · rintro ⟨name, hname, rfl⟩
    exact ⟨name, hname, rfl⟩

namespace ReportsWritten

/-- The path to a name in a directory below leads alike, unless it is the name of a report. -/
theorem leadsAlike (h : ReportsWritten directory s t) (hroot : s.locate root = .ok directory)
    (hway : s.at? (directory ++ way) = some (dir entries))
    (hnames : ∀ part ∈ way ++ [name], IsName part)
    (hnot : directory ++ (way ++ [name]) ∉ reportPlaces directory) :
    LeadsAlike directory s t (root.below (way ++ [name])) := by
  rcases h.isDir with ⟨_, hdir⟩
  rw [← List.append_assoc] at hnot
  exact locate_frame h.rewritten.sameShapeBut h.noLink hroot hdir hway hnames hnot

/-- The same for something that is there. -/
theorem leadsAlike_of_at? (h : ReportsWritten directory s t) (hroot : s.locate root = .ok directory)
    {node : Node} (hnode : s.at? (directory ++ file) = some node) (hne : file ≠ [])
    (hnot : directory ++ file ∉ reportPlaces directory) :
    LeadsAlike directory s t (root.below file) := by
  rcases List.eq_nil_or_concat file with hnil | ⟨way, name, rfl⟩
  · exact absurd hnil hne
  · rw [List.concat_eq_append] at hnode hnot ⊢
    have hnames := h.fileTree.isFileName_of_mem hnode
    rw [← List.append_assoc] at hnode
    rcases exists_dir_of_at?_concat hnode with ⟨entries, hway⟩
    exact h.leadsAlike hroot hway
      (fun part hpart => (hnames part (List.mem_append_right _ hpart)).isName) hnot

/-! ## Discovery -/

theorem find?_bind_at? (hroot : s.locate root = .ok directory) (file : Place) :
    (s.find? root).bind (at? file) = s.at? (directory ++ file) := by
  rw [find?, hroot, at?_append]

theorem wants_report (included excluded extensions : List Text) (h : name ∈ reportNames) :
    (Selection.ofPatterns included excluded extensions).wants [name] = false := by
  have halways : ∀ name ∈ reportNames,
      Glob.anyAccepts (Selection.alwaysExcluded.map Glob.ofText) (Place.relative [name]) = true := by
    decide +kernel
  have hexcluded : Glob.anyAccepts (Selection.ofPatterns included excluded extensions).excluded
      (Place.relative [name]) = true := by
    have hname := halways name h
    rw [Glob.anyAccepts] at hname
    simp only [Selection.ofPatterns, Glob.anyAccepts, List.map_append, List.any_append, hname,
      Bool.true_or]
  simp only [Selection.wants, hexcluded, Bool.not_true, Bool.and_false, Bool.false_and]

theorem not_mem_of_wants
    (h : (Selection.ofPatterns included excluded extensions).wants file = true) :
    directory ++ file ∉ reportPlaces directory := by
  intro hmem
  rcases mem_reportPlaces_append_iff.1 hmem with ⟨name, hname, rfl⟩
  rw [wants_report included excluded extensions hname] at h
  cases h

theorem hasFileBelow_iff (h : ReportsWritten directory s t) (hroot : s.locate root = .ok directory)
    (hroot' : t.locate root = .ok directory)
    (hnot : directory ++ file ∉ reportPlaces directory) :
    s.HasFileBelow root file ↔ t.HasFileBelow root file := by
  have hshape : ((s.find? root).bind (at? file)).map shape =
      ((t.find? root).bind (at? file)).map shape := by
    rw [find?_bind_at? hroot, find?_bind_at? hroot']
    exact h.rewritten.sameShapeBut.same _ hnot
  by_cases hfile : ∃ node, file ≠ [] ∧ s.at? (directory ++ file) = some node
  · rcases hfile with ⟨node, hne, hnode⟩
    have hdir := (h.leadsAlike_of_at? hroot hnode hne hnot).isDirAt_eq h
    exact ⟨hasFileBelow_of_shape hshape hdir, hasFileBelow_of_shape hshape.symm hdir.symm⟩
  · -- There is nothing at this place in either tree.
    constructor
    · rintro ⟨hne, node, hnode, -⟩
      rw [find?_bind_at? hroot] at hnode
      exact absurd ⟨node, hne, hnode⟩ hfile
    · rintro ⟨hne, node, hnode, -⟩
      rw [hnode] at hshape
      rcases Option.map_eq_some_iff.1 hshape with ⟨node', hnode', -⟩
      rw [find?_bind_at? hroot] at hnode'
      exact absurd ⟨node', hne, hnode'⟩ hfile

theorem locate_right (h : ReportsWritten directory s t) (hroot : s.locate root = .ok directory) :
    t.locate root = .ok directory := by
  rcases h.isDir with ⟨entries, hdir⟩
  exact locate_dir_frame h.rewritten.sameShapeBut hroot hdir

theorem collect_eq (h : ReportsWritten directory s t) (hroot : s.locate root = .ok directory)
    (included excluded extensions : List Text) :
    t.collect root (Selection.ofPatterns included excluded extensions) =
      s.collect root (Selection.ofPatterns included excluded extensions) := by
  refine collect_eq_of_hasFileBelow h.fileTree.wellNamed
    (h.rewritten.fileTree h.fileTree).wellNamed ?_
  intro file hwants
  exact h.hasFileBelow_iff hroot (h.locate_right hroot) (not_mem_of_wants hwants)

end ReportsWritten

/-! ## Logs -/

/-- Two records tell the same, except perhaps why a file could not be read. -/
inductive Event.Agrees : Event → Event → Prop
  | same (event : Event) : Agrees event event
  | skipped (file : Text) (error error' : AccessError) :
      Agrees (.skipped file error) (.skipped file error')

/-- What an analysis gives before and after reports were written into a directory: the same report, and
a log that tells the same. It is the same log if no link leads by a report. -/
structure AnalysesAgree (directory : Place) (tree : Node) (before after : Report × List Event) :
    Prop where
  report : after.1 = before.1
  log : List.Forall₂ Event.Agrees before.2 after.2
  sameLog : (∀ place ∈ reportPlaces directory, ¬ tree.LinkLeadsBy place) → after.2 = before.2

namespace ReportsWritten

/-- What a selected file gives in the two trees. -/
theorem analyzeFile_cases (h : ReportsWritten directory s t) (hroot : s.locate root = .ok directory)
    (hfile : file ∈ s.collect root (Selection.ofPatterns included excluded extensions)) :
    analyzeFile t root file = analyzeFile s root file ∨
      (∃ e e', analyzeFile s root file = (file.relative, .error e) ∧
          analyzeFile t root file = (file.relative, .error e')) ∧
        ∃ goal ∈ reportPlaces directory, s.LinkLeadsBy goal := by
  rcases (mem_collect_iff h.fileTree.wellNamed).1 hfile with ⟨⟨hne, node, hnode, -⟩, -, hwants⟩
  rw [find?_bind_at? hroot] at hnode
  have halike := h.leadsAlike_of_at? hroot hnode hne (not_mem_of_wants hwants)
  rcases halike.readBytes h with hsame | ⟨⟨e, e', hs, ht⟩, hby⟩
  · left
    rw [analyzeFile, analyzeFile, hsame]
  · right
    refine ⟨⟨e, e', ?_, ?_⟩, hby⟩
    · rw [analyzeFile, hs]
      rfl
    · rw [analyzeFile, ht]
      rfl

theorem analyze_of_locate (h : ReportsWritten directory s t)
    (hroot : s.locate root = .ok directory) (now : Text)
    (included excluded extensions : List Text) :
    AnalysesAgree directory s (analyze s root now included excluded extensions)
      (analyze t root now included excluded extensions) := by
  simp only [analyze, h.collect_eq hroot, List.map_map]
  have hcases : ∀ file ∈ s.collect root
      (Selection.ofPatterns included excluded (wantedExtensions extensions)), _ :=
    fun file hfile => h.analyzeFile_cases hroot hfile
  generalize s.collect root (Selection.ofPatterns included excluded (wantedExtensions extensions)) =
    files at hcases
  refine ⟨?_, ?_, ?_⟩
  · have hread : (files.map (analyzeFile t root)).filterMap (·.diagnostics?) =
        (files.map (analyzeFile s root)).filterMap (·.diagnostics?) := by
      rw [List.filterMap_map, List.filterMap_map]
      refine List.filterMap_congr ?_
      intro file hfile
      rcases hcases file hfile with hsame | ⟨⟨e, e', hs, ht⟩, -⟩
      · simp only [Function.comp_apply, hsame]
      · simp only [Function.comp_apply, hs, ht, FileResult.diagnostics?]
    simp only [reportOn, hread]
  · rw [List.forall₂_map_left_iff, List.forall₂_map_right_iff, List.forall₂_same]
    intro file hfile
    rcases hcases file hfile with hsame | ⟨⟨e, e', hs, ht⟩, -⟩
    · rw [Function.comp_apply, Function.comp_apply, hsame]
      exact .same _
    · rw [Function.comp_apply, Function.comp_apply, hs, ht]
      exact .skipped _ e e'
  · intro hby
    refine List.map_congr_left ?_
    intro file hfile
    rcases hcases file hfile with hsame | ⟨-, goal, hgoal, hlink⟩
    · rw [Function.comp_apply, Function.comp_apply, hsame]
    · exact absurd hlink (hby goal hgoal)

/-! ## Canonical roots -/

/-- The canonical path of the directory leads to it in both trees, or in neither of them. -/
theorem locate_path (h : ReportsWritten directory s t) :
    s.locate directory.path = .ok directory ∨
      s.find? directory.path = none ∧ t.find? directory.path = none := by
  rcases h.isDir with ⟨entries, hdir⟩
  rcases h.rewritten.sameShapeBut.dir_right hdir with ⟨entries', hdir'⟩
  rcases locate_path_of_dir h.fileTree hdir with hs | hs
  · exact Or.inl hs
  · right
    rcases locate_path_of_dir (h.rewritten.fileTree h.fileTree) hdir' with ht | ht
    · have hback := locate_dir_frame h.rewritten.sameShapeBut.symm ht hdir'
      rw [hs] at hback
      cases hback
    · simp [find?, hs, ht]

/-- The analysis of the directory, by its canonical path. -/
theorem analyze_path (h : ReportsWritten directory s t) (now : Text)
    (included excluded extensions : List Text) :
    AnalysesAgree directory s (analyze s directory.path now included excluded extensions)
      (analyze t directory.path now included excluded extensions) := by
  rcases h.locate_path with hroot | ⟨hs, ht⟩
  · exact h.analyze_of_locate hroot now included excluded extensions
  · simp only [analyze, collect, hs, ht]
    exact ⟨rfl, .nil, fun _ => rfl⟩

end ReportsWritten

end ImportLint
