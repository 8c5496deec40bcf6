import ImportLint.Proofs.Analysis.ReportFiles
import ImportLint.Proofs.Discovery.Frame
import ImportLint.Proofs.Json.Reader
import ImportLint.Proofs.Json.Written
import ImportLint.Proofs.Report.Kinds
import ImportLint.Proofs.Text.Order
import ImportLint.Proofs.Text.Utf8

/-!
# A report as data can be read back

The JSON form of a report holds all of it. This is said with a reader of reports, which looks every
figure and text up by its key and does not depend on the order of the keys. It accepts an object
only if it has the keys of a report and no others, and so for the objects inside
(`Report.ofValue?`).

The theorem of this module, `json_loses_nothing`, is about the text. It is ASCII, the grammar of
JSON gives it one value and no other, the report is read from this value, and in all of its objects
the keys stand in increasing order.
-/

namespace ImportLint

open Json (Value)
open Node

variable {report : Report} {summary : Summary} {tally : Tally}

/-! ## Reading a report -/

namespace Json

/-- The values of an object under the given keys. The object must have these keys, each once and in
whatever order, and no others. -/
def Value.fields? (keys : List Text) : Value → Option (List Value)
  | object members =>
    if (members.map (·.1)).isPerm keys then keys.mapM fun key => members.lookup key else none
  | _ => none

/-- In every object, at whatever depth, the keys stand in strictly increasing code point order. -/
inductive Value.Ordered : Value → Prop where
  | null : Ordered null
  | bool (b : Bool) : Ordered (bool b)
  | number (significand exponent : Int) : Ordered (number significand exponent)
  | string (t : Text) : Ordered (string t)
  | array {items : List Value} : (∀ item ∈ items, Ordered item) → Ordered (array items)
  | object {members : List (Text × Value)} :
      (members.map (·.1)).Pairwise (· < ·) → (∀ member ∈ members, Ordered member.2) →
      Ordered (object members)

end Json

def Diagnostic.ofValue? (value : Value) : Option Diagnostic :=
  match value.fields? ["kind".toList, "severity".toList, "subject".toList, "message".toList,
    "file".toList] with
  | some [.string kind, .string severity, .string subject, .string message, .string file] =>
    some ⟨kind, severity, subject, message, file⟩
  | _ => none

def Tally.entryOf? : Text × Value → Option (Text × Int)
  | (key, .number count 0) => some (key, count)
  | _ => none

def Tally.ofValue? : Value → Option Tally
  | .object members => members.mapM Tally.entryOf?
  | _ => none

def Summary.ofValue? (value : Value) : Option Summary :=
  match value.fields? ["files_checked".toList, "diagnostics".toList, "by_kind".toList,
    "files_with_findings".toList] with
  | some [.number filesChecked 0, .number diagnostics 0, byKind, .number filesWithFindings 0] =>
    (Tally.ofValue? byKind).map fun tally =>
      ⟨filesChecked, diagnostics, some tally, filesWithFindings⟩
  | _ => none

/-- The report that an object with its five fields says. -/
def Report.ofValue? (value : Value) : Option Report :=
  match value.fields? ["root".toList, "generated_at".toList, "files_checked".toList,
    "diagnostics".toList, "summary".toList] with
  | some [.string root, .string generatedAt, .number filesChecked 0, .array diagnostics, summary] =>
    (diagnostics.mapM Diagnostic.ofValue?).bind fun diagnostics =>
      (Summary.ofValue? summary).map fun summary =>
        ⟨root, generatedAt, filesChecked, diagnostics, summary⟩
  | _ => none

def Report.ofBytes? (bytes : List UInt8) : Option Report :=
  ((Utf8.decode? bytes).bind Json.read).bind Report.ofValue?

/-! ## What a report says is read -/

theorem mapM_map_eq_some {α β : Type} {f : β → Option α} {g : α → β} (h : ∀ x, f (g x) = some x)
    (xs : List α) : (xs.map g).mapM f = some xs := by
  induction xs with
  | nil => rfl
  | cons x xs ih => simp [h, ih]

theorem Diagnostic.ofValue?_toJson (diagnostic : Diagnostic) :
    Diagnostic.ofValue? diagnostic.toJson.value = some diagnostic := by
  rfl

/-- The value of a tally, by its entries in order. -/
theorem Tally.value_toJson (tally : Tally) :
    tally.toJson.value = .object (tally.sorted.map fun (key, count) => (key, .number count 0)) := by
  rw [Tally.toJson, Json.value, Json.members_eq_map, List.map_map]
  rfl

/-- A tally is read back with its keys in order. -/
theorem Tally.ofValue?_toJson (tally : Tally) :
    Tally.ofValue? tally.toJson.value = some tally.sorted := by
  have hentry : ∀ entry : Text × Int,
      Tally.entryOf? (entry.1, .number entry.2 0) = some entry := fun _ => rfl
  rw [Tally.value_toJson, Tally.ofValue?]
  exact mapM_map_eq_some hentry tally.sorted

theorem Summary.value_toJson (hkinds : summary.byKind = some tally) :
    summary.toJson.value = .object [
      ("by_kind".toList, tally.toJson.value),
      ("diagnostics".toList, .number summary.diagnostics 0),
      ("files_checked".toList, .number summary.filesChecked 0),
      ("files_with_findings".toList, .number summary.filesWithFindings 0)] := by
  rw [Summary.toJson, hkinds]
  rfl

theorem Report.value_toJson (report : Report) :
    report.toJson.value = .object [
      ("diagnostics".toList, .array (report.diagnostics.map fun diagnostic =>
        diagnostic.toJson.value)),
      ("files_checked".toList, .number report.filesChecked 0),
      ("generated_at".toList, .string report.generatedAt),
      ("root".toList, .string report.root),
      ("summary".toList, report.summary.toJson.value)] := by
  have hdiagnostics : Json.values (report.diagnostics.map Diagnostic.toJson) =
      report.diagnostics.map fun diagnostic => diagnostic.toJson.value := by
    rw [Json.values_eq_map, List.map_map]
    rfl
  -- All other fields have their values by definition.
  rw [← hdiagnostics]
  rfl

theorem Summary.ofValue?_toJson (hkinds : summary.byKind = some tally)
    (hsorted : tally.sorted = tally) : Summary.ofValue? summary.toJson.value = some summary := by
  have hfields : summary.toJson.value.fields? ["files_checked".toList, "diagnostics".toList,
      "by_kind".toList, "files_with_findings".toList] =
        some [.number summary.filesChecked 0, .number summary.diagnostics 0, tally.toJson.value,
          .number summary.filesWithFindings 0] := by
    rw [Summary.value_toJson hkinds]
    rfl
  simp only [Summary.ofValue?, hfields, Tally.ofValue?_toJson, hsorted, Option.map_some]
  rw [← hkinds]

theorem Report.ofValue?_toJson (hkinds : report.summary.byKind = some tally)
    (hsorted : tally.sorted = tally) : Report.ofValue? report.toJson.value = some report := by
  -- The fields are found whatever the order in which they are written.
  have hfields : report.toJson.value.fields? ["root".toList, "generated_at".toList,
      "files_checked".toList, "diagnostics".toList, "summary".toList] =
        some [.string report.root, .string report.generatedAt, .number report.filesChecked 0,
          .array (report.diagnostics.map fun diagnostic => diagnostic.toJson.value),
          report.summary.toJson.value] := by
    rw [Report.value_toJson]
    rfl
  have hdiagnostics : (report.diagnostics.map fun diagnostic => diagnostic.toJson.value).mapM
      Diagnostic.ofValue? = some report.diagnostics :=
    mapM_map_eq_some Diagnostic.ofValue?_toJson report.diagnostics
  simp only [Report.ofValue?, hfields, hdiagnostics, Summary.ofValue?_toJson hkinds hsorted,
    Option.bind_some, Option.map_some]

/-! ## Keys in order -/

theorem Diagnostic.ordered_toJson (diagnostic : Diagnostic) : diagnostic.toJson.value.Ordered := by
  have hkeys : ["file".toList, "kind".toList, "message".toList, "severity".toList,
      "subject".toList].Pairwise (· < ·) := by decide
  refine .object hkeys ?_
  simp only [Json.members, List.forall_mem_cons]
  exact ⟨.string _, .string _, .string _, .string _, .string _, List.forall_mem_nil _⟩

theorem Tally.ordered_toJson (h : (tally.map (·.1)).Nodup) : tally.toJson.value.Ordered := by
  have hkeys : tally.sorted.Pairwise fun a b => a.1 < b.1 := Text.pairwise_lt_mergeSort h
  rw [Tally.value_toJson]
  refine .object ?_ ?_
  · rw [List.map_map, List.pairwise_map]
    exact hkeys
  · intro member hmember
    rcases List.mem_map.1 hmember with ⟨entry, -, rfl⟩
    exact .number entry.2 0

theorem Summary.ordered_toJson (hkinds : summary.byKind = some tally)
    (h : (tally.map (·.1)).Nodup) : summary.toJson.value.Ordered := by
  have hkeys : ["by_kind".toList, "diagnostics".toList, "files_checked".toList,
      "files_with_findings".toList].Pairwise (· < ·) := by decide
  rw [Summary.value_toJson hkinds]
  refine .object hkeys ?_
  simp only [List.forall_mem_cons]
  exact ⟨Tally.ordered_toJson h, .number _ _, .number _ _, .number _ _, List.forall_mem_nil _⟩

theorem Report.ordered_toJson (hkinds : report.summary.byKind = some tally)
    (h : (tally.map (·.1)).Nodup) : report.toJson.value.Ordered := by
  have hkeys : ["diagnostics".toList, "files_checked".toList, "generated_at".toList, "root".toList,
      "summary".toList].Pairwise (· < ·) := by decide
  have hdiagnostics : ∀ item ∈ report.diagnostics.map (fun diagnostic => diagnostic.toJson.value),
      item.Ordered := by
    intro item hitem
    rcases List.mem_map.1 hitem with ⟨diagnostic, -, rfl⟩
    exact diagnostic.ordered_toJson
  rw [Report.value_toJson]
  refine .object hkeys ?_
  simp only [List.forall_mem_cons]
  exact ⟨.array hdiagnostics, .number _ _, .string _, .string _, Summary.ordered_toJson hkinds h,
    List.forall_mem_nil _⟩

/-! ## The text of a report -/

/-- The report on an analysis loses nothing as JSON. Its text is ASCII. By the grammar of JSON it
says one value and no other, and a reader finds this value. The whole report is read from it, and in
each of its objects the keys stand in strictly increasing order. The bytes of the text are those in
the file, wherever the report is written, unless the page is written to the same place, and the
report is read from the bytes as well. -/
theorem json_loses_nothing (tree : Node) (root : Path) (now : Text)
    (included excluded extensions : List Text) :
    let report := (analyze tree root now included excluded extensions).1
    (∀ c ∈ report.json, c.toNat < 128) ∧
      (∃ value, (∀ v, Json.IsTextOf report.json v ↔ v = value) ∧
        Json.read report.json = some value ∧ Report.ofValue? value = some report ∧
        value.Ordered) ∧
      (∀ entries directory after, writeReport (dir entries) directory report = (after, .ok ()) →
        (dir entries).reach .write (directory.below [jsonReportName]) ≠
          (dir entries).reach .write (directory.below [markdownReportName]) →
        after.readBytes (directory.below [jsonReportName]) = .ok (Utf8.encode report.json)) ∧
      Report.ofBytes? (Utf8.encode report.json) = some report := by
  intro report
  -- A report on an analysis always has its counts, and these are in order and without repetition.
  have hkinds : report.summary.byKind = some (countByKind report.diagnostics) := rfl
  have htext : Json.IsTextOf report.json report.toJson.value := Json.isTextOf_write report.toJson
  have hread : Json.read report.json = some report.toJson.value := Json.read_of_isTextOf htext
  have hreport : Report.ofValue? report.toJson.value = some report :=
    Report.ofValue?_toJson hkinds (sorted_countByKind report.diagnostics)
  have hordered : report.toJson.value.Ordered :=
    Report.ordered_toJson hkinds (nodup_keys_countByKind report.diagnostics)
  refine ⟨fun c hc => Json.isAscii_write hc, ⟨report.toJson.value, ?_, hread, hreport, hordered⟩,
    ?_, ?_⟩
  · -- No second value can be read from the text.
    intro v
    constructor
    · intro hv
      exact Json.isTextOf_unique hv htext
    · rintro rfl
      exact htext
  · intro entries directory after hwritten hapart
    have htop : (dir entries).at? [] = some (dir entries) := rfl
    exact readBytes_of_writeReport htop hwritten hapart
  · rw [Report.ofBytes?, Utf8.decode?_encode, Option.bind_some, hread, Option.bind_some, hreport]

/-- A file whose name has a character of every kind that JSON writes in its own way: a quote, a
backslash, the characters with short escapes, another control character, the one that ends ASCII, and
two beyond it, of which the second takes a pair of escapes. -/
theorem json_loses_nothing_escapes :
    let name := "\"\\\x08\t\n\x0c\r\x01\x7fé😀.php".toList
    let written := "\"\\\"\\\\\\b\\t\\n\\f\\r\\u0001\\u007f\\u00e9\\ud83d\\ude00.php\"".toList
    let entries : Entries := [("p".toList, dir [(name, .file (Utf8.encode "use A\\B;".toList))])]
    let root : Path := ⟨["p".toList], false⟩
    let report := (analyze (dir entries) root [] [] [] []).1
    let after := (writeReport (dir entries) root report).1
    (dir entries).IsFileTree ∧ (report.diagnostics.map fun diagnostic => diagnostic.file) = [name] ∧
      Json.writeText name = written ∧ (writeReport (dir entries) root report).2 = .ok () ∧
      after.readBytes (root.below [jsonReportName]) = .ok (Utf8.encode report.json) ∧
      Report.ofBytes? (Utf8.encode report.json) = some report := by
  intro name written entries root report after
  have htree : (dir entries).IsFileTree := isFileTree_of_passes (by decide +kernel)
  have hplace : (dir entries).locate root = .ok ["p".toList] := by decide +kernel
  have hfree : ∀ place ∈ reportPlaces ["p".toList], (dir entries).IsFree place :=
    isFree_reportPlaces (isFree_of_at?_eq_none rfl) (isFree_of_at?_eq_none rfl)
  have htakes : TakesReports (dir entries) root ["p".toList] := ⟨htree, hplace, ⟨_, rfl⟩, hfree⟩
  have hwritten : (writeReport (dir entries) root report).2 = .ok () :=
    htakes.writeReport_ok (by decide +kernel) report
  have hapart : (dir entries).reach .write (root.below [jsonReportName]) ≠
      (dir entries).reach .write (root.below [markdownReportName]) := by decide +kernel
  have hselected : (dir entries).collect root (Selection.ofPatterns [] [] (wantedExtensions [])) =
      [[name]] := by
    have htop : (dir entries).find? root =
        some (dir [(name, .file (Utf8.encode "use A\\B;".toList))]) := by
      rw [find?, hplace]
      rfl
    exact collect_eq_of_sorted htop (by decide +kernel) (by decide +kernel)
  have hreport : report = reportOn root.text [] [analyzeFile (dir entries) root [name]] := by
    simp only [report, analyze, hselected]
    rfl
  rcases json_loses_nothing (dir entries) root [] [] [] [] with ⟨-, -, hfile, hback⟩
  refine ⟨htree, ?_, by decide, hwritten, hfile entries root after (Prod.ext rfl hwritten) hapart,
    hback⟩
  rw [hreport]
  decide +kernel

end ImportLint
