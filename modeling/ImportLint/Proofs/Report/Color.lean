import ImportLint.Proofs.Check.Duplicates
import ImportLint.Report.Terminal

/-!
# Diagnostics in color

A diagnostic is colored by its message alone: the renderer takes the file off the end and looks for
the subject in what is left. It finds the subject where the message was made with it, because the one
word in front holds no space and what is looked for starts with one (`colored_of_wording`). What the
subject and the file are does not matter, so coloring a finding inserts escape codes and changes no
other character.
-/

namespace ImportLint

open Text

variable {file text label rest : Text} {d : Diagnostic}

namespace Diagnostic

/-- The message of a diagnostic is made of one word, the subject, what is said about it if anything,
and the file. -/
structure HasWording (d : Diagnostic) (label rest : Text) : Prop where
  oneWord : ' ' ∉ label
  message : d.message = label ++ [' '] ++ d.subject ++ rest ++ " in ".toList ++ d.file

/-- The codes come in front of the first word, around the subject, and around the file. -/
theorem colored_of_wording (h : d.HasWording label rest) :
    d.colored = Color.red ++ label ++ [' '] ++ Color.darkRed ++ d.subject ++ Color.red ++ rest ++
      " in ".toList ++ Color.darkRed ++ d.file ++ Color.reset := by
  have hsentence : d.message.take (d.message.length - (" in ".toList ++ d.file).length) =
      label ++ ' ' :: d.subject ++ rest := by
    rw [h.message, List.append_assoc, List.length_append, Nat.add_sub_cancel, List.take_left]
    simp
  have hcut := cut?_mark_append h.oneWord d.subject rest
  simp only [colored, hsentence, hcut, Option.getD_some]

theorem hasWording_unused (file name : Text) :
    (Diagnostic.unused file name).HasWording "Unused:".toList [] := by
  have hword : "Unused: ".toList = "Unused:".toList ++ [' '] := by decide
  have hmessage : (Diagnostic.unused file name).message =
      "Unused: ".toList ++ name ++ " in ".toList ++ file := rfl
  refine ⟨by decide, ?_⟩
  rw [hmessage, hword, List.append_nil]
  rfl

theorem hasWording_duplicate (file p : Text) (count : Nat) :
    (Diagnostic.duplicate file p count).HasWording "Namespace".toList
      (" appears ".toList ++ Text.ofNat count ++ " times".toList) := by
  have hword : "Namespace ".toList = "Namespace".toList ++ [' '] := by decide
  have htimes : " times in ".toList = " times".toList ++ " in ".toList := by decide
  have hmessage : (Diagnostic.duplicate file p count).message =
      "Namespace ".toList ++ p ++ " appears ".toList ++ Text.ofNat count ++
        " times in ".toList ++ file := rfl
  refine ⟨by decide, ?_⟩
  rw [hmessage, hword, htimes]
  simp only [List.append_assoc]
  rfl

end Diagnostic

/-- Every diagnostic of a check reports an unused name or a repeated prefix with its count. -/
theorem mem_check_cases (h : d ∈ check file text) :
    (∃ name, d = Diagnostic.unused file name) ∨
      ∃ p, d = Diagnostic.duplicate file p (prefixCount text p) := by
  rw [check_eq_append, List.mem_append] at h
  rcases h with h | h
  · rw [duplicateNamespaces_eq_map] at h
    rcases List.mem_map.1 h with ⟨p, -, rfl⟩
    exact Or.inr ⟨p, rfl⟩
  · rw [unusedImports_check] at h
    rcases List.mem_map.1 h with ⟨name, -, rfl⟩
    exact Or.inl ⟨name, rfl⟩

/-- A finding in color is its message with escape codes around the subject and the file, whatever
characters these two are made of. -/
theorem colored_of_mem_check (h : d ∈ check file text) :
    ∃ label rest : Text,
      (d.kind = "unused_import".toList ∧ label = "Unused:".toList ∧ rest = [] ∨
        d.kind = "duplicate_namespace".toList ∧ label = "Namespace".toList ∧
          rest = " appears ".toList ++ Text.ofNat (prefixCount text d.subject) ++
            " times".toList) ∧
      d.message = label ++ [' '] ++ d.subject ++ rest ++ " in ".toList ++ d.file ∧
      d.line true = Color.red ++ label ++ [' '] ++ Color.darkRed ++ d.subject ++ Color.red ++
        rest ++ " in ".toList ++ Color.darkRed ++ d.file ++ Color.reset := by
  rcases mem_check_cases h with ⟨name, rfl⟩ | ⟨p, rfl⟩
  · have hwording := Diagnostic.hasWording_unused file name
    exact ⟨_, _, Or.inl ⟨rfl, rfl, rfl⟩, hwording.message, Diagnostic.colored_of_wording hwording⟩
  · have hwording := Diagnostic.hasWording_duplicate file p (prefixCount text p)
    exact ⟨_, _, Or.inr ⟨rfl, rfl, rfl⟩, hwording.message, Diagnostic.colored_of_wording hwording⟩

/-- The subject looks like the words around it, and the file like the end of a message and like an
escape code. -/
theorem colored_of_mem_check_lookalikes :
    let file := " in a\x1b[0m in b.php".toList
    let text := "use A\\Unused: x in a;".toList
    let d := Diagnostic.unused file "Unused: x in a".toList
    d ∈ check file text ∧
      d.line true = Color.red ++ "Unused: ".toList ++ Color.darkRed ++ "Unused: x in a".toList ++
        Color.red ++ " in ".toList ++ Color.darkRed ++ file ++ Color.reset := by
  intro file text d
  have hmem : d ∈ check file text := by decide +kernel
  rcases colored_of_mem_check hmem with ⟨label, rest, hkind, -, hline⟩
  refine ⟨hmem, ?_⟩
  rcases hkind with ⟨-, rfl, rfl⟩ | ⟨hother, -⟩
  · exact hline.trans (by decide)
  · exact absurd hother (by decide)

end ImportLint
