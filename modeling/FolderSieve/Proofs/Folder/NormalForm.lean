import FolderSieve.Proofs.Folder.Localpart

/-!
# Folders — derived localparts in normal form

A text is in normal form if it has no white space and no slash in it, and is all in lower case.  What
is derived from a path is in normal form, whatever stands in the path: what lower case puts in is
neither white space nor a slash nor a capital letter, not even where one character becomes two or looks
at its neighbours.  And a text in normal form is the localpart of itself.

* `genericLocalpart_eq_self_iff`: the texts that are derived from themselves are those in normal form.
* `genericLocalpart_normal`: what is derived from a path is one of them.
-/

namespace FolderSieve

/-- A text without white space is as it is when white space is collapsed. -/
theorem Text.collapseBlanks_of_forall {c : Char} {s : List Char}
    (h : ∀ d ∈ s, isBlank d = false) : collapseBlanks c s = s := by
  fun_induction collapseBlanks c s with
  | case1 => rfl
  | case2 a ha | case4 a b s ha _ _ | case5 a b s ha _ _ =>
      rw [h a List.mem_cons_self] at ha
      cases ha
  | case3 => rfl
  | case6 a b s _ ih => rw [ih fun d hd => h d (List.mem_cons_of_mem a hd)]

namespace Folder

/-- No white space, no slash, all in lower case. -/
def Normal (s : String) : Prop :=
  ∀ c ∈ s.toList, Text.isBlank c = false ∧ c ≠ '/' ∧ Text.Settled c

theorem normal_genericLocalpart (path : String) : Normal (genericLocalpart path) := by
  intro c hc
  rcases mem_genericLocalpart_cases hc with himage | rfl | rfl | ⟨-, hc⟩
  · exact ⟨himage.isBlank_eq_false, himage.ne (by decide), himage.settled⟩
  · decide +kernel
  · decide +kernel
  · exact hc

/-- **The texts that are derived from themselves** are those in normal form. -/
theorem genericLocalpart_eq_self_iff {s : String} : genericLocalpart s = s ↔ Normal s := by
  constructor
  · intro h
    rw [← h]
    exact normal_genericLocalpart s
  · intro h
    have hslash : (s.toList.map fun c => if c = '/' then '.' else c) = s.toList.map id :=
      List.map_congr_left fun c hc => if_neg (h c hc).2.1
    rw [genericLocalpart, Text.collapseBlanks_of_forall fun c hc => (h c hc).1, hslash, List.map_id,
      Text.lower_eq_self_iff.mpr fun c hc => (h c hc).2.2, String.ofList_toList]

/-- **Derived localparts are in normal form.**  Whatever the path, there is neither white space nor a
slash in its localpart; the localpart is empty for the empty path only; it has a control character
exactly if the path has one that is no white space; derived again it is the same.  So what is derived
from paths are the texts in normal form. -/
theorem genericLocalpart_normal :
    (∀ path : String,
      (∀ c ∈ (genericLocalpart path).toList, Text.isBlank c = false ∧ c ≠ '/') ∧
        (genericLocalpart path = "" ↔ path = "") ∧
        (Text.hasControl (genericLocalpart path) = true ↔
          ∃ c ∈ path.toList, Text.isControl c = true ∧ Text.isBlank c = false) ∧
        genericLocalpart (genericLocalpart path) = genericLocalpart path) ∧
      ∀ s : String, Normal s ↔ ∃ path, genericLocalpart path = s := by
  refine ⟨fun path => ?_, fun s => ⟨fun h => ?_, ?_⟩⟩
  · have hnormal := normal_genericLocalpart path
    refine ⟨fun c hc => ?_, genericLocalpart_eq_empty_iff, hasControl_genericLocalpart_iff,
      genericLocalpart_eq_self_iff.mpr hnormal⟩
    obtain ⟨hblank, hslash, -⟩ := hnormal c hc
    exact ⟨hblank, hslash⟩
  · exact ⟨s, genericLocalpart_eq_self_iff.mpr h⟩
  · rintro ⟨path, rfl⟩
    exact normal_genericLocalpart path

/-- A sigma before white space ends its word, a capital I with a point becomes two characters, and a
control character that is no white space stays. -/
theorem genericLocalpart_normal_sigma :
    genericLocalpart "A\u03A3\t \u0130/\x7F" = "a\u03C2-i\u0307.\x7F" ∧
      '\x7F' ∈ (genericLocalpart "A\u03A3\t \u0130/\x7F").toList ∧
      (Text.isBlank '\x7F' = false ∧ '\x7F' ≠ '/') ∧
      Text.hasControl (genericLocalpart "A\u03A3\t \u0130/\x7F") = true ∧
      genericLocalpart "a\u03C2-i\u0307.\x7F" = "a\u03C2-i\u0307.\x7F" := by
  obtain ⟨hpaths, -⟩ := genericLocalpart_normal
  obtain ⟨hmem, -, hcontrol, hagain⟩ := hpaths "A\u03A3\t \u0130/\x7F"
  have hvalue : genericLocalpart "A\u03A3\t \u0130/\x7F" = "a\u03C2-i\u0307.\x7F" := by
    decide +kernel
  have hdelete : '\x7F' ∈ (genericLocalpart "A\u03A3\t \u0130/\x7F").toList := by
    rw [hvalue]
    decide
  refine ⟨hvalue, hdelete, hmem _ hdelete, hcontrol.mpr ⟨'\x7F', by decide, by decide⟩, ?_⟩
  rw [← hvalue]
  exact hagain

end Folder

end FolderSieve
