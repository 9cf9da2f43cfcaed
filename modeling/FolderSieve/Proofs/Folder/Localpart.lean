import FolderSieve.Folder
import FolderSieve.Proofs.Folder.Prefixes
import FolderSieve.Proofs.Text.Lowercase
import FolderSieve.Text.Control

/-!
# Folders — derived localparts

What a path is turned into when mail is expected at its name.

* `genericLocalpart_eq_empty_iff`: only the empty path gives the empty localpart.
* `mem_genericLocalpart_cases`: what a localpart is made of.
* `hasControl_genericLocalpart_iff`: no control character comes in, and only white space goes.
* `mem_genericLocalpart_iff`: a sign that is neither white space nor put in for anything is in it
  exactly if it is in the path.
* `lastName_join`: the path of a folder ends in its name.
* `lastName_eq_empty_iff`: a path ends in an empty name exactly if it ends in a slash, or is empty.
-/

namespace FolderSieve

namespace Text

theorem hasControl_eq_false_iff {s : String} :
    hasControl s = false ↔ ∀ c ∈ s.toList, isControl c = false := by
  simp [hasControl]

/-! ### White space -/

theorem collapseBlanks_eq_nil_iff {c : Char} {s : List Char} : collapseBlanks c s = [] ↔ s = [] := by
  fun_induction collapseBlanks c s with
  | case1 => simp
  | case2 => simp
  | case3 => simp
  | case4 a b s _ _ ih => simpa using ih
  | case5 => simp
  | case6 => simp

/-- A character after white space is collapsed is the one put in, or was there before and is none. -/
theorem mem_of_mem_collapseBlanks {c d : Char} {s : List Char} (h : d ∈ collapseBlanks c s) :
    d = c ∨ d ∈ s ∧ isBlank d = false := by
  fun_induction collapseBlanks c s with
  | case1 => cases h
  | case2 a _ => exact .inl (List.mem_singleton.mp h)
  | case3 a ha =>
      obtain rfl := List.mem_singleton.mp h
      exact .inr ⟨h, Bool.eq_false_iff.mpr ha⟩
  | case4 a b s _ _ ih => exact (ih h).imp_right (.imp_left (List.mem_cons_of_mem a))
  | case5 a b s _ _ ih =>
      rcases List.mem_cons.mp h with rfl | h
      · exact .inl rfl
      · exact (ih h).imp_right (.imp_left (List.mem_cons_of_mem a))
  | case6 a b s ha ih =>
      rcases List.mem_cons.mp h with rfl | h
      · exact .inr ⟨List.mem_cons_self, Bool.eq_false_iff.mpr ha⟩
      · exact (ih h).imp_right (.imp_left (List.mem_cons_of_mem a))

/-- Collapsing white space keeps every other character. -/
theorem mem_collapseBlanks_of_mem {c d : Char} (hd : isBlank d = false) {s : List Char}
    (h : d ∈ s) : d ∈ collapseBlanks c s := by
  fun_induction collapseBlanks c s with
  | case1 => cases h
  | case2 a ha =>
      obtain rfl := List.mem_singleton.mp h
      simp [ha] at hd
  | case3 a _ => exact h
  | case4 a b s ha _ ih =>
      rcases List.mem_cons.mp h with rfl | h
      · simp [ha] at hd
      · exact ih h
  | case5 a b s ha _ ih =>
      rcases List.mem_cons.mp h with rfl | h
      · simp [ha] at hd
      · exact List.mem_cons_of_mem c (ih h)
  | case6 a b s _ ih =>
      rcases List.mem_cons.mp h with rfl | h
      · exact List.mem_cons_self
      · exact List.mem_cons_of_mem a (ih h)

/-! ### Pieces -/

theorem mem_of_mem_split {sep c : Char} {s p : List Char} (hp : p ∈ split sep s) (hc : c ∈ p) :
    c ∈ s := by
  induction s generalizing p with
  | nil =>
      obtain rfl : p = [] := by simpa [split] using hp
      cases hc
  | cons d s ih =>
      simp only [split] at hp
      split at hp
      · rcases List.mem_cons.mp hp with rfl | hp
        · cases hc
        · exact List.mem_cons_of_mem d (ih hp hc)
      · obtain ⟨q, qs, hq⟩ := List.exists_cons_of_ne_nil (split_ne_nil sep s)
        rw [hq] at hp ih
        rcases List.mem_cons.mp hp with rfl | hp
        · rcases List.mem_cons.mp hc with rfl | hc
          · exact List.mem_cons_self
          · exact List.mem_cons_of_mem d (ih List.mem_cons_self hc)
        · exact List.mem_cons_of_mem d (ih (List.mem_cons_of_mem q hp) hc)

theorem split_of_not_mem {sep : Char} {s : List Char} (h : sep ∉ s) : split sep s = [s] := by
  induction s with
  | nil => rfl
  | cons c s ih =>
      obtain ⟨hc, hs⟩ := List.ne_and_not_mem_of_not_mem_cons h
      rw [split, if_neg (Ne.symm hc), ih hs]
      rfl

theorem split_append (sep : Char) (s t : List Char) :
    split sep (s ++ sep :: t) = split sep s ++ split sep t := by
  induction s with
  | nil => simp [split]
  | cons c s ih =>
      obtain ⟨p, ps, hp⟩ := List.exists_cons_of_ne_nil (split_ne_nil sep s)
      rw [List.cons_append, split, split, ih, hp]
      split <;> rfl

/-- The last piece is empty exactly if nothing stands behind the last separator. -/
theorem getLast?_split_eq_nil_iff {sep : Char} {s : List Char} :
    (split sep s).getLast? = some [] ↔ s = [] ∨ s.getLast? = some sep := by
  induction s with
  | nil => simp [split]
  | cons c s ih =>
      obtain ⟨p, ps, hp⟩ := List.exists_cons_of_ne_nil (split_ne_nil sep s)
      have hlen := length_split sep s
      rw [hp] at ih hlen
      simp only [split, hp]
      split
      · rename_i hc
        rw [List.getLast?_cons_cons, ih, List.getLast?_cons]
        cases s <;> simp [hc, List.getLast?_cons]
      · rename_i hc
        simp only [consFirst]
        cases ps with
        | nil =>
            have hs : sep ∉ s := List.count_eq_zero.mp (by simpa using hlen.symm)
            simp
            intro h
            rcases List.mem_cons.mp (List.mem_of_getLast? h) with h | h
            · exact hc h.symm
            · exact hs h
        | cons q qs =>
            have hs : s ≠ [] := by
              rintro rfl
              simp at hlen
            rw [List.getLast?_cons_cons] at ih ⊢
            rw [ih, List.getLast?_cons]
            cases s <;> simp_all [List.getLast?_cons]

end Text

namespace Folder

theorem genericLocalpart_eq_empty_iff {path : String} : genericLocalpart path = "" ↔ path = "" := by
  rw [genericLocalpart, ← String.toList_inj, String.toList_ofList, String.toList_empty,
    Text.lower_eq_nil_iff, List.map_eq_nil_iff, Text.collapseBlanks_eq_nil_iff,
    String.toList_eq_nil_iff]

/-- **What a localpart is made of**: small letters, hyphens, points, and what stays of the path. -/
theorem mem_genericLocalpart_cases {x : Char} {path : String}
    (h : x ∈ (genericLocalpart path).toList) :
    Text.IsImage x ∨ x = '-' ∨ x = '.' ∨
      x ∈ path.toList ∧ Text.isBlank x = false ∧ x ≠ '/' ∧ Text.Settled x := by
  rw [genericLocalpart, String.toList_ofList] at h
  rcases Text.mem_lower_cases h with h | ⟨h, hx⟩
  · exact .inl h
  · obtain ⟨d, hd, hdx⟩ := List.mem_map.mp h
    split at hdx
    · exact .inr (.inr (.inl hdx.symm))
    · rename_i hslash
      obtain rfl := hdx
      rcases Text.mem_of_mem_collapseBlanks hd with rfl | ⟨hd, hblank⟩
      · exact .inr (.inl rfl)
      · exact .inr (.inr (.inr ⟨hd, hblank, hslash, hx⟩))

theorem mem_genericLocalpart_of_mem {x : Char} {path : String} (hblank : Text.isBlank x = false)
    (hslash : x ≠ '/') (hx : Text.Settled x) (h : x ∈ path.toList) :
    x ∈ (genericLocalpart path).toList := by
  rw [genericLocalpart, String.toList_ofList]
  refine Text.mem_lower_of_settled hx (List.mem_map.mpr ?_)
  exact ⟨x, Text.mem_collapseBlanks_of_mem hblank h, if_neg hslash⟩

/-- **The control characters of a localpart** are those of the path that are no white space. -/
theorem hasControl_genericLocalpart_iff {path : String} :
    Text.hasControl (genericLocalpart path) = true ↔
      ∃ c ∈ path.toList, Text.isControl c = true ∧ Text.isBlank c = false := by
  rw [Text.hasControl, List.any_eq_true]
  constructor
  · rintro ⟨c, hc, hcontrol⟩
    rcases mem_genericLocalpart_cases hc with himage | rfl | rfl | ⟨hpath, hblank, -, -⟩
    · rw [himage.isControl_eq_false] at hcontrol
      cases hcontrol
    · cases hcontrol
    · cases hcontrol
    · exact ⟨c, hpath, hcontrol, hblank⟩
  · rintro ⟨c, hc, hcontrol, hblank⟩
    have hslash : c ≠ '/' := by
      rintro rfl
      cases hcontrol
    have hsettled := Text.settled_of_isControl hcontrol
    exact ⟨c, mem_genericLocalpart_of_mem hblank hslash hsettled hc, hcontrol⟩

theorem hasControl_genericLocalpart {path : String} (h : Text.hasControl path = false) :
    Text.hasControl (genericLocalpart path) = false := by
  refine Bool.eq_false_iff.mpr fun hcontrol => ?_
  obtain ⟨c, hc, hcc, -⟩ := hasControl_genericLocalpart_iff.mp hcontrol
  rw [Text.hasControl_eq_false_iff.mp h c hc] at hcc
  cases hcc

/-- What is neither white space nor a letter, nor put in for anything, is in the localpart exactly if
it is in the path. -/
theorem mem_genericLocalpart_iff {x : Char} (hx : x.toNat < 0x61) (hstay : Text.lowerChar x = x)
    (hblank : Text.isBlank x = false) (hput : x ≠ '-' ∧ x ≠ '.' ∧ x ≠ '/') {path : String} :
    x ∈ (genericLocalpart path).toList ↔ x ∈ path.toList := by
  obtain ⟨hhyphen, hpoint, hslash⟩ := hput
  refine ⟨fun h => ?_, mem_genericLocalpart_of_mem hblank hslash ⟨hstay, ?_⟩⟩
  · rcases mem_genericLocalpart_cases h with himage | rfl | rfl | ⟨h, -⟩
    · exact absurd himage.le (Nat.not_le.mpr hx)
    · exact absurd rfl hhyphen
    · exact absurd rfl hpoint
    · exact h
  · rintro rfl
    exact absurd hx (by decide)

/-- The last name along the path of a folder is its own. -/
theorem lastName_join {path name : String} (h : '/' ∉ name.toList) :
    lastName (join path name) = name := by
  have hlast : (Text.split '/' (join path name).toList).getLast? = some name.toList := by
    unfold join
    split
    · rw [Text.split_of_not_mem h]
      rfl
    · have hslash : (path ++ "/" ++ name).toList = path.toList ++ '/' :: name.toList := by simp
      rw [hslash, Text.split_append, Text.split_of_not_mem h, List.getLast?_append]
      rfl
  rw [lastName, names, List.getLast?_map, hlast]
  simp

/-- A path ends in an empty name exactly if it ends in a slash, or is empty. -/
theorem lastName_eq_empty_iff {path : String} :
    lastName path = "" ↔ path = "" ∨ path.toList.getLast? = some '/' := by
  have hlast : lastName path = "" ↔ (Text.split '/' path.toList).getLast? = some [] := by
    rw [lastName, names, List.getLast?_map]
    cases h : (Text.split '/' path.toList).getLast? with
    | none => exact absurd (List.getLast?_eq_none_iff.mp h) (Text.split_ne_nil _ _)
    | some p => simp [← String.toList_inj]
  rw [hlast, Text.getLast?_split_eq_nil_iff, String.toList_eq_nil_iff]

theorem hasControl_lastName {path : String} (h : Text.hasControl path = false) :
    Text.hasControl (lastName path) = false := by
  rw [lastName, names, List.getLast?_map]
  cases hp : (Text.split '/' path.toList).getLast? with
  | none => exact h
  | some p =>
      rw [Text.hasControl_eq_false_iff] at h ⊢
      rw [Option.map_some, Option.getD_some, String.toList_ofList]
      exact fun c hc => h c (Text.mem_of_mem_split (List.mem_of_getLast? hp) hc)

end Folder

end FolderSieve
