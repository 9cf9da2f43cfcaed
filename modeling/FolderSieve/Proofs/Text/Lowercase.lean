import FolderSieve.Text.Blank
import FolderSieve.Text.Control
import FolderSieve.Text.Lowercase
import Mathlib.Data.List.Basic
import Mathlib.Data.List.Chain

/-!
# Text — what lower case puts in

A character of a text in lower case was there before, or it is an image: what another character is
turned into.  Images are not what lower case starts from.  They stay as they are when lower case is
taken again, and none of them is white space, a control character or a sign before the small letters.

* `Run.proper_of_mem_lowerRuns`, `Run.apart_of_mem_lowerRuns`: what is read off the table.
* `mem_lower_cases`, `mem_lower_of_settled`: the characters of a text in lower case.
* `lower_eq_self_iff`: a text is in lower case exactly if each of its characters stays as it is.
-/

namespace FolderSieve.Text

/-! ### The table -/

/-- No image is one of these: what comes before the small letters, the control character behind them,
the capital I with a point, what is no character, white space. -/
def imageless : CodeSet :=
  [(0x00, 0x60), (0x7F, 0x7F), (0x130, 0x130), (0xD800, 0xDFFF)] ++ blanks

namespace Run

/-- The images of a run are characters that images may be. -/
def Proper (r : Run) : Prop :=
  r.image + (r.last - r.first) < 0x110000 ∧
    ∀ q ∈ imageless, r.image + (r.last - r.first) < q.1 ∨ q.2 < r.image

/-- No image of the run `r` is on the run `q`: they lie before it, behind it or in its gaps. -/
def Apart (r q : Run) : Prop :=
  r.image + (r.last - r.first) < q.first ∨ q.last < r.image ∨
    (r.first = r.last ∨ r.stride = 2) ∧ q.stride = 2 ∧ (r.image + q.first) % 2 = 1

/-- No image of the run `r` is on one of the runs, which are in ascending order. -/
def clearOf (r : Run) : List Run → Bool
  | [] => true
  | q :: qs =>
      if q.last < r.image then r.clearOf qs
      else if r.image + (r.last - r.first) < q.first then true
      else (r.first == r.last || r.stride == 2) && q.stride == 2 && (r.image + q.first) % 2 == 1 &&
        r.clearOf qs

instance (r : Run) : Decidable r.Proper :=
  inferInstanceAs (Decidable (_ ∧ _))

theorem proper_of_mem_lowerRuns : ∀ r ∈ lowerRuns, r.Proper := by
  decide +kernel

theorem ascending_lowerRuns : lowerRuns.Pairwise fun r q => r.first < q.first := by
  have hchain : (lowerRuns.map first).IsChain (· < ·) := by decide +kernel
  exact List.pairwise_map.mp (List.isChain_iff_pairwise.mp hchain)

/-- A run that is clear of the first run behind its images is clear of those after it too. -/
theorem apart_of_clearOf {r : Run} {qs : List Run} (hqs : qs.Pairwise fun q q' => q.first < q'.first)
    (h : r.clearOf qs = true) : ∀ q ∈ qs, r.Apart q := by
  induction qs with
  | nil => rintro q ⟨⟩
  | cons q qs ih =>
      obtain ⟨hq, hqs⟩ := List.pairwise_cons.mp hqs
      rw [clearOf] at h
      split at h
      · rename_i hbefore
        exact List.forall_mem_cons.mpr ⟨.inr (.inl hbefore), ih hqs h⟩
      split at h
      · rename_i hbehind
        refine List.forall_mem_cons.mpr ⟨.inl hbehind, fun q' hq' => .inl ?_⟩
        exact Nat.lt_trans hbehind (hq q' hq')
      · simp only [Bool.and_eq_true, Bool.or_eq_true, beq_iff_eq] at h
        obtain ⟨⟨⟨hr, hstride⟩, hodd⟩, hclear⟩ := h
        exact List.forall_mem_cons.mpr ⟨.inr (.inr ⟨hr, hstride, hodd⟩), ih hqs hclear⟩

theorem apart_of_mem_lowerRuns : ∀ r ∈ lowerRuns, ∀ q ∈ lowerRuns, r.Apart q := by
  have hclear : lowerRuns.all (fun r => r.clearOf lowerRuns) = true := by decide +kernel
  exact fun r hr => apart_of_clearOf ascending_lowerRuns (List.all_eq_true.mp hclear r hr)

/-- No run has a control character on it. -/
theorem not_isControl_of_mem_lowerRuns :
    ∀ r ∈ lowerRuns, 0x20 ≤ r.first ∧ (r.last < 0x7F ∨ 0x7F < r.first) := by
  decide +kernel

variable {r q : Run} {n m : Nat}

theorem imageOf?_eq_some (h : r.imageOf? n = some m) :
    n ≤ r.last ∧ (n - r.first) % r.stride = 0 ∧ m = r.image + (n - r.first) := by
  unfold imageOf? at h
  split at h
  · rename_i hn
    exact ⟨hn.2.1, hn.2.2, (Option.some.inj h).symm⟩
  · cases h

theorem Apart.imageOf?_eq_none (hrq : r.Apart q) (h : r.imageOf? n = some m) :
    q.imageOf? m = none := by
  obtain ⟨hlast, hstride, rfl⟩ := imageOf?_eq_some h
  refine if_neg ?_
  rintro ⟨hqfirst, hqlast, hqstride⟩
  rcases hrq with hbefore | hbehind | ⟨hr, hq, hodd⟩
  · omega
  · omega
  · -- an even distance from the first image, and an odd one from the first of `q`
    rw [hq] at hqstride
    rcases hr with hr | hr
    · omega
    · rw [hr] at hstride
      omega

theorem Proper.has_imageless (hr : r.Proper) (h : r.imageOf? n = some m) :
    imageless.has m = false := by
  obtain ⟨hlast, -, rfl⟩ := imageOf?_eq_some h
  refine List.any_eq_false.mpr fun q hq => ?_
  have := hr.2 q hq
  simp only [Bool.and_eq_true, decide_eq_true_eq, not_and]
  omega

end Run

/-! ### One character -/

/-- A code point stays if it is on no run; on a run it goes to its image. -/
theorem lowerCode_cases (n : Nat) :
    (lowerCode n = n ∧ ∀ r ∈ lowerRuns, r.imageOf? n = none) ∨
      ∃ r ∈ lowerRuns, r.imageOf? n = some (lowerCode n) := by
  unfold lowerCode
  cases h : lowerRuns.findSome? (·.imageOf? n) with
  | none => exact .inl ⟨rfl, List.findSome?_eq_none_iff.mp h⟩
  | some m => exact .inr (List.exists_of_findSome?_eq_some h)

theorem lowerCode_eq_self {n : Nat} (h : ∀ r ∈ lowerRuns, r.imageOf? n = none) :
    lowerCode n = n := by
  rw [lowerCode, List.findSome?_eq_none_iff.mpr h]
  rfl

/-- An image stays as it is. -/
theorem lowerCode_image {r : Run} (hr : r ∈ lowerRuns) {n m : Nat} (h : r.imageOf? n = some m) :
    lowerCode m = m :=
  lowerCode_eq_self fun q hq => (Run.apart_of_mem_lowerRuns r hr q hq).imageOf?_eq_none h

theorem toNat_lowerChar (c : Char) : (lowerChar c).toNat = lowerCode c.toNat := by
  rcases lowerCode_cases c.toNat with ⟨h, -⟩ | ⟨r, hr, h⟩
  · rw [lowerChar, h, Char.ofNat_toNat]
  · have hproper := Run.proper_of_mem_lowerRuns r hr
    have himage := hproper.has_imageless h
    obtain ⟨hlast, -, he⟩ := Run.imageOf?_eq_some h
    have hvalid : (lowerCode c.toNat).isValidChar := by
      have hmax := hproper.1
      simp only [imageless, List.cons_append, CodeSet.has_cons, Bool.or_eq_false_iff,
        Bool.and_eq_false_iff, decide_eq_false_iff_not] at himage
      unfold Nat.isValidChar
      omega
    rw [lowerChar, Char.ofNat, dif_pos hvalid]
    rfl

/-- Lower case leaves the character alone, whatever is around it. -/
def Settled (c : Char) : Prop :=
  lowerChar c = c ∧ c ≠ '\u0130'

instance (c : Char) : Decidable (Settled c) :=
  inferInstanceAs (Decidable (_ ∧ _))

/-- What another character is turned into: the point over an i, a sigma at the end of a word, or a
character that the table has as an image. -/
inductive IsImage : Char → Prop where
  | point : IsImage '\u0307'
  | finalSigma : IsImage '\u03C2'
  | onRun {r : Run} {n : Nat} {x : Char} (hr : r ∈ lowerRuns) (hx : r.imageOf? n = some x.toNat) :
      IsImage x

theorem isImage_lowerChar {c : Char} (h : lowerChar c ≠ c) : IsImage (lowerChar c) := by
  rcases lowerCode_cases c.toNat with ⟨hc, -⟩ | ⟨r, hr, hc⟩
  · exact absurd (by rw [lowerChar, hc, Char.ofNat_toNat]) h
  · exact .onRun hr (by rw [toNat_lowerChar, hc])

namespace IsImage

variable {x : Char}

theorem has_imageless (h : IsImage x) : imageless.has x.toNat = false := by
  cases h with
  | point => decide +kernel
  | finalSigma => decide +kernel
  | onRun hr hx => exact (Run.proper_of_mem_lowerRuns _ hr).has_imageless hx

theorem ne (h : IsImage x) {c : Char} (hc : imageless.has c.toNat = true) : x ≠ c := by
  rintro rfl
  rw [h.has_imageless] at hc
  cases hc

/-- An image stays as it is. -/
theorem settled (h : IsImage x) : Settled x := by
  refine ⟨?_, h.ne (by decide)⟩
  cases h with
  | point => decide +kernel
  | finalSigma => decide +kernel
  | onRun hr hx => rw [lowerChar, lowerCode_image hr hx, Char.ofNat_toNat]

theorem isBlank_eq_false (h : IsImage x) : isBlank x = false := by
  have := h.has_imageless
  rw [imageless, CodeSet.has, List.any_append, Bool.or_eq_false_iff] at this
  exact this.2

/-- No image comes before the small letters. -/
theorem le (h : IsImage x) : 0x61 ≤ x.toNat := by
  have := h.has_imageless
  simp only [imageless, List.cons_append, CodeSet.has_cons, Bool.or_eq_false_iff,
    Bool.and_eq_false_iff, decide_eq_false_iff_not] at this
  omega

theorem isControl_eq_false (h : IsImage x) : isControl x = false := by
  have hle := h.le
  have := h.has_imageless
  simp only [imageless, List.cons_append, CodeSet.has_cons, Bool.or_eq_false_iff,
    Bool.and_eq_false_iff, decide_eq_false_iff_not] at this
  simp only [isControl, Bool.or_eq_false_iff, decide_eq_false_iff_not, beq_eq_false_iff_ne]
  omega

end IsImage

/-- A control character stays as it is. -/
theorem settled_of_isControl {c : Char} (h : isControl c = true) : Settled c := by
  simp only [isControl, Bool.or_eq_true, decide_eq_true_eq, beq_iff_eq] at h
  have hrun : ∀ r ∈ lowerRuns, r.imageOf? c.toNat = none := by
    intro r hr
    have := Run.not_isControl_of_mem_lowerRuns r hr
    refine if_neg ?_
    rintro ⟨hfirst, hlast, -⟩
    omega
  refine ⟨by rw [lowerChar, lowerCode_eq_self hrun, Char.ofNat_toNat], ?_⟩
  rintro rfl
  revert h
  decide

theorem lowerAt_of_settled {c : Char} (h : Settled c) (before after : List Char) :
    lowerAt before c after = [c] := by
  have hsigma : c ≠ '\u03A3' := by
    rintro rfl
    exact absurd h.1 (by decide +kernel)
  rw [lowerAt, if_neg h.2, if_neg hsigma, h.1]

/-- What a character becomes is an image, or the character itself. -/
theorem mem_lowerAt_cases {x c : Char} {before after : List Char} (h : x ∈ lowerAt before c after) :
    IsImage x ∨ x = c ∧ Settled c := by
  unfold lowerAt at h
  split at h
  · rcases List.mem_pair.mp h with rfl | rfl
    · have hi : lowerChar 'I' = 'i' := by decide +kernel
      exact .inl (hi ▸ isImage_lowerChar (c := 'I') (by rw [hi]; decide))
    · exact .inl .point
  · rename_i hpoint
    split at h
    · obtain rfl := List.mem_singleton.mp h
      split
      · exact .inl .finalSigma
      · have hs : lowerChar '\u03A3' = '\u03C3' := by decide +kernel
        exact .inl (hs ▸ isImage_lowerChar (c := '\u03A3') (by rw [hs]; decide))
    · obtain rfl := List.mem_singleton.mp h
      by_cases hc : lowerChar c = c
      · exact .inr ⟨hc, hc, hpoint⟩
      · exact .inl (isImage_lowerChar hc)

/-! ### A text -/

/-- **What lower case puts in** is an image; everything else was there, and stays as it is. -/
theorem mem_lower_cases {x : Char} {s : List Char} (h : x ∈ lower s) :
    IsImage x ∨ x ∈ s ∧ Settled x := by
  have hafter : ∀ before, x ∈ lowerAfter before s → IsImage x ∨ x ∈ s ∧ Settled x := by
    clear h
    induction s with
    | nil => rintro before ⟨⟩
    | cons c s ih =>
        intro before h
        rcases List.mem_append.mp h with h | h
        · rcases mem_lowerAt_cases h with himage | ⟨rfl, hc⟩
          · exact .inl himage
          · exact .inr ⟨List.mem_cons_self, hc⟩
        · exact (ih _ h).imp_right fun ⟨hs, hx⟩ => ⟨List.mem_cons_of_mem c hs, hx⟩
  exact hafter [] h

/-- What stays as it is stays in the text. -/
theorem mem_lower_of_settled {x : Char} {s : List Char} (hx : Settled x) (h : x ∈ s) :
    x ∈ lower s := by
  have hafter : ∀ before, x ∈ lowerAfter before s := by
    induction s with
    | nil => cases h
    | cons c s ih =>
        intro before
        refine List.mem_append.mpr ?_
        rcases List.mem_cons.mp h with rfl | h
        · exact .inl (by rw [lowerAt_of_settled hx]; exact List.mem_singleton_self x)
        · exact .inr (ih h _)
  exact hafter []

theorem settled_of_mem_lower {x : Char} {s : List Char} (h : x ∈ lower s) : Settled x :=
  (mem_lower_cases h).elim IsImage.settled And.right

/-- **A text is in lower case** exactly if each of its characters stays as it is. -/
theorem lower_eq_self_iff {s : List Char} : lower s = s ↔ ∀ c ∈ s, Settled c := by
  constructor
  · intro h c hc
    rw [← h] at hc
    exact settled_of_mem_lower hc
  · intro h
    have hafter : ∀ before, lowerAfter before s = s := by
      induction s with
      | nil => exact fun _ => rfl
      | cons c s ih =>
          obtain ⟨hc, hs⟩ := List.forall_mem_cons.mp h
          intro before
          rw [lowerAfter, lowerAt_of_settled hc, ih hs]
          rfl
    exact hafter []

theorem lower_eq_nil_iff {s : List Char} : lower s = [] ↔ s = [] := by
  cases s with
  | nil => simp [lower, lowerAfter]
  | cons c s =>
      simp only [lower, lowerAfter, List.append_eq_nil_iff, reduceCtorEq, iff_false, not_and]
      intro h
      unfold lowerAt at h
      repeat' split at h
      all_goals cases h

end FolderSieve.Text
