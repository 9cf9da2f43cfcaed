import FolderSieve.Text.Blank
import FolderSieve.Text.Lowercase
import Mathlib.Data.List.Basic

/-!
# Text — lower case in parts

Lower case goes character by character, except that a capital sigma asks for the letters around it, and
looks for them past the characters that have no case and belong to no word's end, among them the point.
So the parts of a text are put in lower case on their own exactly if each sigma ends a word in the text
exactly if it ends one in its part.

* `lowerAfter_append`: lower case of a text in two parts.
* `lowerWithin_eq_lower_iff`: when a part is put in lower case as it is on its own.
* `lower_intercalate_iff`: when all parts between points are.
* `collapseBlanks_append`: white space in a text of two parts.
-/

namespace FolderSieve.Text

/-! ### A part of a text -/

/-- Lower case of a part of a text, between what comes before it, nearest character first, and what
comes after it. -/
def lowerWithin : (before : List Char) → List Char → (after : List Char) → List Char
  | _, [], _ => []
  | before, c :: s, after => lowerAt before c (s ++ after) ++ lowerWithin (c :: before) s after

/-- **Lower case in two parts.** -/
theorem lowerAfter_append (before s t : List Char) :
    lowerAfter before (s ++ t) = lowerWithin before s t ++ lowerAfter (s.reverse ++ before) t := by
  induction s generalizing before with
  | nil => rfl
  | cons c s ih => simp [lowerAfter, lowerWithin, ih]

theorem lowerWithin_nil (before s : List Char) : lowerWithin before s [] = lowerAfter before s := by
  have h := lowerAfter_append before s []
  rwa [List.append_nil, lowerAfter, List.append_nil, eq_comm] at h

/-- How long a character is in lower case does not depend on what is around it. -/
theorem length_lowerAt (before before' : List Char) (c : Char) (after after' : List Char) :
    (lowerAt before c after).length = (lowerAt before' c after').length := by
  unfold lowerAt
  repeat' split
  all_goals rfl

theorem length_lowerWithin (before before' s after after' : List Char) :
    (lowerWithin before s after).length = (lowerWithin before' s after').length := by
  induction s generalizing before before' with
  | nil => rfl
  | cons c s ih =>
      rw [lowerWithin, lowerWithin, List.length_append, List.length_append,
        length_lowerAt before before', ih]

theorem lowerAt_eq_iff {before before' : List Char} {c : Char} {after after' : List Char} :
    lowerAt before c after = lowerAt before' c after' ↔
      (c = '\u03A3' → endsWord before after = endsWord before' after') := by
  by_cases hc : c = '\u03A3'
  · subst hc
    cases h : endsWord before after <;> cases h' : endsWord before' after' <;> simp [lowerAt, h, h']
  · simp [lowerAt, hc]

/-- A part is put in lower case in the same way between two texts and two others exactly if each
capital sigma in it ends a word there exactly if it does here. -/
theorem lowerWithin_eq_iff {before before' s after after' : List Char} :
    lowerWithin before s after = lowerWithin before' s after' ↔
      ∀ u v, s = u ++ '\u03A3' :: v →
        endsWord (u.reverse ++ before) (v ++ after) =
          endsWord (u.reverse ++ before') (v ++ after') := by
  induction s generalizing before before' with
  | nil => simp [lowerWithin]
  | cons c s ih =>
      have hlength := length_lowerAt before before' c (s ++ after) (s ++ after')
      have happend : lowerWithin before (c :: s) after = lowerWithin before' (c :: s) after' ↔
          lowerAt before c (s ++ after) = lowerAt before' c (s ++ after') ∧
            lowerWithin (c :: before) s after = lowerWithin (c :: before') s after' :=
        ⟨fun h => List.append_inj h hlength, fun h => congrArg₂ (· ++ ·) h.1 h.2⟩
      rw [happend, lowerAt_eq_iff, ih]
      constructor
      · rintro ⟨hc, hs⟩ u v he
        cases u with
        | nil =>
            obtain ⟨rfl, rfl⟩ := List.cons.inj he
            exact hc rfl
        | cons d u =>
            obtain ⟨rfl, rfl⟩ := List.cons.inj he
            simpa using hs u v rfl
      · intro h
        refine ⟨fun hc => h [] s (by rw [hc]; rfl), fun u v he => ?_⟩
        simpa using h (c :: u) v (by rw [he]; rfl)

/-- Each capital sigma of a text ends a word, between two other texts, exactly if it ends one in the
text on its own. -/
def SigmasKept (before s after : List Char) : Prop :=
  ∀ u v, s = u ++ '\u03A3' :: v →
    endsWord (u.reverse ++ before) (v ++ after) = endsWord u.reverse v

/-- **A part is put in lower case as it is on its own** exactly if its sigmas are kept. -/
theorem lowerWithin_eq_lower_iff {before s after : List Char} :
    lowerWithin before s after = lower s ↔ SigmasKept before s after := by
  rw [lower, ← lowerWithin_nil, lowerWithin_eq_iff]
  simp [SigmasKept]

theorem sigmasKept_of_not_mem {s : List Char} (h : '\u03A3' ∉ s) (before after : List Char) :
    SigmasKept before s after := by
  rintro u v rfl
  exact absurd (by simp) h

/-! ### Two parts -/

/-- Nothing in the text counts when the letters around a sigma are looked for. -/
def Ignored (s : List Char) : Prop :=
  ∀ c ∈ s, caseIgnorable.has c.toNat = true

instance (s : List Char) : Decidable (Ignored s) :=
  decidable_of_iff (s.all fun c => caseIgnorable.has c.toNat) List.all_eq_true

theorem ignored_cons {c : Char} {s : List Char} :
    Ignored (c :: s) ↔ caseIgnorable.has c.toNat = true ∧ Ignored s :=
  List.forall_mem_cons

theorem meetsCased_append (s t : List Char) :
    meetsCased (s ++ t) = if Ignored s then meetsCased t else meetsCased s := by
  induction s with
  | nil => simp [Ignored]
  | cons c s ih =>
      by_cases hc : caseIgnorable.has c.toNat = true
      · have hcons (s : List Char) : meetsCased (c :: s) = meetsCased s := by
          simp [meetsCased, hc]
        simp [hcons, ih, ignored_cons, hc]
      · simp [meetsCased, hc, ignored_cons]

theorem meetsCased_of_ignored {s : List Char} (h : Ignored s) : meetsCased s = false := by
  have := meetsCased_append s []
  rwa [List.append_nil, if_pos h] at this

theorem ignored_reverse {s : List Char} : Ignored s.reverse ↔ Ignored s := by
  simp [Ignored]

/-- The text ends in a sigma that ends a word, but for what is ignored. -/
def EndsInSigma (s : List Char) : Prop :=
  ∃ u v, s = u ++ '\u03A3' :: v ∧ meetsCased u.reverse = true ∧ Ignored v

/-- The text opens with a sigma that no letter follows, but for what is ignored. -/
def OpensWithSigma (s : List Char) : Prop :=
  ∃ u v, s = u ++ '\u03A3' :: v ∧ Ignored u ∧ meetsCased v = false

/-- **In front of other text** sigmas are kept, unless the text ends in one and a letter follows. -/
theorem sigmasKept_before_iff {s after : List Char} :
    SigmasKept [] s after ↔ ¬(EndsInSigma s ∧ meetsCased after = true) := by
  have hkept (u v : List Char) : endsWord (u.reverse ++ []) (v ++ after) = endsWord u.reverse v ↔
      ¬(meetsCased u.reverse = true ∧ Ignored v ∧ meetsCased after = true) := by
    rw [List.append_nil, endsWord, endsWord, meetsCased_append]
    by_cases hv : Ignored v
    · cases meetsCased u.reverse <;> simp [hv, meetsCased_of_ignored hv]
    · simp [hv]
  constructor
  · rintro h ⟨⟨u, v, he, hu, hv⟩, ha⟩
    exact (hkept u v).mp (h u v he) ⟨hu, hv, ha⟩
  · intro h u v he
    exact (hkept u v).mpr fun ⟨hu, hv, ha⟩ => h ⟨⟨u, v, he, hu, hv⟩, ha⟩

/-- **Behind other text** sigmas are kept, unless the text opens with one and a letter comes before. -/
theorem sigmasKept_behind_iff {before s : List Char} :
    SigmasKept before s [] ↔ ¬(meetsCased before = true ∧ OpensWithSigma s) := by
  have hkept (u v : List Char) : endsWord (u.reverse ++ before) (v ++ []) = endsWord u.reverse v ↔
      ¬(meetsCased before = true ∧ Ignored u ∧ meetsCased v = false) := by
    rw [List.append_nil, endsWord, endsWord, meetsCased_append]
    by_cases hu : Ignored u
    · have hu' := ignored_reverse.mpr hu
      cases meetsCased v <;> simp [hu, hu', meetsCased_of_ignored hu']
    · simp [hu, ignored_reverse]
  constructor
  · rintro h ⟨hb, u, v, he, hu, hv⟩
    exact (hkept u v).mp (h u v he) ⟨hb, hu, hv⟩
  · intro h u v he
    exact (hkept u v).mpr fun ⟨hb, hu, hv⟩ => h ⟨hb, u, v, he, hu, hv⟩

/-! ### Parts between points -/

theorem meetsCased_point (s : List Char) : meetsCased ('.' :: s) = meetsCased s := by
  have h : Ignored ['.'] := by decide +kernel
  exact (meetsCased_append ['.'] s).trans (if_pos h)

theorem lowerAt_point (before after : List Char) : lowerAt before '.' after = ['.'] := by
  have h : lowerChar '.' = '.' := by decide +kernel
  simp [lowerAt, h]

/-- A part, a point, and the rest of a text. -/
theorem lowerAfter_point (before s t : List Char) :
    lowerAfter before (s ++ '.' :: t) =
      lowerWithin before s ('.' :: t) ++ '.' :: lowerAfter ('.' :: (s.reverse ++ before)) t := by
  rw [lowerAfter_append, lowerAfter, lowerAt_point]
  rfl

theorem intercalate_point_cons (s : List Char) (ss : List (List Char)) :
    ['.'].intercalate (s :: ss) = s ++ ss.flatMap ('.' :: ·) := by
  induction ss generalizing s with
  | nil => simp
  | cons t ss ih => rw [List.intercalate_cons_cons, ih, List.flatMap_cons]; simp

/-- The parts between points are put in lower case on their own, behind a given text, exactly if the
sigmas of each of them are kept. -/
theorem lowerAfter_intercalate_iff {before : List Char} {parts : List (List Char)} :
    lowerAfter before (['.'].intercalate parts) = ['.'].intercalate (parts.map lower) ↔
      ∀ above part below, parts = above ++ part :: below →
        SigmasKept ((above.flatMap (· ++ ['.'])).reverse ++ before) part
          (below.flatMap ('.' :: ·)) := by
  induction parts generalizing before with
  | nil => simp [lowerAfter]
  | cons s parts ih =>
      have hcons : (∀ above part below, s :: parts = above ++ part :: below →
          SigmasKept ((above.flatMap (· ++ ['.'])).reverse ++ before) part
            (below.flatMap ('.' :: ·))) ↔
          SigmasKept before s (parts.flatMap ('.' :: ·)) ∧
            ∀ above part below, parts = above ++ part :: below →
              SigmasKept ((above.flatMap (· ++ ['.'])).reverse ++ '.' :: (s.reverse ++ before)) part
                (below.flatMap ('.' :: ·)) := by
        constructor
        · intro h
          refine ⟨by simpa using h [] s parts rfl, fun above part below he => ?_⟩
          simpa using h (s :: above) part below (by rw [he]; rfl)
        · rintro ⟨hs, h⟩ above part below he
          cases above with
          | nil =>
              obtain ⟨rfl, rfl⟩ := List.cons.inj he
              simpa using hs
          | cons a above =>
              obtain ⟨rfl, hrest⟩ := List.cons.inj he
              simpa using h above part below hrest
      rw [hcons, ← lowerWithin_eq_lower_iff]
      cases parts with
      | nil => simp [lowerWithin_nil]
      | cons t parts =>
          have htail : (t :: parts).flatMap ('.' :: ·) = '.' :: ['.'].intercalate (t :: parts) := by
            rw [intercalate_point_cons]
            rfl
          have hlength := length_lowerWithin before [] s ('.' :: ['.'].intercalate (t :: parts)) []
          rw [lowerWithin_nil] at hlength
          rw [← ih, List.intercalate_cons_cons, List.append_assoc, List.singleton_append,
            lowerAfter_point, List.map_cons, List.map_cons, List.intercalate_cons_cons,
            List.append_assoc, List.singleton_append, htail]
          constructor
          · intro h
            obtain ⟨h₁, h₂⟩ := List.append_inj h hlength
            exact ⟨h₁, (List.cons.inj h₂).2⟩
          · rintro ⟨h₁, h₂⟩
            rw [h₁, h₂]

/-- **The parts between points** are put in lower case on their own exactly if the sigmas of each of
them are kept. -/
theorem lower_intercalate_iff {parts : List (List Char)} :
    lower (['.'].intercalate parts) = ['.'].intercalate (parts.map lower) ↔
      ∀ above part below, parts = above ++ part :: below →
        SigmasKept (above.flatMap (· ++ ['.'])).reverse part (below.flatMap ('.' :: ·)) := by
  rw [lower, lowerAfter_intercalate_iff]
  simp only [List.append_nil]

/-! ### White space -/

/-- **White space in two parts**, with a character between them that is not white space. -/
theorem collapseBlanks_append {c d : Char} (hd : isBlank d = false) (s t : List Char) :
    collapseBlanks c (s ++ d :: t) = collapseBlanks c s ++ d :: collapseBlanks c t := by
  have hcons : collapseBlanks c (d :: t) = d :: collapseBlanks c t := by
    cases t <;> simp [collapseBlanks, hd]
  fun_induction collapseBlanks c s with
  | case1 => exact hcons
  | case2 a ha => simp [collapseBlanks, ha, hd, hcons]
  | case3 a ha => simp [collapseBlanks, ha, hcons]
  | case4 a b s ha hb ih => simpa [collapseBlanks, ha, hb] using ih
  | case5 a b s ha hb ih => simpa [collapseBlanks, ha, hb] using ih
  | case6 a b s ha ih => simpa [collapseBlanks, ha] using ih

end FolderSieve.Text
