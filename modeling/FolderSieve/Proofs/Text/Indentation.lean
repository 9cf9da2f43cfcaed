import FolderSieve.Sieve.Quoted
import FolderSieve.Text.Control
import FolderSieve.Text.Line
import Mathlib.Logic.Function.Iterate

/-!
# Indentation, character by character

`indent` works line by line; `indentFrom` does the same in one pass over the characters, knowing
only whether a line starts where it stands (`indent_eq_indentFrom`).  In this form it can be
followed into a text that stands between quotation marks.

* `indentFrom_quoted`: a quoted text that is moved right is the quoted form of `movedFrom`, which
  puts the indentation behind the line breaks of the text itself.
* `iterate_moved_eq_self_iff`: moving leaves a text alone exactly if it holds no line break.
* `isBreak_iff_of_not_isControl`: the line breaks among the characters that are not control
  characters are U+0085, U+2028 and U+2029.
-/

namespace FolderSieve.Text

/-! ### One pass -/

/-- A line ends between `c` and `s`. -/
def endsLine (c : Char) (s : List Char) : Bool :=
  isBreak c && !(c == '\r' && s.head? == some '\n')

/-- The first line of a text is blank. -/
def startsBlank : List Char → Bool
  | [] => true
  | c :: s => isBreak c || isBlank c && startsBlank s

/-- What is put before a character: the indentation, where a line starts that is not blank. -/
def margin (atStart blank : Bool) : List Char :=
  if atStart && !blank then indentation else []

/-- Moves right every line that is not blank; the text starts a line only if `atStart` holds. -/
def indentFrom : (atStart : Bool) → List Char → List Char
  | _, [] => []
  | atStart, c :: s =>
      margin atStart (startsBlank (c :: s)) ++ c :: indentFrom (endsLine c s) s

theorem isBlank_of_isBreak {c : Char} (h : isBreak c = true) : isBlank c = true := by
  simp only [isBreak, Bool.or_eq_true, beq_iff_eq] at h
  rcases h with ((((((((rfl | rfl) | rfl) | rfl) | rfl) | rfl) | rfl) | rfl) | rfl) | rfl <;> rfl

@[simp] theorem indentFrom_nil (atStart : Bool) : indentFrom atStart [] = [] := by
  rfl

@[simp] theorem margin_false (blank : Bool) : margin false blank = [] := by
  rfl

theorem indentFrom_true (s : List Char) :
    indentFrom true s = margin true (startsBlank s) ++ indentFrom false s := by
  cases s with
  | nil => rfl
  | cons c s => simp [indentFrom]

theorem endsLine_of_not_isBreak {c : Char} (h : isBreak c = false) (s : List Char) :
    endsLine c s = false := by
  simp [endsLine, h]

@[simp] theorem head?_consFirst (c : Char) (ls : List (List Char)) :
    (consFirst c ls).head?.getD [] = c :: ls.head?.getD [] := by
  cases ls <;> rfl

@[simp] theorem tail_consFirst (c : Char) (ls : List (List Char)) :
    (consFirst c ls).tail = ls.tail := by
  cases ls <;> rfl

/-- A text is blank at its start exactly if its first line is. -/
theorem startsBlank_eq (s : List Char) : startsBlank s = allBlank ((lines s).head?.getD []) := by
  fun_induction lines s with
  | case1 => rfl
  | case2 s _ => rfl
  | case3 c s _ hb _ => simp [startsBlank, allBlank, hb, isBlank_of_isBreak hb]
  | case4 c s _ hb ih => simpa [startsBlank, allBlank, hb] using congrArg (isBlank c && ·) ih

/-- The lines moved right, from the first line on or from the second. -/
theorem indentFrom_eq (s : List Char) :
    indentFrom false s = (lines s).head?.getD [] ++ (lines s).tail.flatMap indentLine ∧
      indentFrom true s = indent s := by
  -- The second half follows from the first, at every text.
  have whole : ∀ {s : List Char},
      indentFrom false s = (lines s).head?.getD [] ++ (lines s).tail.flatMap indentLine →
        indentFrom true s = indent s := by
    intro s h
    rw [indentFrom_true, h, startsBlank_eq, indent]
    cases lines s with
    | nil => rfl
    | cons l ls => by_cases hl : allBlank l <;> simp [indentLine, margin, hl]
  suffices h : indentFrom false s = (lines s).head?.getD [] ++ (lines s).tail.flatMap indentLine from
    ⟨h, whole h⟩
  fun_induction lines s with
  | case1 => rfl
  | case2 s ih =>
      have hn : endsLine '\n' s = true := rfl
      have hr : endsLine '\r' ('\n' :: s) = false := rfl
      simp [indentFrom, hn, hr, whole ih, indent]
  | case3 c s hc hb ih =>
      have he : endsLine c s = true := by
        cases s with
        | nil => simp [endsLine, hb]
        | cons d s =>
            by_cases h : c = '\r'
            · have hd : d ≠ '\n' := fun hd => hc s h (by rw [hd])
              simp [endsLine, hb, hd]
            · simp [endsLine, hb, h]
      simp [indentFrom, he, whole ih, indent]
  | case4 c s _ hb ih =>
      simp [indentFrom, endsLine_of_not_isBreak (Bool.eq_false_iff.mpr hb), ih]

theorem indent_eq_indentFrom (s : List Char) : indent s = indentFrom true s :=
  (indentFrom_eq s).2.symm

/-! ### Between quotation marks -/

/-- What a text becomes when it stands between quotation marks in a text that is moved right;
`atStart` says whether a line starts at it. -/
def movedFrom : (atStart : Bool) → List Char → List Char
  | atStart, [] => margin atStart false
  | atStart, c :: v =>
      margin atStart (startsBlank (c :: v ++ ['"'])) ++ c :: movedFrom (endsLine c v) v

/-- The same where no line starts at the text. -/
def moved (v : List Char) : List Char :=
  movedFrom false v

open Sieve (escape)

/-- The characters that get a backslash before them. -/
def isEscaped (c : Char) : Bool :=
  c == '"' || c == '\\'

theorem startsBlank_of_isEscaped {c : Char} (h : isEscaped c = true) (s : List Char) :
    startsBlank (c :: s) = false := by
  simp only [isEscaped, Bool.or_eq_true, beq_iff_eq] at h
  rcases h with rfl | rfl <;> rfl

theorem endsLine_of_isEscaped {c : Char} (h : isEscaped c = true) (s : List Char) :
    endsLine c s = false := by
  simp only [isEscaped, Bool.or_eq_true, beq_iff_eq] at h
  rcases h with rfl | rfl <;> rfl

theorem escape_cons (c : Char) (s : List Char) :
    escape (c :: s) = if isEscaped c then '\\' :: c :: escape s else c :: escape s := by
  by_cases h : isEscaped c <;> simp_all [escape, isEscaped]

theorem escape_margin_append (atStart blank : Bool) (s : List Char) :
    escape (margin atStart blank ++ s) = margin atStart blank ++ escape s := by
  cases atStart <;> cases blank <;> simp [margin, indentation, escape]

theorem startsBlank_quoted (v s : List Char) :
    startsBlank (escape v ++ '"' :: s) = startsBlank (v ++ ['"']) := by
  induction v with
  | nil => rfl
  | cons c v ih =>
      rw [escape_cons]
      by_cases h : isEscaped c
      · have hb : startsBlank (c :: v ++ ['"']) = false := startsBlank_of_isEscaped h _
        rw [if_pos h, hb]
        rfl
      · rw [if_neg h, List.cons_append, List.cons_append, startsBlank, startsBlank, ih]

theorem endsLine_quoted (c : Char) (v s : List Char) :
    endsLine c (escape v ++ '"' :: s) = endsLine c v := by
  cases v with
  | nil => rfl
  | cons d v =>
      rw [escape_cons]
      by_cases h : isEscaped d
      · have hd : (d == '\n') = false := by
          simp only [isEscaped, Bool.or_eq_true, beq_iff_eq] at h
          rcases h with rfl | rfl <;> rfl
        simp_all [endsLine]
      · simp [endsLine, h]

/-- **A quoted text, moved right.** -/
theorem indentFrom_quoted (atStart : Bool) (v s : List Char) :
    indentFrom atStart (escape v ++ '"' :: s) =
      escape (movedFrom atStart v) ++ '"' :: indentFrom false s := by
  induction v generalizing atStart with
  | nil =>
      have hb : startsBlank ('"' :: s) = false := rfl
      have he : endsLine '"' s = false := rfl
      have hm : escape (margin atStart false) = margin atStart false := by
        simpa [escape] using escape_margin_append atStart false []
      simp [escape, indentFrom, movedFrom, hb, he, hm]
  | cons c v ih =>
      rw [movedFrom, escape_margin_append, escape_cons, escape_cons]
      by_cases h : isEscaped c
      · -- Neither the backslash nor the character after it is blank or ends a line.
        have hs : startsBlank (c :: v ++ ['"']) = false := startsBlank_of_isEscaped h _
        have hb : startsBlank ('\\' :: c :: (escape v ++ '"' :: s)) = false := rfl
        have he : endsLine '\\' (c :: (escape v ++ '"' :: s)) = false := rfl
        rw [if_pos h, if_pos h, hs, endsLine_of_isEscaped h]
        simp [indentFrom, hb, he, endsLine_of_isEscaped h, ih]
      · have hs := startsBlank_quoted (c :: v) s
        rw [escape_cons, if_neg h, List.cons_append] at hs
        rw [if_neg h, if_neg h, ← hs, List.cons_append, indentFrom, endsLine_quoted, ih]
        simp

/-! ### What is left alone -/

theorem length_le_length_movedFrom (atStart : Bool) (v : List Char) :
    v.length ≤ (movedFrom atStart v).length := by
  induction v generalizing atStart with
  | nil => exact Nat.zero_le _
  | cons c v ih =>
      have := ih (endsLine c v)
      simp only [movedFrom, List.length_append, List.length_cons]
      omega

/-- A text that starts a blank line between quotation marks has the break of that line in it. -/
theorem any_isBreak_of_startsBlank {v : List Char} (h : startsBlank (v ++ ['"']) = true) :
    v.any isBreak = true := by
  induction v with
  | nil => cases h
  | cons c v ih =>
      simp only [List.cons_append, startsBlank, Bool.or_eq_true, Bool.and_eq_true] at h
      rcases h with h | ⟨-, h⟩
      · simp [h]
      · simp [ih h]

/-- Where a line starts in a text or at it, the text grows. -/
theorem length_lt_length_movedFrom {atStart : Bool} {v : List Char}
    (h : atStart = true ∨ v.any isBreak = true) : v.length < (movedFrom atStart v).length := by
  induction v generalizing atStart with
  | nil =>
      obtain rfl : atStart = true := by simpa using h
      exact Nat.zero_lt_succ _
  | cons c v ih =>
      have hle := length_le_length_movedFrom (endsLine c v) v
      simp only [movedFrom, List.length_append, List.length_cons]
      by_cases hm : atStart = true ∧ startsBlank (c :: v ++ ['"']) = false
      · rw [hm.1, hm.2]
        have : (margin true false).length = 4 := rfl
        omega
      · -- The line that starts here is blank, or none does: there is a break further on.
        have hb : (c :: v).any isBreak = true := by
          rcases h with rfl | h
          · exact any_isBreak_of_startsBlank (by simpa using hm)
          · exact h
        have := @ih (endsLine c v) (by
          simp only [List.any_cons, Bool.or_eq_true] at hb
          rcases hb with hb | hb
          · cases v with
            | nil => exact .inl (by simp [endsLine, hb])
            | cons d v =>
                by_cases hd : d = '\n'
                · exact .inr (by subst hd; rfl)
                · exact .inl (by simp [endsLine, hb, hd])
          · exact .inr hb)
        omega

theorem movedFrom_false_of_not_isBreak {v : List Char} (h : v.any isBreak = false) :
    movedFrom false v = v := by
  induction v with
  | nil => rfl
  | cons c v ih =>
      simp only [List.any_cons, Bool.or_eq_false_iff] at h
      simp [movedFrom, endsLine_of_not_isBreak h.1, ih h.2]

/-- A text without a line break stays in front of what is moved behind it. -/
theorem iterate_moved_append {u : List Char} (h : u.any isBreak = false) (d : Nat) (v : List Char) :
    moved^[d] (u ++ v) = u ++ moved^[d] v := by
  have once (v : List Char) : moved (u ++ v) = u ++ moved v := by
    unfold moved
    induction u with
    | nil => rfl
    | cons c u ih =>
        simp only [List.any_cons, Bool.or_eq_false_iff] at h
        simp [movedFrom, endsLine_of_not_isBreak h.1, ih h.2]
  induction d generalizing v with
  | zero => rfl
  | succ d ih => rw [Function.iterate_succ_apply, Function.iterate_succ_apply, once, ih]

theorem length_le_length_iterate_moved (d : Nat) (v : List Char) :
    v.length ≤ (moved^[d] v).length := by
  induction d generalizing v with
  | zero => exact Nat.le_refl _
  | succ d ih =>
      rw [Function.iterate_succ_apply]
      exact Nat.le_trans (length_le_length_movedFrom false v) (ih (moved v))

/-- **Moving leaves a text alone exactly if it holds no line break**, however often, if at all. -/
theorem iterate_moved_eq_self_iff (d : Nat) (v : List Char) :
    moved^[d] v = v ↔ d = 0 ∨ v.any isBreak = false := by
  refine ⟨fun h => ?_, ?_⟩
  · cases d with
    | zero => exact .inl rfl
    | succ d =>
        refine .inr (Bool.eq_false_iff.mpr fun hb => ?_)
        have hlt := @length_lt_length_movedFrom false v (.inr hb)
        have hle := length_le_length_iterate_moved d (moved v)
        rw [← Function.iterate_succ_apply, h] at hle
        exact absurd hlt (Nat.not_lt.mpr hle)
  · rintro (rfl | h)
    · rfl
    · exact Function.iterate_fixed (movedFrom_false_of_not_isBreak h) d

/-- Moving adds spaces and nothing else. -/
theorem count_iterate_moved {c : Char} (hc : c ≠ ' ') (d : Nat) (v : List Char) :
    (moved^[d] v).count c = v.count c := by
  have margin_count : ∀ atStart blank, (margin atStart blank).count c = 0 := fun atStart blank => by
    cases atStart <;> cases blank <;> simp [margin, indentation, Ne.symm hc]
  have once : ∀ atStart v, (movedFrom atStart v).count c = v.count c := fun atStart v => by
    induction v generalizing atStart with
    | nil => exact margin_count _ _
    | cons d v ih => simp [movedFrom, margin_count, List.count_cons, ih]
  induction d generalizing v with
  | zero => rfl
  | succ d ih => rw [Function.iterate_succ_apply, ih, moved, once]

/-- The line breaks that are no control characters. -/
theorem isBreak_iff_of_not_isControl {c : Char} (h : isControl c = false) :
    isBreak c = true ↔ c = '\u0085' ∨ c = '\u2028' ∨ c = '\u2029' := by
  simp only [isBreak, Bool.or_eq_true, beq_iff_eq, or_assoc]
  refine ⟨?_, fun h => by simp [h]⟩
  rintro (rfl | rfl | rfl | rfl | rfl | rfl | rfl | h)
  all_goals first | exact h | cases h

end FolderSieve.Text
