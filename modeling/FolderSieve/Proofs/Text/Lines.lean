import FolderSieve.Proofs.Text.Indentation

/-!
# Text — indentation taken off again

A text is cut into lines in one way only.  `LinesOf s ls` is the rule it is cut by: a line goes up to
the first break in it and has the break with it, a carriage return and a line feed are one break, and
nothing but the last line lacks one.  Spaces put before a line, whatever break it ends in, make no line
and join none; so the lines of a text that is moved right are its lines, each of them moved right, and
what was put in can be found and taken off.

* `lines_eq_iff`: the lines of a text.
* `lines_indent`: the lines of a text that is moved right.
* `outdent_indent`: a text that is moved right and back.
* `indent_append`: two parts of a text, the second of which starts with a line feed.
* `indent_reversible`: all of these.
-/

namespace FolderSieve.Text

/-! ### The rule for lines -/

/-- What ends a line. -/
inductive LineBreak : List Char → Prop where
  | single {c : Char} (hc : isBreak c = true) : LineBreak [c]
  | pair : LineBreak ['\r', '\n']

/-- The lines of a text, with their breaks.  Where a carriage return is followed by a line feed, it is
not a break of its own. -/
inductive LinesOf : List Char → List (List Char) → Prop where
  | nil : LinesOf [] []
  | last {l : List Char} (hne : l ≠ []) (hl : l.any isBreak = false) : LinesOf l [l]
  | line {l b s : List Char} {ls : List (List Char)} (hl : l.any isBreak = false)
      (hb : LineBreak b) (hs : ¬(b = ['\r'] ∧ s.head? = some '\n')) (h : LinesOf s ls) :
      LinesOf (l ++ b ++ s) ((l ++ b) :: ls)

/-- A carriage return before a line feed is the only break that does not end its line. -/
theorem endsLine_of_isBreak {c : Char} {s : List Char} (hc : isBreak c = true)
    (h : ¬(c = '\r' ∧ s.head? = some '\n')) : endsLine c s = true := by
  simpa [endsLine, hc, imp_iff_not_or] using h

theorem not_pair_of_forall {c : Char} {s : List Char}
    (h : ∀ s', c = '\r' → s = '\n' :: s' → False) : ¬(c = '\r' ∧ s.head? = some '\n') := by
  rintro ⟨hc, hs⟩
  obtain ⟨s', rfl⟩ := List.head?_eq_some_iff.mp hs
  exact h s' hc rfl

/-- A line goes on with a character, unless it ends with it. -/
theorem lines_cons (c : Char) (s : List Char) :
    lines (c :: s) = if endsLine c s then [c] :: lines s else consFirst c (lines s) := by
  generalize hl : c :: s = l
  fun_cases lines l with
  | case1 => cases hl
  | case2 s =>
      cases hl
      rfl
  | case3 d s hpair hd =>
      cases hl
      rw [if_pos (endsLine_of_isBreak hd (not_pair_of_forall hpair))]
  | case4 d s _ hd =>
      cases hl
      rw [endsLine_of_not_isBreak (Bool.eq_false_iff.mpr hd)]
      rfl

theorem lines_cons_of_not_isBreak {c : Char} (hc : isBreak c = false) (s : List Char) :
    lines (c :: s) = consFirst c (lines s) := by
  rw [lines_cons, endsLine_of_not_isBreak hc]
  rfl

theorem lines_unbroken {l : List Char} (hne : l ≠ []) (hl : l.any isBreak = false) :
    lines l = [l] := by
  induction l with
  | nil => exact absurd rfl hne
  | cons c l ih =>
      obtain ⟨hc, hl⟩ := Bool.or_eq_false_iff.mp hl
      rw [lines_cons_of_not_isBreak hc]
      cases l with
      | nil => rfl
      | cons d l => rw [ih (List.cons_ne_nil d l) hl]; rfl

/-- What stands before a break is in one line with it. -/
theorem lines_line {l b s : List Char} (hl : l.any isBreak = false) (hb : LineBreak b)
    (hs : ¬(b = ['\r'] ∧ s.head? = some '\n')) : lines (l ++ b ++ s) = (l ++ b) :: lines s := by
  induction l with
  | nil =>
      cases hb with
      | @single c hc =>
          show lines (c :: s) = [c] :: lines s
          rw [lines_cons, if_pos (endsLine_of_isBreak hc (by simpa using hs))]
      | pair => rfl
  | cons c l ih =>
      obtain ⟨hc, hl⟩ := Bool.or_eq_false_iff.mp hl
      show lines (c :: (l ++ b ++ s)) = (c :: (l ++ b)) :: lines s
      rw [lines_cons_of_not_isBreak hc, ih hl]
      rfl

namespace LinesOf

variable {s : List Char} {ls : List (List Char)}

theorem consFirst {c : Char} (hc : isBreak c = false) (h : LinesOf s ls) :
    LinesOf (c :: s) (Text.consFirst c ls) := by
  cases h with
  | nil => exact .last (List.cons_ne_nil c []) (by simp [hc])
  | last _ hl => exact .last (List.cons_ne_nil c s) (by simp [hc, hl])
  | @line l b s ls hl hb hs h => exact .line (l := c :: l) (by simp [hc, hl]) hb hs h

theorem lines_eq (h : LinesOf s ls) : lines s = ls := by
  induction h with
  | nil => rfl
  | last hne hl => exact lines_unbroken hne hl
  | line hl hb hs _ ih => rw [lines_line hl hb hs, ih]

end LinesOf

theorem linesOf_lines (s : List Char) : LinesOf s (lines s) := by
  fun_induction lines s with
  | case1 => exact .nil
  | case2 s ih => exact .line (l := []) rfl .pair (by simp) ih
  | case3 c s hpair hc ih =>
      have hs : ¬([c] = ['\r'] ∧ s.head? = some '\n') := by
        simpa using not_pair_of_forall hpair
      exact .line (l := []) rfl (.single hc) hs ih
  | case4 c s _ hc ih => exact ih.consFirst (Bool.eq_false_iff.mpr hc)

/-- **The lines of a text** are what the rule says, and nothing else is. -/
theorem lines_eq_iff {s : List Char} {ls : List (List Char)} : lines s = ls ↔ LinesOf s ls := by
  refine ⟨?_, LinesOf.lines_eq⟩
  rintro rfl
  exact linesOf_lines s

/-! ### There and back -/

/-- What is put before a line is spaces, if anything. -/
theorem exists_indentLine (l : List Char) :
    ∃ m : List Char, m.any isBreak = false ∧ indentLine l = m ++ l := by
  by_cases hl : allBlank l = true
  · exact ⟨[], rfl, if_pos hl⟩
  · exact ⟨indentation, by decide, if_neg hl⟩

/-- A text that is moved right starts with a line feed if it did before. -/
theorem head?_of_head?_indent {s : List Char} (h : (indent s).head? = some '\n') :
    s.head? = some '\n' := by
  rw [indent_eq_indentFrom] at h
  cases s with
  | nil => cases h
  | cons c s =>
      cases hblank : startsBlank (c :: s) <;> rw [indentFrom, hblank] at h
      · cases h
      · exact h

/-- **The lines of a text that is moved right** are its lines, each of them moved right. -/
theorem lines_indent (s : List Char) : lines (indent s) = (lines s).map indentLine := by
  have h := linesOf_lines s
  generalize lines s = ls at h
  rw [lines_eq_iff]
  induction h with
  | nil => exact .nil
  | @last l hne hl =>
      obtain ⟨m, hm, he⟩ := exists_indentLine l
      rw [indent, lines_unbroken hne hl, List.map_singleton, List.flatMap_singleton, he]
      exact .last (by simp [hne]) (by simp [hm, hl])
  | @line l b s ls hl hb hs h ih =>
      obtain ⟨m, hm, he⟩ := exists_indentLine (l ++ b)
      have hline : indent (l ++ b ++ s) = m ++ l ++ b ++ indent s := by
        rw [indent, lines_line hl hb hs, List.flatMap_cons, he, List.append_assoc m l b]
        rfl
      rw [hline, List.map_cons, he, ← List.append_assoc]
      refine .line (by simp [hm, hl]) hb ?_ ih
      rintro ⟨hr, hn⟩
      exact hs ⟨hr, head?_of_head?_indent hn⟩

/-- A line without its first four characters; a blank one stays as it is. -/
def outdentLine (l : List Char) : List Char :=
  if allBlank l then l else l.drop 4

/-- Takes the first four characters off every line that is not blank. -/
def outdent (s : List Char) : List Char :=
  (lines s).flatMap outdentLine

theorem outdentLine_indentLine (l : List Char) : outdentLine (indentLine l) = l := by
  by_cases hl : allBlank l = true
  · rw [indentLine, if_pos hl, outdentLine, if_pos hl]
  · have hmoved : ¬allBlank (indentation ++ l) = true := by
      rw [allBlank, List.all_append, Bool.and_eq_true]
      exact fun h => hl h.2
    rw [indentLine, if_neg hl, outdentLine, if_neg hmoved]
    rfl

/-- **There and back.** -/
theorem outdent_indent (s : List Char) : outdent (indent s) = s := by
  have hlines : (lines s).map (outdentLine ∘ indentLine) = (lines s).map id :=
    List.map_congr_left fun l _ => outdentLine_indentLine l
  rw [outdent, lines_indent, List.flatMap_def, List.map_map, hlines, List.map_id, flatten_lines]

/-! ### In parts -/

theorem startsBlank_append_lineFeed (s t : List Char) :
    startsBlank (s ++ '\n' :: t) = startsBlank s := by
  induction s with
  | nil => rfl
  | cons c s ih => rw [List.cons_append, startsBlank, startsBlank, ih]

/-- A line feed is moved nowhere: either it ends a line with something in it, or it is one. -/
theorem indentFrom_lineFeed (atStart : Bool) (t : List Char) :
    indentFrom atStart ('\n' :: t) = '\n' :: indentFrom true t := by
  cases atStart <;> rfl

theorem indentFrom_append_lineFeed (atStart : Bool) (s t : List Char) :
    indentFrom atStart (s ++ '\n' :: t) = indentFrom atStart s ++ '\n' :: indentFrom true t := by
  induction s generalizing atStart with
  | nil => exact indentFrom_lineFeed atStart t
  | cons c s ih =>
      rw [List.cons_append, indentFrom, indentFrom, ← List.cons_append,
        startsBlank_append_lineFeed, ih, List.append_assoc, List.cons_append]
      cases s with
      -- a carriage return ends no line any more, which makes no difference to what comes next
      | nil => rfl
      | cons d s => rfl

/-- **Two parts of a text**, the second of which starts with a line feed, are moved right on their
own. -/
theorem indent_append {s t : List Char} (ht : t = [] ∨ t.head? = some '\n') :
    indent (s ++ t) = indent s ++ indent t := by
  rcases ht with rfl | ht
  · rw [List.append_nil, show indent [] = [] from rfl, List.append_nil]
  · obtain ⟨t, rfl⟩ := List.head?_eq_some_iff.mp ht
    rw [indent_eq_indentFrom, indent_eq_indentFrom, indent_eq_indentFrom,
      indentFrom_append_lineFeed, indentFrom_lineFeed]

/-- **What is moved right can be moved back, and moved in parts.**  Each text has its lines by the rule
and in no other way.  The lines of a text that is moved right are its lines moved right, so that it is
found again when four characters are taken off those that are not blank.  A text can be moved right in
two parts if the second is empty or starts with a line feed, whatever the first ends in. -/
theorem indent_reversible :
    (∀ (s : List Char) (ls : List (List Char)), lines s = ls ↔ LinesOf s ls) ∧
      (∀ s : List Char, lines (indent s) = (lines s).map indentLine ∧ outdent (indent s) = s) ∧
      ∀ s t : List Char, t = [] ∨ t.head? = some '\n' → indent (s ++ t) = indent s ++ indent t :=
  ⟨fun _ _ => lines_eq_iff, fun s => ⟨lines_indent s, outdent_indent s⟩, fun _ _ => indent_append⟩

/-- The two parts of a break, and blank lines with breaks of other kinds around them. -/
theorem indent_reversible_carriageReturn :
    ("\n\u2028 \u0085y".toList = [] ∨ "\n\u2028 \u0085y".toList.head? = some '\n') ∧
      indent ("x\r".toList ++ "\n\u2028 \u0085y".toList) =
        indent "x\r".toList ++ indent "\n\u2028 \u0085y".toList ∧
      indent "x\r\n\u2028 \u0085y".toList = "    x\r\n\u2028 \u0085    y".toList ∧
      outdent "    x\r\n\u2028 \u0085    y".toList = "x\r\n\u2028 \u0085y".toList := by
  obtain ⟨-, hback, hparts⟩ := indent_reversible
  have hstarts : "\n\u2028 \u0085y".toList.head? = some '\n' := by decide
  have hmoved : indent "x\r\n\u2028 \u0085y".toList = "    x\r\n\u2028 \u0085    y".toList := by
    decide
  refine ⟨.inr hstarts, hparts _ _ (.inr hstarts), hmoved, ?_⟩
  obtain ⟨-, hout⟩ := hback "x\r\n\u2028 \u0085y".toList
  rw [hmoved] at hout
  exact hout

end FolderSieve.Text
