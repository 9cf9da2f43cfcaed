import Mathlib.Data.List.Basic
import FolderSieve.Program.Run

/-!
# Text — what is printed

A control sequence ends before a line feed, or it is none.  So a text that is printed may be cut before
a line feed, and a text with neither escapes nor carriage returns is printed as it is.

* `Text.dropSequences_append_lineFeed`: control sequences in two parts.
* `LineFeedsOnly`, `Program.Run.plainText_of_lineFeedsOnly`, `Program.Run.plainText_append`: what is
  printed of a text.
-/

namespace FolderSieve.Text

/-! ### Control sequences -/

theorem sequenceLength_of_ne {c : Char} (hc : c ≠ '\x1b') (s : List Char) :
    sequenceLength (c :: s) = 0 := by
  unfold sequenceLength
  split
  · simp_all
  · rfl

theorem dropSequencesAfter_cons_of_ne {c : Char} (hc : c ≠ '\x1b') (s : List Char) :
    dropSequencesAfter 0 (c :: s) = c :: dropSequencesAfter 0 s := by
  rw [dropSequencesAfter, sequenceLength_of_ne hc]

theorem sequenceLength_singleton (c : Char) : sequenceLength [c] = 0 := by
  unfold sequenceLength
  split
  · simp_all
  · rfl

/-- What runs up to a line feed ends there. -/
theorem dropWhile_append_lineFeed {p : Char → Bool} (hp : p '\n' = false) (s t : List Char) :
    (s ++ '\n' :: t).dropWhile p = s.dropWhile p ++ '\n' :: t := by
  induction s with
  | nil => simp [hp]
  | cons c s ih => by_cases hc : p c = true <;> simp [hc, ih]

/-- What is behind the parameters and intermediates of a control sequence. -/
theorem sequenceLength_cons_cons (c c' : Char) (s : List Char) :
    sequenceLength (c :: c' :: s) =
      let body := (s.dropWhile isParameter).dropWhile isIntermediate
      if c = '\x1b' ∧ c' = '[' ∧ (body.head?.map isFinal).getD false then s.length - body.length + 3
      else 0 := by
  by_cases hc : c = '\x1b'
  · by_cases hc' : c' = '['
    · subst hc hc'
      simp [sequenceLength]
    · subst hc
      unfold sequenceLength
      split
      · simp_all
      · simp [hc']
  · rw [sequenceLength_of_ne hc]
    simp [hc]

/-- A control sequence does not reach over a line feed. -/
theorem sequenceLength_append_lineFeed {s : List Char} (hs : s ≠ []) (t : List Char) :
    sequenceLength (s ++ '\n' :: t) = sequenceLength s := by
  match s with
  | [c] =>
      rw [List.singleton_append, sequenceLength_cons_cons, sequenceLength_singleton]
      exact if_neg (by simp)
  | c :: c' :: s =>
      have hbody : ((s ++ '\n' :: t).dropWhile isParameter).dropWhile isIntermediate =
          (s.dropWhile isParameter).dropWhile isIntermediate ++ '\n' :: t := by
        rw [dropWhile_append_lineFeed (by decide), dropWhile_append_lineFeed (by decide)]
      rw [List.cons_append, List.cons_append, sequenceLength_cons_cons, sequenceLength_cons_cons,
        hbody]
      generalize (s.dropWhile isParameter).dropWhile isIntermediate = body
      cases body with
      -- the line feed comes next, and no control sequence ends with it
      | nil => simp [isFinal]
      | cons b body =>
          have hlen : (s ++ '\n' :: t).length - ((b :: body) ++ '\n' :: t).length =
              s.length - (b :: body).length := by
            simp only [List.length_append]
            omega
          dsimp only
          rw [hlen]
          rfl

theorem sequenceLength_le (s : List Char) : sequenceLength s ≤ s.length := by
  match s with
  | [] => exact Nat.le_refl _
  | [c] =>
      rw [sequenceLength_singleton]
      exact Nat.zero_le _
  | c :: c' :: s =>
      rw [sequenceLength_cons_cons]
      generalize hbody : (s.dropWhile isParameter).dropWhile isIntermediate = body
      have hlen : body.length ≤ s.length := by
        rw [← hbody]
        exact ((List.dropWhile_sublist _).trans (List.dropWhile_sublist _)).length_le
      cases body with
      | nil => simp
      | cons b body =>
          simp only [List.length_cons] at hlen ⊢
          split <;> omega

theorem dropSequencesAfter_append_lineFeed (skip : Nat) (s t : List Char) (h : skip ≤ s.length) :
    dropSequencesAfter skip (s ++ '\n' :: t) =
      dropSequencesAfter skip s ++ '\n' :: dropSequencesAfter 0 t := by
  induction s generalizing skip with
  | nil =>
      obtain rfl : skip = 0 := Nat.le_zero.mp h
      rw [List.nil_append, dropSequencesAfter_cons_of_ne (by decide)]
      rfl
  | cons c s ih =>
      cases skip with
      | succ skip => exact ih skip (Nat.le_of_succ_le_succ h)
      | zero =>
          have hle := sequenceLength_le (c :: s)
          have hsame := sequenceLength_append_lineFeed (List.cons_ne_nil c s) t
          rw [List.cons_append] at hsame ⊢
          rw [dropSequencesAfter, dropSequencesAfter, hsame]
          cases hn : sequenceLength (c :: s) with
          | zero => simp [ih 0 (Nat.zero_le _)]
          | succ n =>
              rw [hn] at hle
              exact ih n (Nat.le_of_succ_le_succ hle)

/-- **Control sequences** of a text are those before a line feed and those behind it. -/
theorem dropSequences_append_lineFeed (s t : List Char) :
    dropSequences (s ++ '\n' :: t) = dropSequences s ++ '\n' :: dropSequences t :=
  dropSequencesAfter_append_lineFeed 0 s t (Nat.zero_le _)

theorem dropSequences_of_not_mem {s : List Char} (h : '\x1b' ∉ s) : dropSequences s = s := by
  unfold dropSequences
  induction s with
  | nil => rfl
  | cons c s ih =>
      have hc : c ≠ '\x1b' := fun hc => h (hc ▸ List.mem_cons_self)
      rw [dropSequencesAfter_cons_of_ne hc, ih fun hs => h (List.mem_cons_of_mem c hs)]

theorem mem_of_mem_dropSequencesAfter {skip : Nat} {s : List Char} {c : Char}
    (h : c ∈ dropSequencesAfter skip s) : c ∈ s := by
  fun_induction dropSequencesAfter skip s with
  | case1 => exact h
  | case2 skip b s ih => exact List.mem_cons_of_mem b (ih h)
  | case3 b s _ ih =>
      rcases List.mem_cons.mp h with rfl | h
      · exact List.mem_cons_self
      · exact List.mem_cons_of_mem b (ih h)
  | case4 b s n _ ih => exact List.mem_cons_of_mem b (ih h)

/-! ### Carriage returns -/

theorem unifyPairs_of_not_mem {s : List Char} (h : '\r' ∉ s) : unifyPairs s = s := by
  fun_induction unifyPairs s with
  | case1 => rfl
  | case2 s => exact absurd List.mem_cons_self h
  | case3 c s _ ih => rw [ih fun hs => h (List.mem_cons_of_mem c hs)]

theorem not_mem_unifyBreaks (s : List Char) : '\r' ∉ unifyBreaks s := by
  fun_induction unifyBreaks s with
  | case1 => exact List.not_mem_nil
  | case2 s ih => simp [ih]
  | case3 c s _ ih =>
      by_cases hc : c = '\r'
      · simp [hc, ih]
      · simp [hc, ih, Ne.symm hc]

end FolderSieve.Text

namespace FolderSieve

/-- A text without control characters but line feeds. -/
def LineFeedsOnly (s : String) : Prop :=
  ∀ c ∈ s.toList, Text.isControl c = true → c = '\n'

namespace LineFeedsOnly

variable {s t : String}

theorem append (hs : LineFeedsOnly s) (ht : LineFeedsOnly t) : LineFeedsOnly (s ++ t) := by
  intro c hc
  rw [String.toList_append] at hc
  rcases List.mem_append.mp hc with hc | hc
  · exact hs c hc
  · exact ht c hc

theorem not_mem (h : LineFeedsOnly s) {c : Char} (hc : Text.isControl c = true) (hn : c ≠ '\n') :
    c ∉ s.toList :=
  fun hm => hn (h c hm hc)

theorem of_hasControl (h : Text.hasControl s = false) : LineFeedsOnly s := by
  intro c hc hp
  exact absurd hp (List.any_eq_false.mp h c hc)

theorem of_all (h : (s.toList.all fun c => !Text.isControl c || c == '\n') = true) :
    LineFeedsOnly s := by
  intro c hc hp
  have hall := List.all_eq_true.mp h c hc
  rw [hp] at hall
  simpa using hall

theorem join {l : List String} (h : ∀ s ∈ l, LineFeedsOnly s) : LineFeedsOnly (String.join l) := by
  induction l with
  | nil => exact of_hasControl (by decide)
  | cons s l ih =>
      obtain ⟨hs, hl⟩ := List.forall_mem_cons.mp h
      rw [String.join_cons]
      exact hs.append (ih hl)

end LineFeedsOnly

namespace Program.Run

open Text

@[simp] theorem plain_exitCode (r : Run) : r.plain.exitCode = r.exitCode := rfl

@[simp] theorem plain_workspace (r : Run) : r.plain.workspace = r.workspace := rfl

@[simp] theorem plain_crash (r : Run) : r.plain.crash = r.crash := rfl

theorem plain_stdout (r : Run) : r.plain.stdout = plainText r.stdout := rfl

theorem plain_stderr (r : Run) : r.plain.stderr = plainText r.stderr := rfl

/-- A text with neither escapes nor carriage returns is printed as it is. -/
theorem plainText_of_not_mem {s : String} (he : '\x1b' ∉ s.toList) (hr : '\r' ∉ s.toList) :
    plainText s = s := by
  rw [plainText, dropSequences_of_not_mem he, unifyPairs_of_not_mem hr, String.ofList_toList]

/-- **A text without control characters** but line feeds is printed as it is. -/
theorem plainText_of_lineFeedsOnly {s : String} (h : LineFeedsOnly s) : plainText s = s :=
  plainText_of_not_mem (h.not_mem (by decide) (by decide)) (h.not_mem (by decide) (by decide))

/-- **What is printed** of a text without carriage returns, with such a text behind a line feed. -/
theorem plainText_append {s t : String} (hs : '\r' ∉ s.toList) {rest : List Char}
    (ht : t.toList = '\n' :: rest) (h : LineFeedsOnly t) :
    plainText (s ++ t) = plainText s ++ t := by
  have he : '\x1b' ∉ t.toList := h.not_mem (by decide) (by decide)
  have hr : '\r' ∉ t.toList := h.not_mem (by decide) (by decide)
  rw [ht] at he hr
  have hpairs : '\r' ∉ dropSequences s.toList := fun h => hs (mem_of_mem_dropSequencesAfter h)
  have hrest : dropSequences rest = rest :=
    dropSequences_of_not_mem fun h => he (List.mem_cons_of_mem _ h)
  have hboth : '\r' ∉ dropSequences s.toList ++ '\n' :: rest := by
    simp only [List.mem_append, not_or]
    exact ⟨hpairs, hr⟩
  apply String.toList_injective
  rw [String.toList_append, plainText, plainText, String.toList_ofList, String.toList_ofList,
    String.toList_append, ht, dropSequences_append_lineFeed, hrest, unifyPairs_of_not_mem hboth,
    unifyPairs_of_not_mem hpairs]

end Program.Run

end FolderSieve
