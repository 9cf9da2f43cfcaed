/-!
# Text — control sequences

A control sequence is an order to a terminal and not a text to be shown: an escape and an opening
bracket, parameters, intermediates, and one final character.  A sequence that is not complete is
shown as it is.

`dropSequences` takes the sequences out of a text.  `visibleLength` counts what is left, and
`cutVisible` cuts a text after so many characters that are shown.
-/

namespace FolderSieve.Text

/-- A parameter of a control sequence. -/
def isParameter (c : Char) : Bool :=
  '0' ≤ c && c ≤ '?'

/-- A character between the parameters of a control sequence and its end. -/
def isIntermediate (c : Char) : Bool :=
  ' ' ≤ c && c ≤ '/'

/-- A character that ends a control sequence. -/
def isFinal (c : Char) : Bool :=
  '@' ≤ c && c ≤ '~'

/-- How long the control sequence is that a text starts with; zero if it starts with none. -/
def sequenceLength : List Char → Nat
  | '\x1b' :: '[' :: s =>
      let body := (s.dropWhile isParameter).dropWhile isIntermediate
      if (body.head?.map isFinal).getD false then s.length - body.length + 3 else 0
  | _ => 0

/-- The text without control sequences, after `skip` characters of one. -/
def dropSequencesAfter : (skip : Nat) → List Char → List Char
  | _, [] => []
  | skip + 1, _ :: s => dropSequencesAfter skip s
  | 0, c :: s =>
      match sequenceLength (c :: s) with
      | 0 => c :: dropSequencesAfter 0 s
      | n + 1 => dropSequencesAfter n s

/-- The text without control sequences. -/
def dropSequences (s : List Char) : List Char :=
  dropSequencesAfter 0 s

/-- How many characters of a text are shown. -/
def visibleLength (s : List Char) : Nat :=
  (dropSequences s).length

/-- The text up to `room` characters that are shown, and what comes after them; the first `skip`
characters are not counted. -/
def cutVisibleAfter : (skip room : Nat) → List Char → List Char × List Char
  | _, _, [] => ([], [])
  | skip + 1, room, c :: s => (cutVisibleAfter skip room s).map (c :: ·) id
  | 0, 0, s => ([], s)
  | 0, room + 1, c :: s =>
      match sequenceLength (c :: s) with
      | 0 => (cutVisibleAfter 0 room s).map (c :: ·) id
      | n + 1 => (cutVisibleAfter n (room + 1) s).map (c :: ·) id

/-- The text up to `room` characters that are shown, and what comes after them; a text that has no
more of them is not cut. -/
def cutVisible (room : Nat) (s : List Char) : List Char × List Char :=
  if visibleLength s ≤ room then (s, []) else cutVisibleAfter 0 room s

@[simp] theorem visibleLength_nil : visibleLength [] = 0 := rfl

theorem length_snd_cutVisibleAfter_le (skip room : Nat) (s : List Char) :
    (cutVisibleAfter skip room s).2.length ≤ s.length := by
  fun_induction cutVisibleAfter skip room s with
  | case1 => exact Nat.le_refl _
  | case2 skip room c s ih => exact Nat.le_succ_of_le ih
  | case3 => exact Nat.le_refl _
  | case4 room c s _ ih => exact Nat.le_succ_of_le ih
  | case5 room c s n _ ih => exact Nat.le_succ_of_le ih

/-- With room for a character a cut takes something off. -/
theorem length_snd_cutVisible_lt {room : Nat} {s : List Char} (hr : 0 < room) (hs : s ≠ []) :
    (cutVisible room s).2.length < s.length := by
  obtain ⟨c, s, rfl⟩ := List.exists_cons_of_ne_nil hs
  obtain ⟨room, rfl⟩ := Nat.exists_eq_succ_of_ne_zero (Nat.ne_of_gt hr)
  simp only [cutVisible, cutVisibleAfter]
  split
  · exact Nat.succ_pos _
  split
  · exact Nat.lt_succ_of_le (length_snd_cutVisibleAfter_le 0 room s)
  · exact Nat.lt_succ_of_le (length_snd_cutVisibleAfter_le _ (room + 1) s)

end FolderSieve.Text
