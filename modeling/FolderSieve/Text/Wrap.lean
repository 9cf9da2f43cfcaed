import FolderSieve.Text.Blank
import FolderSieve.Text.ControlSequence
import FolderSieve.Text.Letter

/-!
# Text — filling lines

`fill` breaks a text into lines of a given width.  A line ends at white space, which is dropped
there, around a dash, or after a hyphen between letters; a word that is too long for any line is
cut.  Control sequences take up no room.
-/

namespace FolderSieve.Text

/-- The white space a line may end at. -/
def isGap (c : Char) : Bool :=
  c == ' ' || c == '\t' || c == '\n' || c == '\r' || c == '\x0b' || c == '\x0c'

/-- A character that a dash may follow: one of a word, or a mark that ends one. -/
def endsPhrase (c : Char) : Bool :=
  isWordChar c || "!\"'&.,?".toList.contains c

/-- Two letters, perhaps with a hyphen between them. -/
def startsLetters : List Char → Bool
  | a :: b :: s => isLetter a && (isLetter b || b == '-' && (s.head?.map isLetter).getD false)
  | _ => false

/-- A line may end after a hyphen between `before`, nearest character first, and `after`: letters
stand on both sides. -/
def isHyphenation (before after : List Char) : Bool :=
  startsLetters before && startsLetters after

/-- A dash, written as two hyphens or more, starts here: it stands between `before`, nearest
character first, and a word. -/
def startsDash (before after : List Char) : Bool :=
  (before.head?.map endsPhrase).getD false && "--".toList.isPrefixOf after &&
    ((after.dropWhile (· == '-')).head?.map isWordChar).getD false

/-- A word cut around its dashes and after its hyphens; `piece` and `before` are what has been read
of the piece and of the word, backwards. -/
def wordPieces (piece before : List Char) : List Char → List (List Char)
  | [] => if piece.isEmpty then [] else [piece.reverse]
  | c :: s =>
      if piece.isEmpty then wordPieces [c] (c :: before) s
      else if piece.all (· == '-') && startsDash (before.drop piece.length) (piece.reverse ++ c :: s)
          then
        if c = '-' then wordPieces (c :: piece) (c :: before) s
        else piece.reverse :: wordPieces [c] (c :: before) s
      else if startsDash before (c :: s) then piece.reverse :: wordPieces [c] (c :: before) s
      else if c = '-' && isHyphenation before s then
        (c :: piece).reverse :: wordPieces [] (c :: before) s
      else wordPieces (c :: piece) (c :: before) s

/-- Runs of white space and the words between them, in order. -/
def runsAndWords (s : List Char) : List (List Char) :=
  s.splitBy fun a b => isGap a == isGap b

/-- The pieces of a text between which a line may end. -/
def pieces (s : List Char) : List (List Char) :=
  (runsAndWords s).flatMap fun w =>
    if w.all isGap then [w] else wordPieces [] [] w

/-- The lines with the line so far, without the white space it ends in, unless that leaves
nothing. -/
def endLine (lines line : List (List Char)) : List (List Char) :=
  let line :=
    match line with
    | w :: ws => if allBlank w then ws else w :: ws
    | [] => []
  if line.isEmpty then lines else lines ++ [line.reverse.flatten]

/-- The room that pieces take up. -/
def visibleSize : List (List Char) → Nat
  | [] => 0
  | w :: ws => visibleLength w + visibleSize ws

/-- The characters of pieces, with one more for each piece. -/
def pieceSize : List (List Char) → Nat
  | [] => 0
  | w :: ws => w.length + 1 + pieceSize ws

theorem pieceSize_lt (w : List Char) (ws : List (List Char)) :
    pieceSize ws < pieceSize (w :: ws) := by
  simp only [pieceSize]; omega

/-- Cutting characters off a piece makes pieces smaller. -/
theorem pieceSize_cut_lt {w : List Char} (ws : List (List Char)) {room : Nat} (hr : 0 < room)
    (hw : w ≠ []) : pieceSize ((cutVisible room w).2 :: ws) < pieceSize (w :: ws) := by
  have := length_snd_cutVisible_lt hr hw
  simp only [pieceSize]; omega

theorem ne_nil_of_not_visibleLength_le {w : List Char} {width : Nat}
    (h : ¬ visibleLength w ≤ width) : w ≠ [] := by
  rintro rfl
  exact h (Nat.zero_le _)

/-- Puts pieces into lines.  `line` holds the pieces of the line so far, the last one first, and
`fresh` says that none has been tried on it: white space that would start a line, other than the
first, is left out.  A word that no line has room for fills the line it starts on. -/
def fillLines (width : Nat) (lines line : List (List Char)) (fresh : Bool) :
    List (List Char) → List (List Char)
  | [] => endLine lines line
  | w :: ws =>
      let used := visibleSize line
      if fresh && !lines.isEmpty && allBlank w then fillLines width lines line false ws
      else if used + visibleLength w ≤ width then fillLines width lines (w :: line) false ws
      else if _hw : visibleLength w ≤ width then
        if _hl : line.isEmpty then fillLines width (lines ++ [w]) [] true ws
        else fillLines width (endLine lines line) [] true (w :: ws)
      else
        let cut := cutVisible (Nat.max (width - used) 1) w
        fillLines width (endLine lines (cut.1 :: line)) [] true (cut.2 :: ws)
termination_by pieces => (pieceSize pieces, line.length)
decreasing_by
  · exact Prod.Lex.left _ _ (pieceSize_lt w ws)
  · exact Prod.Lex.left _ _ (pieceSize_lt w ws)
  · exact Prod.Lex.left _ _ (pieceSize_lt w ws)
  · apply Prod.Lex.right
    cases line with
    | nil => exact absurd rfl _hl
    | cons => exact Nat.succ_pos _
  · exact Prod.Lex.left _ _
      (pieceSize_cut_lt ws (Nat.le_max_right _ _) (ne_nil_of_not_visibleLength_le _hw))

/-- The lines of a text, each of at most `width` characters that are shown. -/
def fill (width : Nat) (s : List Char) : List (List Char) :=
  fillLines width [] [] true (pieces s)

end FolderSieve.Text
