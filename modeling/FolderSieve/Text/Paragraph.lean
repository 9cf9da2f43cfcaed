import FolderSieve.Text.Line
import FolderSieve.Text.Wrap

/-!
# Text — paragraphs

The paragraphs of a text are its runs of lines that are not empty.  `wrap` lays a text out in lines
of a given width: the lines of a paragraph are run together and filled anew, as far to the right as
its first line begins.  Where the first line is a backspace it is left out, and the others keep
their breaks.  An empty line stands between paragraphs.
-/

namespace FolderSieve.Text

/-- The columns between tab stops. -/
def tabWidth : Nat :=
  8

/-- Spaces in the place of tabs, in a text that begins at `column`. -/
def expandTabsFrom (column : Nat) : List Char → List Char
  | [] => []
  | c :: s =>
      if c = '\t' then
        let gap := tabWidth - column % tabWidth
        List.replicate gap ' ' ++ expandTabsFrom (column + gap) s
      else c :: expandTabsFrom (if c = '\n' ∨ c = '\r' then 0 else column + 1) s

/-- Spaces in the place of tabs. -/
def expandTabs (s : List Char) : List Char :=
  expandTabsFrom 0 s

/-- Texts with `mark` between them. -/
def joinWith (mark : List Char) (texts : List (List Char)) : List Char :=
  (texts.intersperse mark).flatten

/-- The runs of lines that are not empty. -/
def paragraphs (rows : List (List Char)) : List (List (List Char)) :=
  (rows.splitBy fun a b => a.isEmpty == b.isEmpty).filter fun p => p.all fun row => !row.isEmpty

/-- The paragraph that begins with `first`, laid out in lines. -/
def wrapParagraph (width : Nat) (first : List Char) (rest : List (List Char)) :
    List (List Char) :=
  let start := first.dropWhile isBlank
  let indent := visibleLength first - visibleLength start
  let rows :=
    if trim start = ['\x08'] then rest
    else fill (width - indent) (joinWith [' '] (start :: rest))
  rows.map (List.replicate indent ' ' ++ ·)

/-- A text laid out in lines. -/
def wrap (width : Nat) (s : List Char) : List (List Char) :=
  let blocks := (paragraphs (rows (expandTabs s))).filterMap fun
    | [] => none
    | first :: rest => some (joinWith ['\n'] (wrapParagraph width first rest))
  rows (joinWith ['\n', '\n'] blocks)

end FolderSieve.Text
