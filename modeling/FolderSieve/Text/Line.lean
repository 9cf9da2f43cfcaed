import FolderSieve.Text.Blank

/-!
# Text — lines

`lines` cuts a text after each line break and keeps the breaks, so that the pieces put together
are the text (`flatten_lines`); `rows` leaves them out.  `indent` puts four spaces before each line
that is not blank.  `unifyBreaks` writes each carriage return, with the line feed after it if there
is one, as a line feed; `unifyPairs` does so only where there is one.  `split` cuts at a separator
and drops it.
-/

namespace FolderSieve.Text

/-- A character that ends a line. -/
def isBreak (c : Char) : Bool :=
  c == '\n' || c == '\r' || c == '\x0b' || c == '\x0c' || c == '\x1c' || c == '\x1d' ||
    c == '\x1e' || c == '\u0085' || c == '\u2028' || c == '\u2029'

/-- Puts a character before the first piece. -/
def consFirst (c : Char) : List (List Char) → List (List Char)
  | [] => [[c]]
  | l :: ls => (c :: l) :: ls

/-- The lines of a text, each with its break; a carriage return and a line feed are one break. -/
def lines : List Char → List (List Char)
  | [] => []
  | '\r' :: '\n' :: s => ['\r', '\n'] :: lines s
  | c :: s => if isBreak c then [c] :: lines s else consFirst c (lines s)

/-- The lines of a text without their breaks. -/
def rows (s : List Char) : List (List Char) :=
  (lines s).map fun l => l.takeWhile fun c => !isBreak c

/-- The four spaces before an indented line. -/
def indentation : List Char :=
  [' ', ' ', ' ', ' ']

/-- A blank line stays as it is; any other moves right by the indentation. -/
def indentLine (l : List Char) : List Char :=
  if allBlank l then l else indentation ++ l

/-- Moves every line right that is not blank. -/
def indent (s : List Char) : List Char :=
  (lines s).flatMap indentLine

/-- Every line break that a carriage return starts becomes a line feed. -/
def unifyBreaks : List Char → List Char
  | [] => []
  | '\r' :: '\n' :: s => '\n' :: unifyBreaks s
  | c :: s => (if c = '\r' then '\n' else c) :: unifyBreaks s

/-- A carriage return with a line feed after it becomes a line feed. -/
def unifyPairs : List Char → List Char
  | [] => []
  | '\r' :: '\n' :: s => '\n' :: unifyPairs s
  | c :: s => c :: unifyPairs s

/-- The pieces between the separators; there is one more of them than separators. -/
def split (sep : Char) : List Char → List (List Char)
  | [] => [[]]
  | c :: s => if c = sep then [] :: split sep s else consFirst c (split sep s)

@[simp] theorem flatten_consFirst (c : Char) (ls : List (List Char)) :
    (consFirst c ls).flatten = c :: ls.flatten := by
  cases ls <;> rfl

/-- The lines of a text are the text. -/
theorem flatten_lines (s : List Char) : (lines s).flatten = s := by
  fun_induction lines s with
  | case1 => rfl
  | case2 s ih => simp [ih]
  | case3 c s _ _ ih => simp [ih]
  | case4 c s _ _ ih => simp [ih]

end FolderSieve.Text
