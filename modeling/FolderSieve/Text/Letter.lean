import FolderSieve.Text.LetterTable

/-!
# Text — letters and digits

The characters of words.  The low line counts as a letter.
-/

namespace FolderSieve.Text

/-- A decimal digit. -/
def isDecimal (c : Char) : Bool :=
  c.isDigit || decimalDigits.has c.toNat

/-- A character of a word that is no decimal digit. -/
def isLetter (c : Char) : Bool :=
  c.isAlpha || c == '_' || letters.has c.toNat

/-- A letter or a digit. -/
def isWordChar (c : Char) : Bool :=
  isLetter c || isDecimal c

end FolderSieve.Text
