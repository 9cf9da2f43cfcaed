import FolderSieve.Text.LowercaseTable

/-!
# Text — lower case

Unicode's full lower-case mapping.  Every character has its own image, with two exceptions: a
capital I with a dot becomes two characters, and a capital sigma at the end of a word becomes the
final form.
-/

namespace FolderSieve.Text

/-- The lower-case form of a code point that has one other as its image; itself if not. -/
def lowerCode (n : Nat) : Nat :=
  (lowerRuns.findSome? (·.imageOf? n)).getD n

/-- The lower-case form of a character, taken on its own. -/
def lowerChar (c : Char) : Char :=
  Char.ofNat (lowerCode c.toNat)

/-- The nearest character that counts is a letter with case. -/
def meetsCased (s : List Char) : Bool :=
  ((s.dropWhile fun c => caseIgnorable.has c.toNat).head?.map fun c => cased.has c.toNat).getD
    false

/-- A sigma stands at the end of a word: a letter with case comes before it, and none after. -/
def endsWord (before after : List Char) : Bool :=
  meetsCased before && !meetsCased after

/-- The lower-case form of `c` between the text before it, nearest character first, and the text
after it. -/
def lowerAt (before : List Char) (c : Char) (after : List Char) : List Char :=
  if c = '\u0130' then ['i', '\u0307']
  else if c = '\u03A3' then [if endsWord before after then '\u03C2' else '\u03C3']
  else [lowerChar c]

/-- Lower case of the rest of a text, after what comes before it, nearest character first. -/
def lowerAfter (before : List Char) : List Char → List Char
  | [] => []
  | c :: s => lowerAt before c s ++ lowerAfter (c :: before) s

/-- The text in lower case. -/
def lower (s : List Char) : List Char :=
  lowerAfter [] s

end FolderSieve.Text
