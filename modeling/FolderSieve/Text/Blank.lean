import FolderSieve.Text.CodeSet

/-!
# Text — white space

`isBlank` is Unicode's white space together with the four separators U+001C to U+001F.  A text is
blank if all of it is; `trim` takes the white space off both ends.
-/

namespace FolderSieve.Text

/-- The white space characters. -/
def blanks : CodeSet :=
  [(0x09, 0x0D), (0x1C, 0x20), (0x85, 0x85), (0xA0, 0xA0), (0x1680, 0x1680), (0x2000, 0x200A),
    (0x2028, 0x2029), (0x202F, 0x202F), (0x205F, 0x205F), (0x3000, 0x3000)]

/-- White space. -/
def isBlank (c : Char) : Bool :=
  blanks.has c.toNat

/-- White space only; the empty text is blank. -/
def allBlank (s : List Char) : Bool :=
  s.all isBlank

/-- The text without the white space it ends in. -/
def trimEnd (s : List Char) : List Char :=
  (s.reverse.dropWhile isBlank).reverse

/-- The text without the white space it starts and ends in. -/
def trim (s : List Char) : List Char :=
  trimEnd (s.dropWhile isBlank)

/-- Each run of white space becomes one `c`. -/
def collapseBlanks (c : Char) : List Char → List Char
  | [] => []
  | [a] => if isBlank a then [c] else [a]
  | a :: b :: s =>
      if isBlank a then
        if isBlank b then collapseBlanks c (b :: s) else c :: collapseBlanks c (b :: s)
      else a :: collapseBlanks c (b :: s)

end FolderSieve.Text
