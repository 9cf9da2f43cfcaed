/-!
# Text — control characters

U+0000 to U+001F and U+007F.  No name or pattern of a configuration may hold one, since a script
writes its strings as they are.
-/

namespace FolderSieve.Text

/-- A control character. -/
def isControl (c : Char) : Bool :=
  c.toNat < 0x20 || c.toNat == 0x7F

/-- Some character of the text is a control character. -/
def hasControl (s : String) : Bool :=
  s.toList.any isControl

end FolderSieve.Text
