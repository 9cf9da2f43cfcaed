/-!
# Sieve — quoted strings and string lists

A quoted string stands between quotation marks, with a backslash before each quotation mark and
each backslash in it; every other character is written as it is.
-/

namespace FolderSieve.Sieve

/-- Puts a backslash before each quotation mark and each backslash. -/
def escape : List Char → List Char
  | [] => []
  | c :: s => if c = '"' || c = '\\' then '\\' :: c :: escape s else c :: escape s

/-- A quoted string. -/
def quote (s : String) : List Char :=
  '"' :: escape s.toList ++ ['"']

/-- Quoted strings with commas between them. -/
def quotedItems : List String → List Char
  | [] => []
  | [s] => quote s
  | s :: t :: ss => quote s ++ ',' :: quotedItems (t :: ss)

/-- A string list. -/
def stringList (ss : List String) : List Char :=
  '[' :: quotedItems ss ++ [']']

end FolderSieve.Sieve
