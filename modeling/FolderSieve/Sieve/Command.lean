/-!
# Sieve — commands

The part of the language that mail filters are written in: two actions, and the three commands of
an `if`/`elsif`/`else` chain, each with its block.  As in the language itself a chain is a row of
commands, so that two rows put together can be one chain.
-/

namespace FolderSieve.Sieve

/-- What a message is asked. -/
inductive Test where
  /-- The sender or the subject contains one of the keywords. -/
  | headerContains (keywords : List String)
  /-- The part of the recipient before the at sign matches one of the patterns. -/
  | localpartMatches (patterns : List String)
  /-- The part of the recipient after the at sign is the given one. -/
  | domainIs (domain : String)
  deriving DecidableEq, Repr

/-- The first branch of a chain, or one that is tried when those before it fail. -/
inductive Opening where
  | first
  | next
  deriving DecidableEq, Repr

/-- A command; a branch may have a comment line above it. -/
inductive Command where
  | fileInto (folder : String)
  | addFlag (flag : String)
  | branch (opening : Opening) (heading : Option String) (test : Test) (body : List Command)
  | otherwise (body : List Command)

/-- The flag of a message that has been read. -/
def seenFlag : String :=
  "\\Seen"

end FolderSieve.Sieve
