import FolderSieve.Sieve.Command
import FolderSieve.Sieve.Quoted
import FolderSieve.Text.Line

/-!
# Sieve — the text of a script

Actions and branches that open a chain, or that have a heading, start a new line; the other
branches follow the brace before them.  The text of a block is moved right as a whole, line by
line, so that a line break inside a quoted string counts as the end of a line too.
-/

namespace FolderSieve.Sieve

/-- The headers a keyword is looked for in. -/
def labelHeaders : List String :=
  ["from", "subject"]

namespace Test

def text : Test → List Char
  | .headerContains keywords =>
      "header :contains ".toList ++ stringList labelHeaders ++ ' ' :: stringList keywords
  | .localpartMatches patterns =>
      "envelope :localpart :matches \"to\" ".toList ++ stringList patterns
  | .domainIs domain => "envelope :domain :is \"to\" ".toList ++ quote domain

end Test

namespace Opening

def keyword : Opening → List Char
  | .first => "if".toList
  | .next => "elsif".toList

/-- What stands between the text so far and the keyword. -/
def lead : Opening → Option String → List Char
  | _, some heading => "\n# ".toList ++ heading.toList ++ ['\n']
  | .first, none => ['\n']
  | .next, none => [' ']

end Opening

/-- A block: its text moved right, between braces. -/
def block (text : List Char) : List Char :=
  " \x7b".toList ++ Text.indent text ++ "\n\x7d".toList

mutual

/-- The text of one command. -/
def Command.text : Command → List Char
  | .fileInto folder => "\nfileinto ".toList ++ quote folder ++ [';']
  | .addFlag flag => "\naddflag ".toList ++ quote flag ++ [';']
  | .branch opening heading test body =>
      opening.lead heading ++ opening.keyword ++ ' ' :: test.text ++ block (commandsText body)
  | .otherwise body => " else".toList ++ block (commandsText body)

/-- The text of commands, one after the other. -/
def commandsText : List Command → List Char
  | [] => []
  | c :: cs => c.text ++ commandsText cs

end

/-- The script that commands make up. -/
def script (cs : List Command) : String :=
  String.ofList (commandsText cs)

@[simp] theorem commandsText_append (cs ds : List Command) :
    commandsText (cs ++ ds) = commandsText cs ++ commandsText ds := by
  induction cs with
  | nil => rfl
  | cons c cs ih => simp [commandsText, ih]

end FolderSieve.Sieve
