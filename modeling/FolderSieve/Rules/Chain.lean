import FolderSieve.Folder
import FolderSieve.Rules.RuleSet
import FolderSieve.Sieve.Printer

/-!
# Rules — rule sets as chains of branches

A rule becomes a branch on its localparts.  Its block first does what the labels and the silence
of the rule ask for, then files the message into every folder from the top one down to its own.

A silent rule marks a message as read only if none of its labels applies.  With one label this is
the `else` of the label's branch; since an `else` belongs to one branch only, several labels stand
together in a branch on all their keywords.
-/

namespace FolderSieve

open Sieve (Command)

namespace Rule

/-- Marks a message as read, and shows it in the folder for such mail unless it is nobody's. -/
def markAsRead (path : String) : List Command :=
  .addFlag Sieve.seenFlag :: if Folder.isUnknown path then [] else [.fileInto Folder.unread]

/-- Files a message under a label if a header holds one of its keywords. -/
def labelBranch (label : String × List String) : Command :=
  .branch .first none (.headerContains label.2) [.fileInto label.1]

/-- The keywords of all labels, in ascending order and each once. -/
def allKeywords (labels : RuleLabels) : List String :=
  sortBy (fun a b => a ≤ b) (labels.flatMap (·.2)).eraseDups

/-- Files a message under its labels, and runs `otherwise` if it has none. -/
def labelsOrElse (labels : RuleLabels) (otherwise : List Command) : List Command :=
  match labels with
  | [] => otherwise
  | [label] => [labelBranch label, .otherwise otherwise]
  | _ =>
      [.branch .first none (.headerContains (allKeywords labels)) (labels.map labelBranch),
        .otherwise otherwise]

/-- What the labels and the silence of a rule for the folder at `path` ask for. -/
def labelCommands (path : String) (r : Rule) : List Command :=
  let labels := r.labels.getD []
  if r.options.silent then labelsOrElse labels (markAsRead path) else labels.map labelBranch

/-- Files a message into each folder on the way to `path`, all of them below `home`. -/
def filing (home path : String) : List Command :=
  (Folder.chain path).map fun folder => .fileInto (home ++ folder)

/-- The block of a rule for the folder at `path`. -/
def commands (home path : String) (r : Rule) : List Command :=
  r.labelCommands path ++ filing home path

end Rule

namespace RuleSet

/-- The branch of a rule; the first branch of the set has the set's name above it. -/
def branch (r : RuleSet) (opening : Sieve.Opening) (first : Bool) (e : String × Rule) : Command :=
  .branch opening (if first then some (r.name ++ " filters") else none)
    (.localpartMatches e.2.localparts) (e.2.commands r.home e.1)

/-- The branches of the set, the first of which opens a chain or goes on with one. -/
def branches (r : RuleSet) (opening : Sieve.Opening) : List Command :=
  match r.ordered with
  | [] => []
  | e :: es => r.branch opening true e :: es.map (r.branch .next false)

/-- What is done with a message that no rule asks for. -/
def catchAll : List Command :=
  [.addFlag Sieve.seenFlag, .fileInto Folder.unknown]

/-- The end of a chain: the catch-all is the last branch, or stands alone where there is no
chain. -/
def closing (chained : Bool) : List Command :=
  if chained then [.otherwise catchAll] else catchAll

/-- The branches of the set on their own or after an open chain, with the catch-all or without. -/
def chain (r : RuleSet) (closed continues : Bool) : List Command :=
  let branches := r.branches (if continues then .next else .first)
  if closed then branches ++ closing (!branches.isEmpty || continues) else branches

end RuleSet

end FolderSieve
