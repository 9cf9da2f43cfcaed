import FolderSieve.Config.OneOrMany
import FolderSieve.Options
import FolderSieve.Sorting
import FolderSieve.Text.Blank

/-!
# Rules — rule sets

A rule set holds at most one rule for a folder.  `register` adds a rule once its path, its labels
and its localparts have been found in order, or leaves the set alone: localparts that are one
empty text ask for no rule.  `ordered` lists the rules by descending path, so that a folder comes
before the folders it lies in.
-/

namespace FolderSieve

/-- The labels of a rule: names in ascending order, each with its keywords. -/
abbrev RuleLabels := List (String × List String)

/-- The rule for a folder. -/
structure Rule where
  localparts : List String
  labels : Option RuleLabels
  options : Options
  deriving DecidableEq, Repr

/-- A set of rules with a name.  Its folders lie below `home`, which is empty or ends in a
slash. -/
structure RuleSet where
  name : String
  home : String
  entries : List (String × Rule) := []
  deriving DecidableEq, Repr

namespace RuleSet

/-- Labels as a configuration gives them: names, and the keywords of each. -/
abbrev GivenLabels := List (String × Config.OneOrMany)

/-- A label of a rule for the folder at `path`: a name and keywords, none of them blank. -/
def readLabel (path name : String) (keywords : Config.OneOrMany) :
    Except Config.Error (String × List String) := do
  if Text.allBlank name.toList then
    throw ⟨.labelBlank, { folder := path, field := "labels" }⟩
  let _ ← (Config.OneOrMany.one name).normalize "label" path
  let keywords ← keywords.normalize "label keywords" path
  if keywords.any fun k => Text.allBlank k.toList then
    throw ⟨.keywordBlank, { folder := path, field := s!"labels.{name}" }⟩
  return (name, keywords)

/-- Labels by ascending name. -/
def sortLabels (labels : GivenLabels) : GivenLabels :=
  sortBy (fun a b => a.1 ≤ b.1) labels

/-- The labels of a rule for the folder at `path`. -/
def readLabels (path : String) : Option GivenLabels → Except Config.Error (Option RuleLabels)
  | none => .ok none
  | some labels => ((sortLabels labels).mapM fun l => readLabel path l.1 l.2).map some

/-- The set has a rule for the folder at `path`. -/
def has (r : RuleSet) (path : String) : Bool :=
  r.entries.any fun e => e.1 == path

/-- The set with a rule for the folder at `path`. -/
def register (r : RuleSet) (path : String) (localparts : Config.OneOrMany)
    (labels : Option GivenLabels) (options : Options) : Except Config.Error RuleSet := do
  if path = "" then throw ⟨.rulePathEmpty r.name, {}⟩
  let labels ← readLabels path labels
  if localparts = .one "" then return r
  if r.has path then throw ⟨.ruleTwice r.name, { folder := path }⟩
  let localparts ← localparts.normalize "localparts" path
  return { r with entries := r.entries ++ [(path, ⟨localparts, labels, options⟩)] }

/-- How many rules the set has. -/
def size (r : RuleSet) : Nat :=
  r.entries.length

/-- The rules by descending path. -/
def ordered (r : RuleSet) : List (String × Rule) :=
  sortBy (fun a b => b.1 ≤ a.1) r.entries

end RuleSet

end FolderSieve
