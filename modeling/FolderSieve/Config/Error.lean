import FolderSieve.Config.Flaw

/-!
# Configuration — errors

A configuration error is a mistake and its place.  `Mistake.message` words each mistake, and
`Place.annotate` adds the known parts of the place behind the message.
-/

namespace FolderSieve.Config

/-- Where a mistake stands; an empty part is unknown. -/
structure Place where
  domain : String := ""
  folder : String := ""
  field : String := ""
  deriving DecidableEq, Repr

namespace Place

/-- The known parts of a place, each with its kind. -/
def parts (p : Place) : List String :=
  [("domain", p.domain), ("folder", p.folder), ("field", p.field)].filterMap fun part =>
    if part.2 = "" then none else some s!"{part.1} '{part.2}'"

/-- A message with the known parts of the place behind it. -/
def annotate (p : Place) (message : String) : String :=
  if p.parts.isEmpty then message else message ++ " (" ++ ", ".intercalate p.parts ++ ")"

end Place

/-- What an author of a configuration can get wrong. -/
inductive Mistake where
  /-- The configuration as a whole. -/
  | configNotObject
  | domainUnnamed
  | domainControl
  | domainNotObject
  | optionsNotObject
  | optionsFlawed (fault : Fault)
  /-- A node of a folder tree. -/
  | folderControl
  | filterFlawed (fault : Fault)
  | unexpected (kind : String)
  | rootNotFolders
  | noFolders
  | folderUnnamed
  | selfAtRoot
  | selfAlone
  | fullpathWithoutGeneric
  | fullpathAtTop
  /-- One or many texts that must not be empty; `name` says what they are. -/
  | textEmpty (name : String)
  | listEmpty (name : String)
  | itemEmpty (name : String)
  | itemControl (name : String)
  /-- A rule of the rule set with the given name. -/
  | rulePathEmpty (ruleSet : String)
  | ruleTwice (ruleSet : String)
  | labelBlank
  | keywordBlank
  deriving DecidableEq, Repr

namespace Mistake

def message : Mistake → String
  | .configNotObject => "Sieve config must be an object of domains"
  | .domainUnnamed => "Domain name cannot be empty string"
  | .domainControl => "Domain name cannot contain control characters"
  | .domainNotObject => "Domain config must be an object"
  | .optionsNotObject => "Domain options must be an object"
  | .optionsFlawed fault => s!"Invalid domain options: {fault.message}"
  | .folderControl => "Folder name cannot contain control characters"
  | .filterFlawed fault => s!"Invalid filter: {fault.message}"
  | .unexpected kind => s!"Expected a string, an array or an object, got {kind}"
  | .rootNotFolders => "Domain config must be an object of folders"
  | .noFolders => "This is an empty sieve config, expected at least one folder"
  | .folderUnnamed => "Empty string cannot be used for folder name"
  | .selfAtRoot => "'self' field is not supported at domain level"
  | .selfAlone => "'self' requires at least one sub-folder"
  | .fullpathWithoutGeneric => "'fullpath'/'orphan' has no effect without a generic filter"
  | .fullpathAtTop => "'fullpath'/'orphan' has no effect on a top-level folder"
  | .textEmpty name => s!"{name} cannot be empty string"
  | .listEmpty name => s!"Array of {name} cannot be empty"
  | .itemEmpty name => s!"Array of {name} cannot contain empty string"
  | .itemControl name => s!"{name} cannot contain control characters"
  | .rulePathEmpty ruleSet => s!"{ruleSet} filter registered with empty folder path"
  | .ruleTwice ruleSet => s!"{ruleSet} filter registered twice"
  | .labelBlank => "label cannot be empty string"
  | .keywordBlank => "Array of label keywords cannot contain blank string"

end Mistake

/-- A mistake in a configuration. -/
structure Error where
  mistake : Mistake
  place : Place := {}
  deriving DecidableEq, Repr

namespace Error

/-- The whole text of an error. -/
def text (e : Error) : String :=
  e.place.annotate e.mistake.message

/-- The error with its domain filled in. -/
def inDomain (domain : String) (e : Error) : Error :=
  { e with place := { e.place with domain } }

end Error

end FolderSieve.Config
