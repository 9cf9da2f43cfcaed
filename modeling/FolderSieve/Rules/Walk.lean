import FolderSieve.Config.Domain
import FolderSieve.Event
import FolderSieve.Rules.Chain

/-!
# Rules — the walk through a folder tree

The walk of a tree is a row of steps, `Config.Node.steps`, that does not depend on the rules there
are: rules to register, options to warn of, and mistakes that end it.  `DomainRules.follow` takes
the steps one by one and stops at the first that fails; what came before it stays.

A filter asks for a custom rule with its localparts.  Every folder whose settled options are
generic asks for a generic rule as well, with localparts made from its name and the secrets of the
domain.  A folder that says `self` leaves its generic rule to that node.
-/

namespace FolderSieve

/-- The two rule sets of a domain. -/
inductive Origin where
  | custom
  | generic
  deriving DecidableEq, Repr

/-- A rule to be registered. -/
structure Registration where
  origin : Origin
  path : String
  localparts : Config.OneOrMany
  labels : Option Config.Labels
  options : Options

/-- A step of a walk. -/
inductive WalkStep where
  | register (r : Registration)
  | warn (path : String) (written : Override)
  | fail (e : Config.Error)

namespace Folder

/-- In the catch-all folder two options are settled whatever else is written. -/
def pin (path : String) (o : Options) : Options :=
  if isUnknown path then Override.unknownMask.resolve o else o

end Folder

/-- The localparts that ask for the folder at `path` by its name: the name with each secret behind
it, and the same with a point and anything behind that. -/
def genericLocalparts (secrets : List String) (path : String) (fullpath : Bool) : List String :=
  let stem := Folder.genericLocalpart (if fullpath then path else Folder.lastName path)
  secrets.flatMap fun secret => [stem ++ secret, stem ++ secret ++ ".*"]

/-- The generic rule of a folder, if it has one; the top has none. -/
def genericSteps (secrets : List String) (path : String) (labels : Option Config.Labels)
    (options : Options) : List WalkStep :=
  if path ≠ "" ∧ options.generic then
    [.register ⟨.generic, path, .many (genericLocalparts secrets path options.fullpath), labels,
      options⟩]
  else []

/-- A filter of the catch-all folder writes an option against what is settled there. -/
def contradictsUnknown (written : Override) : Bool :=
  written.generic == some true || written.silent == some false

/-- A warning where the options of the catch-all folder are contradicted. -/
def warnSteps (path : String) (written : Override) : List WalkStep :=
  if Folder.isUnknown path && contradictsUnknown written then [.warn path written] else []

/-- To write `fullpath` asks for a generic rule and for a folder that is not at the top. -/
def fullpathSteps (path : String) (written : Override) (options : Options) : List WalkStep :=
  if written.fullpath.isNone then []
  else
    let place : Config.Place := { folder := path, field := "options.fullpath" }
    if !options.generic then [.fail ⟨.fullpathWithoutGeneric, place⟩]
    else if !path.toList.contains '/' then [.fail ⟨.fullpathAtTop, place⟩]
    else []

/-- What is wrong with a folder map at `path` that holds `name`, if anything. -/
def nameMistake? (path name : String) (alone : Bool) : Option Config.Error :=
  if name = "" then some ⟨.folderUnnamed, { folder := path }⟩
  else if name = Folder.selfName then
    if path = "" then some ⟨.selfAtRoot, {}⟩
    else if alone then some ⟨.selfAlone, { folder := path }⟩
    else none
  else none

namespace Config.Node

mutual

/-- The walk of a node at `path` whose enclosing folder has the options `inherited`. -/
def steps (secrets : List String) (path : String) (inherited : Options) : Node → List WalkStep
  | .simple localparts =>
      let options := Folder.pin path inherited
      .register ⟨.custom, path, localparts, none, options⟩ ::
        genericSteps secrets path none options
  | .full localparts labels none =>
      let options := Folder.pin path inherited
      .register ⟨.custom, path, localparts, labels, options⟩ ::
        genericSteps secrets path labels options
  | .full localparts labels (some written) =>
      let options := Folder.pin path (written.resolve (Folder.pin path inherited))
      warnSteps path written ++ fullpathSteps path written options ++
        .register ⟨.custom, path, localparts, labels, options⟩ ::
          genericSteps secrets path labels options
  | .folders children =>
      let inherited := Folder.pin path inherited
      if children.isEmpty then [.fail ⟨.noFolders, { folder := path }⟩]
      else
        let saysSelf := children.any fun c => c.1 == Folder.selfName
        childrenSteps secrets path inherited (children.length == 1) children ++
          genericSteps secrets path none
            { inherited with generic := inherited.generic && !saysSelf }

/-- The walks of the children of a folder map, in order. -/
def childrenSteps (secrets : List String) (path : String) (inherited : Options) (alone : Bool) :
    List (String × Node) → List WalkStep
  | [] => []
  | (name, node) :: rest =>
      (match nameMistake? path name alone with
        | some e => [.fail e]
        | none => steps secrets (Folder.child path name) inherited node) ++
        childrenSteps secrets path inherited alone rest

end

end Config.Node

/-- The rules of a domain, and the secrets that its generic rules ask for. -/
structure DomainRules where
  domain : String
  secrets : List String
  custom : RuleSet
  generic : RuleSet

namespace DomainRules

/-- A domain without rules.  Without secrets a generic rule asks for the name alone. -/
def empty (domain : String) (firstFolder : Bool) (secrets : List String) : DomainRules :=
  let home := if firstFolder then "@" ++ domain ++ "/" else ""
  { domain
    secrets := if secrets.isEmpty then [""] else secrets
    custom := ⟨"Custom", home, []⟩
    generic := ⟨"Generic", home, []⟩ }

/-- Adds a rule to the set it belongs to. -/
def register (d : DomainRules) (r : Registration) : Except Config.Error DomainRules :=
  match r.origin with
  | .custom =>
      (d.custom.register r.path r.localparts r.labels r.options).map fun custom =>
        { d with custom }
  | .generic =>
      (d.generic.register r.path r.localparts r.labels r.options).map fun generic =>
        { d with generic }

/-- Where steps lead: the rules there are then, what was warned of, and the mistake that ended
the walk, if one did. -/
structure Walked where
  rules : DomainRules
  warnings : List Event
  failure : Option Config.Error

/-- Takes steps until one fails. -/
def follow (d : DomainRules) : List WalkStep → Walked
  | [] => ⟨d, [], none⟩
  | .fail e :: _ => ⟨d, [], some e⟩
  | .warn path written :: rest =>
      let w := d.follow rest
      { w with warnings := .optionsIgnored path written :: w.warnings }
  | .register r :: rest =>
      match d.register r with
      | .error e => ⟨d, [], some e⟩
      | .ok d => d.follow rest

/-- Walks a folder tree.  A mistake is one of this domain. -/
def walk (d : DomainRules) (tree : Config.Node) : Walked :=
  match tree with
  | .folders _ =>
      let w := d.follow (tree.steps d.secrets "" .root)
      { w with failure := w.failure.map (Config.Error.inDomain d.domain) }
  | .simple _ | .full .. => ⟨d, [], some ⟨.rootNotFolders, { domain := d.domain }⟩⟩

/-- The custom rules, then the generic rules in the same chain, and the catch-all at its end. -/
def commands (d : DomainRules) : List Sieve.Command :=
  let custom := d.custom.chain false false
  custom ++ d.generic.chain true (!custom.isEmpty)

end DomainRules

end FolderSieve
