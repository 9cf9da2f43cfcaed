import FolderSieve.Config.Node

/-!
# Configuration — domains

A configuration is an object of domains.  A domain is an object of folders with one key set
apart: `options`, a block that says whether every folder goes below one named after the domain,
and which secrets a derived localpart has to end in.
-/

namespace FolderSieve.Config

/-- The options of a domain. -/
structure DomainOptions where
  firstFolder : Bool := false
  secrets : Option OneOrMany := none
  deriving DecidableEq, Repr

namespace DomainOptions

/-- The key of the first-folder option, and the spelling that is taken in its place. -/
def firstFolderKeys : String × String :=
  ("domain-as-first-folder", "domain_as_first_folder")

/-- The spelling that a block uses; the second counts only where the first is missing. -/
def firstFolderKey (ms : Json.Members) : String :=
  if ms.has firstFolderKeys.1 || !ms.has firstFolderKeys.2 then firstFolderKeys.1
  else firstFolderKeys.2

/-- The first-folder option, which must not be null. -/
def readFirstFolder (ms : Json.Members) : Checked Bool :=
  let key := firstFolderKey ms
  match ms.get? key with
  | none => .ok false
  | some (.bool b) => .ok b
  | some _ => .error ⟨.notBoolean, [.key key]⟩

/-- The secrets; null means none. -/
def readSecrets (ms : Json.Members) : Checked (Option OneOrMany) :=
  match ms.get? "secrets" with
  | none | some .null => .ok none
  | some v => ((OneOrMany.read v).under (.key "secrets")).map some

/-- An options block of a domain. -/
def read : Json.Value → Checked DomainOptions
  | .object ms =>
      let options := (readFirstFolder ms).both DomainOptions.mk (readSecrets ms)
      options.both (fun o _ => o) (OptionsBlock.noOthers [firstFolderKey ms, "secrets"] ms)
  | _ => .error ⟨.notBlock "DomainOptions", []⟩

/-- What derived localparts end in: the secrets, or nothing if none is set. -/
def suffixes (o : DomainOptions) : Except Error (List String) :=
  match o.secrets with
  | none => .ok [""]
  | some secrets => secrets.normalize "secrets"

end DomainOptions

/-- A domain as configured. -/
structure Domain where
  name : String
  options : DomainOptions
  tree : Node

namespace Domain

/-- The key of the options block. -/
def optionsKey : String :=
  "options"

/-- The options block of a domain; a missing one is empty. -/
def decodeOptions (ms : Json.Members) : Except Error DomainOptions :=
  match (ms.get? optionsKey).getD (.object []) with
  | .object block =>
      (DomainOptions.read (.object block)).mapError fun f =>
        ⟨.optionsFlawed f.fault, { field := (f.under (.key optionsKey)).field }⟩
  | _ => .error ⟨.optionsNotObject, { field := optionsKey }⟩

/-- The options and the folder tree of a domain, the secrets looked at in between. -/
def decodeMembers (name : String) (ms : Json.Members) : Except Error Domain :=
  (decodeOptions ms).bind fun options =>
    options.suffixes.bind fun _ =>
      (Node.decode "" (.object (ms.without optionsKey))).map fun tree => ⟨name, options, tree⟩

/-- The domain called `name` that a value stands for. -/
def decode (name : String) (v : Json.Value) : Except Error Domain :=
  if name = "" then .error ⟨.domainUnnamed, {}⟩
  else if Text.hasControl name then .error ⟨.domainControl, { domain := name }⟩
  else
    match v with
    | .object ms => (decodeMembers name ms).mapError (Error.inDomain name)
    | _ => .error ⟨.domainNotObject, { domain := name }⟩

/-- The domains of a configuration, in order. -/
def decodeAll : Json.Value → Except Error (List Domain)
  | .object ms => ms.mapM fun m => decode m.1 m.2
  | _ => .error ⟨.configNotObject, {}⟩

end Domain

end FolderSieve.Config
