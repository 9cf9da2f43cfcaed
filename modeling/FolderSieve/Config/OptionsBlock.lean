import FolderSieve.Config.Flaw
import FolderSieve.Json.Value
import FolderSieve.Options

/-!
# Configuration — the options of a folder

An options block is an object with the keys `generic`, `fullpath` and `silent`, each a boolean or
null for an open option.  Two further keys stand for one of these: `orphan` is the opposite of
`fullpath`, and `mark_as_read` is `silent`.  Such an alias must be a boolean, and where its option
is written as well the two must agree.
-/

namespace FolderSieve.Config.OptionsBlock

/-- A key that stands for an option, or for its opposite. -/
structure Alias where
  name : String
  option : String
  inverted : Bool

/-- The aliases, in the order in which they are looked at. -/
def aliases : List Alias :=
  [⟨"orphan", "fullpath", true⟩, ⟨"mark_as_read", "silent", false⟩]

/-- The keys of the options themselves. -/
def optionKeys : List String :=
  ["generic", "fullpath", "silent"]

/-- Writes an alias as its option. -/
def fold (a : Alias) (ms : Json.Members) : Checked Json.Members :=
  match ms.get? a.name with
  | none => .ok ms
  | some (.bool b) =>
      let b := b != a.inverted
      match ms.get? a.option with
      | none => .ok ((ms.without a.name).put a.option (.bool b))
      | some v =>
          if v.isTruth b then .ok ((ms.without a.name).put a.option (.bool b))
          else .error ⟨.aliasContradicts a.name a.option, []⟩
  | some _ => .error ⟨.aliasNotBoolean a.name, []⟩

/-- An option: a boolean, or open. -/
def readOption (ms : Json.Members) (key : String) : Checked (Option Bool) :=
  match ms.get? key with
  | none | some .null => .ok none
  | some (.bool b) => .ok (some b)
  | some _ => .error ⟨.notBoolean, [.key key]⟩

/-- No key but the known ones. -/
def noOthers (known : List String) (ms : Json.Members) : Checked Unit :=
  match ms.find? fun m => !known.contains m.1 with
  | none => .ok ()
  | some m => .error ⟨.unknownKey, [.key m.1]⟩

/-- A block whose aliases are written out. -/
def readOptions (ms : Json.Members) : Checked Override :=
  let generic := readOption ms "generic"
  let fullpath := readOption ms "fullpath"
  let silent := readOption ms "silent"
  let triple := generic.both (fun g (f, s) => (⟨g, f, s⟩ : Override))
    (fullpath.both Prod.mk silent)
  triple.both (fun o _ => o) (noOthers optionKeys ms)

/-- An options block. -/
def read : Json.Value → Checked Override
  | .object ms => (aliases.foldlM (fun ms a => fold a ms) ms).bind readOptions
  | _ => .error ⟨.notBlock "FilterOptions", []⟩

end FolderSieve.Config.OptionsBlock
