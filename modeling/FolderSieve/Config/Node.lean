import FolderSieve.Config.OneOrMany
import FolderSieve.Config.OptionsBlock
import FolderSieve.Folder

/-!
# Configuration — nodes of a folder tree

A node is a simple filter (its localparts), a full filter (localparts, labels and options), or a
map of folders.  In JSON a filter is `true`, a string or a list of strings if it is simple, and an
object with the key `localparts` if it is full; any other object is a map of folders.  `true` asks
for no localpart of its own.

`decode` names the folder a mistake stands in.  The names of a map are checked before anything
below it is read.
-/

namespace FolderSieve.Config

/-- Names of labels, each with the keywords that ask for it. -/
abbrev Labels := List (String × OneOrMany)

inductive Node where
  | simple (localparts : OneOrMany)
  | full (localparts : OneOrMany) (labels : Option Labels) (options : Option Override)
  | folders (children : List (String × Node))

namespace Node

/-- Labels one by one, each name before its keywords. -/
def readLabels : Json.Members → Checked Labels
  | [] => .ok []
  | (name, v) :: ms =>
      let key := (OneOrMany.readText (.string name)).under (.key "[key]")
      let label := (key.both Prod.mk (OneOrMany.read v)).under (.key name)
      label.both List.cons (readLabels ms)

/-- The labels of a filter; null means none. -/
def readLabels? : Option Json.Value → Checked (Option Labels)
  | none | some .null => .ok none
  | some (.object ms) => (readLabels ms).map some
  | some _ => .error ⟨.notDictionary, []⟩

/-- The options of a filter; null means none. -/
def readOptions? : Option Json.Value → Checked (Option Override)
  | none | some .null => .ok none
  | some v => (OptionsBlock.read v).map some

/-- A full filter. -/
def readFull (ms : Json.Members) : Checked Node :=
  let localparts := (OneOrMany.read ((ms.get? "localparts").getD .null)).under (.key "localparts")
  let labels := (readLabels? (ms.get? "labels")).under (.key "labels")
  let options := (readOptions? (ms.get? "options")).under (.key "options")
  let node := localparts.both (fun l (b, o) => Node.full l b o) (labels.both Prod.mk options)
  node.both (fun n _ => n) (OptionsBlock.noOthers ["localparts", "labels", "options"] ms)

/-- A simple filter. -/
def readSimple (v : Json.Value) : Checked Node :=
  ((OneOrMany.read v).under (.key "localparts")).map .simple

/-- What is told of a filter in the folder at `path`. -/
def atFolder (path : String) (r : Checked Node) : Except Error Node :=
  r.mapError fun f => ⟨.filterFlawed f.fault, { folder := path, field := f.field }⟩

/-- The names of a map of folders are free of control characters. -/
def checkNames (path : String) (ms : Json.Members) : Except Error Unit :=
  match ms.find? fun m => Text.hasControl m.1 with
  | none => .ok ()
  | some m => .error ⟨.folderControl, { folder := Folder.child path m.1 }⟩

mutual

/-- The node that a value stands for in the folder at `path`. -/
def decode (path : String) : Json.Value → Except Error Node
  | .bool true => .ok (.simple (.one ""))
  | .string s => atFolder path (readSimple (.string s))
  | .array items => atFolder path (readSimple (.array items))
  | .object ms =>
      if Json.Members.has ms "localparts" then atFolder path (readFull ms)
      else (checkNames path ms).bind fun _ => (decodeChildren path ms).map .folders
  | v@(.null) | v@(.bool false) | v@(.int _) | v@(.real _) =>
      .error ⟨.unexpected v.kindName, { folder := path }⟩

/-- The nodes of a map of folders, in order. -/
def decodeChildren (path : String) : List (String × Json.Value) → Except Error (List (String × Node))
  | [] => .ok []
  | (name, v) :: ms =>
      match decode (Folder.child path name) v with
      | .error e => .error e
      | .ok node => (decodeChildren path ms).map ((name, node) :: ·)

end

end Node

end FolderSieve.Config
