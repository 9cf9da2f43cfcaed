import FolderSieve.Sorting
import FolderSieve.Text.Line
import FolderSieve.Text.Utf8

/-!
# Workspaces

The files the program can see, as a value: a directory tree, and the directory in it that relative
paths start from.  A path is looked up name by name; `reach` says where it leads, or what stands
in the way.  Reading changes nothing, and `write` changes the one file that its path leads to.
-/

namespace FolderSieve

/-- A path: the slashes it starts with, and the names after them. -/
structure Path where
  root : String
  names : List String
  deriving DecidableEq, Repr

namespace Path

/-- Reads a path.  Empty names and single points are left out; only two slashes at the start
differ from one. -/
def ofString (s : String) : Path :=
  let slashes := s.toList.takeWhile (· == '/')
  { root :=
      match slashes.length with
      | 0 => ""
      | 2 => "//"
      | _ => "/"
    names := ((Text.split '/' s.toList).map String.ofList).filter fun n => n != "" && n != "." }

/-- A path as text; the path of the working directory is a point. -/
def toString (p : Path) : String :=
  if p.root = "" ∧ p.names = [] then "." else p.root ++ "/".intercalate p.names

/-- The path of a file in the directory at `p`. -/
def inside (p : Path) (name : String) : Path :=
  { p with names := p.names ++ [name] }

end Path

/-- A location in a workspace: the names that lead to it from the top of the tree. -/
abbrev Location := List String

/-- What stands at a location. -/
inductive Entry where
  | directory
  | file (content : List UInt8)
  deriving DecidableEq, Repr

/-- Why a file cannot be opened. -/
inductive Refusal where
  | missing
  | notDirectory
  | isDirectory
  | nameTooLong
  /-- The path holds a null character, which no name can. -/
  | unnameable
  deriving DecidableEq, Repr

namespace Refusal

def message : Refusal → String
  | .missing => "No such file or directory"
  | .notDirectory => "Not a directory"
  | .isDirectory => "Is a directory"
  | .nameTooLong => "File name too long"
  | .unnameable => "embedded null byte"

end Refusal

/-- Entries by location, and the working directory.  The working directory and the directories
above it or above an entry need no entry of their own. -/
structure Workspace where
  entries : List (Location × Entry) := []
  start : Location := []

namespace Workspace

/-- What stands at a location, if anything. -/
def at? (w : Workspace) (loc : Location) : Option Entry :=
  match w.entries.find? fun e => e.1 == loc with
  | some e => some e.2
  | none =>
      if loc.isPrefixOf w.start ∨ w.entries.any fun e => loc.isPrefixOf e.1 then
        some .directory
      else none

/-- The workspace with an entry at a location. -/
def put (w : Workspace) (loc : Location) (entry : Entry) : Workspace :=
  { w with entries := w.entries.filter (fun e => e.1 != loc) ++ [(loc, entry)] }

/-- The longest name of a file, in bytes. -/
def nameLimit : Nat :=
  255

/-- A path with so many bytes is too long. -/
def pathLimit : Nat :=
  4096

/-- Where names lead to from a location.  Each location on the way has to be a directory; the last
need not exist.  Two points lead to the directory above, and at the top of the tree nowhere. -/
def reachFrom (w : Workspace) (loc : Location) : List String → Except Refusal Location
  | [] => .ok loc
  | name :: names =>
      match w.at? loc with
      | none => .error .missing
      | some (.file _) => .error .notDirectory
      | some .directory =>
          if nameLimit < name.utf8ByteSize then .error .nameTooLong
          else if name = ".." then reachFrom w loc.dropLast names
          else reachFrom w (loc ++ [name]) names

/-- The location that a path leads to. -/
def reach (w : Workspace) (p : Path) : Except Refusal Location :=
  if p.toString.toList.contains '\x00' then .error .unnameable
  else if pathLimit ≤ p.toString.utf8ByteSize then .error .nameTooLong
  else w.reachFrom (if p.root = "" then w.start else []) p.names

/-- What a path leads to. -/
def find (w : Workspace) (p : Path) : Except Refusal Entry :=
  match w.reach p with
  | .error r => .error r
  | .ok loc =>
      match w.at? loc with
      | none => .error .missing
      | some entry => .ok entry

/-- The content of the file that a path leads to. -/
def read (w : Workspace) (p : Path) : Except Refusal (List UInt8) :=
  match w.find p with
  | .error r => .error r
  | .ok .directory => .error .isDirectory
  | .ok (.file content) => .ok content

/-- Whether a path leads to an entry with a property.  A missing file has none; a name that is
too long for a file is refused. -/
def holds (w : Workspace) (p : Path) (property : Entry → Bool) : Except Refusal Bool :=
  match w.find p with
  | .ok entry => .ok (property entry)
  | .error .nameTooLong => .error .nameTooLong
  | .error _ => .ok false

/-- A path leads to a file. -/
def isFile (w : Workspace) (p : Path) : Except Refusal Bool :=
  w.holds p fun
    | .file _ => true
    | .directory => false

/-- A path leads to a directory. -/
def isDirectory (w : Workspace) (p : Path) : Except Refusal Bool :=
  w.holds p fun
    | .file _ => false
    | .directory => true

/-- Writes the file that a path leads to. -/
def write (w : Workspace) (p : Path) (text : String) : Except Refusal Workspace :=
  match w.reach p with
  | .error r => .error r
  | .ok loc =>
      match w.at? loc with
      | some .directory => .error .isDirectory
      | none | some (.file _) => .ok (w.put loc (.file (Text.Utf8.encode text)))

/-- The path of a location: from the working directory if it lies there, from the top if not. -/
def pathOf (w : Workspace) (loc : Location) : String :=
  if w.start.isPrefixOf loc then "/".intercalate (loc.drop w.start.length)
  else "/" ++ "/".intercalate loc

/-- The files of a workspace that are not the same in an earlier one, by ascending path. -/
def changes (before after : Workspace) : List (String × List UInt8) :=
  let changed := after.entries.filterMap fun e =>
    match e.2 with
    | .directory => none
    | .file content =>
        if before.at? e.1 = some e.2 then none else some (after.pathOf e.1, content)
  sortBy (fun a b => a.1 ≤ b.1) changed

end Workspace

end FolderSieve
