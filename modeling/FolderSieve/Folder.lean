import FolderSieve.Text.Blank
import FolderSieve.Text.Line
import FolderSieve.Text.Lowercase

/-!
# Folders

A folder is named by its path, the names from the top folder down with slashes between them.  The
folder `Unknown` and those below it take the mail that nothing else asks for.  A folder map may
hold rules for its own folder under the name `self`.

From a path comes the localpart that mail to the folder is expected at, `genericLocalpart`, and
the row of folders that lead to it, `chain`.
-/

namespace FolderSieve.Folder

/-- The catch-all folder. -/
def unknown : String :=
  "Unknown"

/-- The folder that shows what was marked as read. -/
def unread : String :=
  "unread"

/-- The name by which a folder map speaks of its own folder. -/
def selfName : String :=
  "self"

/-- The catch-all folder, or one below it. -/
def isUnknown (path : String) : Bool :=
  path == unknown || (unknown ++ "/").toList.isPrefixOf path.toList

/-- The path of the folder `name` in the folder at `path`; the top has no path of its own. -/
def join (path name : String) : String :=
  if path = "" then name else path ++ "/" ++ name

/-- The path of what a folder map at `path` holds under `name`. -/
def child (path name : String) : String :=
  if name = selfName then path else join path name

/-- The names along a path. -/
def names (path : String) : List String :=
  (Text.split '/' path.toList).map String.ofList

/-- The last name along a path. -/
def lastName (path : String) : String :=
  (names path).getLast?.getD path

/-- White space becomes a hyphen and a slash a point, all in lower case. -/
def genericLocalpart (path : String) : String :=
  let dotted := (Text.collapseBlanks '-' path.toList).map fun c => if c = '/' then '.' else c
  String.ofList (Text.lower dotted)

/-- The folders reached from `path` by one name after another. -/
def chainFrom (path : String) : List String → List String
  | [] => []
  | name :: names => join path name :: chainFrom (join path name) names

/-- The folders from the top one down to the one at `path`. -/
def chain (path : String) : List String :=
  chainFrom "" (names path)

end FolderSieve.Folder
