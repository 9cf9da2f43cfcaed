import FolderSieve.Program.Run

/-!
# The program

`main` shows a run the variables and the files that it asks for, and then does what the run says.
It decides nothing itself.
-/

namespace FolderSieve

/-- What stands at a path of the file system. -/
def entryAt? (path : String) : IO (Option Entry) := do
  try
    let content ← IO.FS.readBinFile path
    return some (.file content.toList)
  catch
    | .noFileOrDirectory .. => return none
    | _ => return some .directory

/-- The workspace with what stands at the places along a path. -/
def lookAlong (w : Workspace) (path : String) : IO Workspace := do
  let p := Path.ofString path
  let mut w := w
  let mut walked : List String := []
  for name in p.names do
    walked := walked ++ [name]
    let here : Path := { p with names := walked }
    match w.reach here, ← entryAt? here.toString with
    | .ok loc, some entry => w := w.put loc entry
    | _, _ => pure ()
  return w

/-- The variables with the given names that the process has. -/
def variablesNamed (names : List String) : IO Settings.Environment :=
  names.filterMapM fun name => return (← IO.getEnv name).map fun value => (name, value)

/-- The workspace of the process before any file has been looked at. -/
def emptyWorkspace : IO Workspace := do
  return { start := (Path.ofString (← IO.currentDir).toString).names }

/-- Prints what a run prints, and reports what it reports. -/
def showRun (r : Program.Run) : IO UInt32 := do
  let err ← IO.getStderr
  for e in r.events do
    err.putStr s!"{e.level.name}: {e.message}\n"
  err.putStr r.stderr
  if let some crash := r.crash then
    err.putStr s!"sievegen: {crash.message}\n"
  (← IO.getStdout).putStr r.stdout
  return r.exitCode.toUInt32

/-- Writes the files that a run has changed, and shows the run; or shows what became of it if a
file cannot be written. -/
def finish (before : Workspace) (task : Program.Task) (r : Program.Run) : IO UInt32 := do
  for (path, content) in Workspace.changes before r.workspace do
    try
      IO.FS.writeBinFile path ⟨content.toArray⟩
    catch _ =>
      if let .build plan := task then
        let script := String.ofList ((Text.Utf8.decode content).toOption.getD [])
        return ← showRun (Program.dumped before r.events.dropLast plan.output script).plain
  showRun r

end FolderSieve

open FolderSieve

/-- Runs the program with the arguments, the variables and the files of the process. -/
def main (arguments : List String) : IO UInt32 := do
  let env ← variablesNamed (Settings.names.map (Settings.variablePrefix ++ ·))
  let w ← lookAlong (← emptyWorkspace) (Settings.filePath env)
  let file := ((w.read (.ofString (Settings.filePath env))).toOption.getD []).map
    fun b => Char.ofNat b.toNat
  let env := env ++ (← variablesNamed (EnvFile.references file))
  match Settings.load env w with
  | .error crash => showRun (.crashes w crash)
  | .ok s =>
      let task := Program.Task.ofArguments s arguments
      let w ← (task.paths ++ task.paths.map (· ++ "/" ++ Program.outputName)).foldlM lookAlong w
      finish w task (Program.perform w task)
