import FolderSieve.Program.Help

/-!
# Program — tasks

What the program is asked to do, as its arguments and settings say: to build or to check a
configuration, or only to show a page.
-/

namespace FolderSieve.Program

/-- What a build is asked to do. -/
structure BuildPlan where
  config : String
  preamble : String
  output : String
  firstFolder : Bool
  deriving DecidableEq, Repr

/-- What the program is asked to do. -/
inductive Task where
  /-- Shows a page that was asked for. -/
  | print (page : String)
  /-- Shows a page where nothing was asked for. -/
  | remind (page : String)
  /-- Says what is wrong with the arguments. -/
  | refuse (complaint : String)
  | build (plan : BuildPlan)
  | check (config : String)
  deriving DecidableEq, Repr

namespace Task

/-- The task of a command with its own arguments. -/
def ofOptions (s : Settings) (c : CommandName) (t : OptionTable) (arguments : List String)
    (task : Scanned → Task) : Task :=
  match scan t true arguments with
  | .error e => .refuse (c.complain e)
  | .ok scanned =>
      if scanned.has .help then .print (c.page s)
      else if scanned.rest.isEmpty then task scanned
      else .refuse (c.complain (.tooManyArguments scanned.rest))

/-- The plan of a build with the given options. -/
def planOf (s : Settings) (given : Scanned) : BuildPlan where
  config := given.valueOr .config s.configPath
  preamble := given.valueOr .preamble s.preamblePath
  output := given.valueOr .output s.outputPath
  firstFolder := given.firstFolderOr s.forceFirstFolder

/-- The task where no command has the given name.  Behind two hyphens the name may still be an
option of the program. -/
def ofUnknown (s : Settings) (name : String) (arguments : List String) : Task :=
  let unknown : Task :=
    .refuse (CommandName.main.complain
      (.unknownCommand name (Text.closeMatches name ["build", "check"])))
  if isOption name then
    match scan mainTable false (name :: arguments) with
    | .error e => .refuse (CommandName.main.complain e)
    | .ok scanned => if scanned.has .help then .print (CommandName.main.page s) else unknown
  else unknown

/-- The task of the command called `name`. -/
def ofCommand (s : Settings) (name : String) (arguments : List String) : Task :=
  if name = "build" then
    ofOptions s .build buildTable arguments fun given => .build (planOf s given)
  else if name = "check" then
    ofOptions s .check checkTable arguments fun given =>
      .check (given.valueOr .config s.configPath)
  else ofUnknown s name arguments

/-- The task of the whole command line. -/
def ofArguments (s : Settings) (arguments : List String) : Task :=
  if arguments.isEmpty then .remind (CommandName.main.page s)
  else
    match scan mainTable false arguments with
    | .error e => .refuse (CommandName.main.complain e)
    | .ok scanned =>
        if scanned.has .help then .print (CommandName.main.page s)
        else
          match scanned.rest with
          | [] => .refuse (CommandName.main.complain .commandMissing)
          | name :: arguments => ofCommand s name arguments

/-- The files that a task looks at. -/
def paths : Task → List String
  | .print _ | .remind _ | .refuse _ => []
  | .build plan => [plan.config, plan.preamble, plan.output]
  | .check config => [config]

end Task

end FolderSieve.Program
